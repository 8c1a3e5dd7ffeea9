/-
Module: Narrative.Proofs.World.Cells
Purpose: Facts as cells of a store. References of different entities may denote the same cell; a
  manipulation sets the cell that its reference denotes and leaves all others, and is told of exactly if
  the cell has changed.
Main exports: Cell, World.Denotes, World.fact, Manipulation.result, World.Sets, World.sets_setTags,
  World.read_after_write
-/
import Narrative.Proofs.World.FocusWatch

namespace Narrative

/-! ### Cells -/

/-- What a fact is about: a holder, and the tag or the item that it may have. -/
structure Cell where
  holder : Holder
  name : String
deriving DecidableEq

namespace World

/-- The cell that a reference of an entity denotes: a tag of the entity itself, of the player, or of the
entity that a key leads to, or an item that the player holds. -/
inductive Denotes (world : World) (source : Nat) : Reference → Cell → Prop
  | own (tag : String) : Denotes world source (.own tag) ⟨.entity source, tag⟩
  | player (word tag : String) : Denotes world source (.player word tag) ⟨.player, tag⟩
  | inventory (word item : String) : Denotes world source (.inventory word item) ⟨.inventory, item⟩
  | keyed {key : String} {number : Nat} (leads : world.resolve? key = some number) (tag : String) :
      Denotes world source (.keyed key tag) ⟨.entity number, tag⟩

/-- Whether the fact in a cell holds. -/
def fact (world : World) (cell : Cell) : Bool := decide (cell.name ∈ world.tagsOf cell.holder)

variable {world after : World} {source : Nat} {reference : Reference} {cell : Cell}

namespace Denotes

theorem holderOf_eq (denotes : world.Denotes source reference cell) :
    world.holderOf source reference = .ok cell.holder := by
  cases denotes with
  | own | player | inventory => rfl
  | keyed leads tag => simp [holderOf, require, leads, Functor.map, Except.map]

theorem property_eq (denotes : world.Denotes source reference cell) :
    reference.property = cell.name := by
  cases denotes <;> rfl

/-- What is read through a reference is the fact in the cell that it denotes. -/
theorem hasFact_eq (denotes : world.Denotes source reference cell) :
    world.hasFact source reference = .ok (world.fact cell) := by
  unfold hasFact fact
  rw [denotes.holderOf_eq, denotes.property_eq]
  rfl

/-- Which cell a reference denotes is in the plan. -/
theorem of_plan_eq (denotes : world.Denotes source reference cell) (same : after.plan = world.plan) :
    after.Denotes source reference cell := by
  cases denotes with
  | own | player | inventory => constructor
  | keyed leads tag =>
      refine .keyed ?_ tag
      rw [← resolve?_plan, same, resolve?_plan, leads]

/-- A cell that an entity can refer to is one that there is. -/
theorem has_holder (denotes : world.Denotes source reference cell)
    (there : (world.entity? source).isSome = true) : world.Has cell.holder :=
  has_of_holderOf there denotes.holderOf_eq

end Denotes

end World

/-! ### Setting a cell -/

/-- What a manipulation makes of a fact. -/
def Manipulation.result : Manipulation → Bool → Bool
  | .add, _ => true
  | .remove, _ => false
  | .invert, before => !before

theorem TagSet.apply_snd (tags : TagSet) (tag : String) (manipulation : Manipulation) :
    (tags.apply tag manipulation).2 =
      decide (manipulation.result (decide (tag ∈ tags)) ≠ decide (tag ∈ tags)) := by
  cases manipulation <;> by_cases member : tag ∈ tags <;>
    simp [apply, add, remove, Manipulation.result, member]

theorem TagSet.mem_apply_fst (tags : TagSet) (tag other : String) (manipulation : Manipulation) :
    decide (other ∈ (tags.apply tag manipulation).1) =
      if other = tag then manipulation.result (decide (tag ∈ tags)) else decide (other ∈ tags) := by
  by_cases same : other = tag
  · subst same
    cases manipulation <;> by_cases member : other ∈ tags <;>
      simp [apply, add, remove, Manipulation.result, member]
  · cases manipulation <;> by_cases member : tag ∈ tags <;>
      simp [apply, add, remove, member, same]

namespace World

/-- The world after it has the value in the cell, and otherwise the facts that there were before; its
focus, its nodes with their numbers of tellings, and its plan are the same. -/
structure Sets (world : World) (cell : Cell) (value : Bool) (after : World) : Prop where
  facts : ∀ reader reference read, world.Denotes reader reference read →
    after.hasFact reader reference = if read = cell then .ok value else world.hasFact reader reference
  focus_eq : after.focus = world.focus
  nodes : ∀ path, after.node? path = world.node? path
  plan_eq : after.plan = world.plan

variable {world after : World} {cell : Cell} {value : Bool}

/-- The tags of a holder that there is can be set, and those of the others stay. -/
theorem tagsOf_setTags_eq {holder : Holder} (has : world.Has holder) (tags : TagSet)
    (other : Holder) :
    (world.setTags tags holder).tagsOf other = if other = holder then tags else world.tagsOf other := by
  cases holder with
  | player | inventory => cases other <;> simp [setTags, tagsOf, entity?]
  | entity number =>
      cases other with
      | player | inventory => simp [setTags, tagsOf]
      | entity another =>
          obtain ⟨entity, known⟩ := Option.isSome_iff_exists.1 has
          simp only [setTags, tagsOf, entity?, List.getElem?_modify, Holder.entity.injEq]
          by_cases here : number = another
          · subst here
            simp [show world.entities[number]? = some entity from known]
          · simp [here, Ne.symm here]

/-- To set the tags of a holder, with the membership of one tag as wanted, is to set its cell. -/
theorem sets_setTags (has : world.Has cell.holder) {tags : TagSet}
    (wanted : ∀ name, decide (name ∈ tags) =
      if name = cell.name then value else world.fact ⟨cell.holder, name⟩) :
    world.Sets cell value (world.setTags tags cell.holder) := by
  have plan := plan_setTags world tags cell.holder
  refine ⟨?_, ?_, node?_setTags world tags cell.holder, plan⟩
  · intro reader reference read denotes
    have facts : (world.setTags tags cell.holder).fact read =
        if read = cell then value else world.fact read := by
      unfold fact
      rw [tagsOf_setTags_eq has]
      obtain ⟨holder, name⟩ := read
      obtain ⟨target, tag⟩ := cell
      by_cases sameHolder : holder = target
      · subst sameHolder
        simpa [fact] using wanted name
      · simp [sameHolder]
    rw [(denotes.of_plan_eq plan).hasFact_eq, denotes.hasFact_eq, facts]
    split <;> rfl
  · cases cell.holder <;> rfl

/-- A cell that has the value already is set as it is. -/
theorem sets_self (same : world.fact cell = value) : world.Sets cell value world := by
  refine ⟨?_, rfl, fun _ => rfl, rfl⟩
  intro reader reference read denotes
  split
  next here =>
    subst here
    rw [denotes.hasFact_eq, same]
  next => rfl

/-- What the books hold is no fact. -/
theorem Sets.of_books (sets : world.Sets cell value after) (journal : List Event)
    (focusMoved : Bool) : world.Sets cell value { after with journal, focusMoved } :=
  ⟨sets.facts, sets.focus_eq, sets.nodes, sets.plan_eq⟩

/-! ### Manipulations -/

/-- The event that tells of the value of a cell. -/
def tellsOf (world : World) (cell : Cell) (value : Bool) : Event :=
  world.changeEvent cell.holder cell.name value

/-- A manipulation sets its cell, and is told of exactly if the cell has changed. -/
theorem exists_sets_manipulate (emit : Event → World → World) (has : world.Has cell.holder)
    (manipulation : Manipulation) :
    ∃ written, world.Sets cell (manipulation.result (world.fact cell)) written ∧
      (written.bus = world.bus ∧ written.journal = world.journal) ∧
      world.manipulate emit manipulation cell.name cell.holder =
        if manipulation.result (world.fact cell) = world.fact cell then written
        else emit (world.tellsOf cell (manipulation.result (world.fact cell))) written := by
  have changed := (world.tagsOf cell.holder).apply_snd cell.name manipulation
  have wanted := fun name => (world.tagsOf cell.holder).mem_apply_fst cell.name name manipulation
  have value := wanted cell.name
  rw [if_pos rfl] at value
  by_cases same : manipulation.result (world.fact cell) = world.fact cell
  · refine ⟨world, sets_self same.symm, ⟨rfl, rfl⟩, ?_⟩
    rw [if_pos same, World.manipulate]
    dsimp only
    rw [changed, if_neg]
    simpa [fact] using same
  · refine ⟨_, sets_setTags has wanted, ⟨?_, ?_⟩, ?_⟩
    · cases cell.holder <;> rfl
    · cases cell.holder <;> rfl
    · rw [if_neg same, World.manipulate]
      dsimp only
      rw [changed, if_pos (by simpa [fact] using same), value]
      rfl

/-- What is read after a manipulation. From an entity, a reference denotes a cell. There is the world
with what the manipulation makes of the fact in this cell, and all other facts, the focus, the numbers of
tellings and the plan as they were; and if the fact has changed, one event tells of it in this world.
Whoever listens and only notes events leaves that so: whatever is read through any reference of any
entity afterwards is the new fact if the reference denotes the same cell, and the old one otherwise; and
a recorder notes one event if the fact has changed, and none otherwise. -/
theorem read_after_write {source : Nat} (there : (world.entity? source).isSome = true)
    {reference : Reference} (denotes : world.Denotes source reference cell)
    (manipulation : Manipulation) (becomes : manipulation.result (world.fact cell) = value) :
    ∃ written, world.Sets cell value written ∧
      (written.bus = world.bus ∧ written.journal = world.journal) ∧
      world.applyImpact source (.manipulate manipulation reference) =
        .ok (if value = world.fact cell then written
          else written.emit (world.tellsOf cell value)) ∧
      (world.bus.Quiet →
        ∃ after, world.applyImpact source (.manipulate manipulation reference) = .ok after ∧
          world.Sets cell value after ∧
          after.journal = world.journal ++ if value = world.fact cell then []
            else List.replicate (world.bus.recorders (world.tellsOf cell value).kind)
              (world.tellsOf cell value)) := by
  subst becomes
  obtain ⟨written, sets, ⟨bus, journal⟩, manipulated⟩ :=
    exists_sets_manipulate World.emit (denotes.has_holder there) manipulation
  have applied : world.applyImpact source (.manipulate manipulation reference) =
      .ok (world.manipulate World.emit manipulation cell.name cell.holder) := by
    simp only [applyImpact, applyWith, denotes.holderOf_eq, denotes.property_eq]
    rfl
  rw [applied, manipulated]
  refine ⟨written, sets, ⟨bus, journal⟩, rfl, ?_⟩
  intro quiet
  refine ⟨_, rfl, ?_⟩
  split
  · exact ⟨sets, by rw [journal, List.append_nil]⟩
  · rw [emit_eq_of_quiet (bus ▸ quiet)]
    exact ⟨sets.of_books _ _, by rw [journal, bus]⟩

end World

/-- A cave with a niche, and a lamp. -/
def lampCave : Model.World where
  start := "cave"
  title := "Cave"
  player := { inventory? := some (.line "lamp") }
  locations := [{
    name := "Cave", key? := some "cave", tags? := some (.line "dark"), passage := {}
    disableExit := false, descriptors := [], interactions := [], combinations := []
    locations := [{
      name := "Niche", key? := none, tags? := none, passage := {}, disableExit := false
      descriptors := [], locations := [], interactions := [], combinations := [] }] }]
  items := [{
    name := "Lamp", key? := some "lamp", tags? := none, passage := {}, descriptors := []
    combinations := [] }]

namespace World

/-- The lamp is lit from the niche, by its key. The lamp itself is lit then, and the cave is as dark as it
was. -/
theorem read_after_write_lampCave :
    ∃ world after, lampCave.build {} = .ok world ∧
      world.applyImpact 1 (.manipulate .invert (.keyed "lamp" "lit")) = .ok after ∧
      after.hasFact 2 (.own "lit") = .ok true ∧ after.hasFact 0 (.own "dark") = .ok true := by
  have checked : (lampCave.build {}).toOption.any (fun world =>
      (world.entity? 1).isSome && decide (world.resolve? "lamp" = some 2) &&
        !world.fact ⟨.entity 2, "lit"⟩ && world.fact ⟨.entity 0, "dark"⟩) = true := by
    decide +kernel
  obtain ⟨world, built, checked⟩ := (Option.any_eq_true _ _).1 checked
  simp only [Bool.and_eq_true, decide_eq_true_eq, Bool.not_eq_true'] at checked
  obtain ⟨⟨⟨there, leads⟩, unlit⟩, dark⟩ := checked
  have quiet := Model.World.quiet_of_build (eq_ok_of_toOption built) ⟨by simp, by decide⟩
  obtain ⟨_, _, _, _, rest⟩ := read_after_write there (.keyed leads "lit") .invert rfl
  obtain ⟨after, applied, sets, _⟩ := rest quiet
  refine ⟨world, after, eq_ok_of_toOption built, applied, ?_, ?_⟩
  · rw [sets.facts 2 _ _ (.own "lit"), if_pos rfl, unlit]
    rfl
  · rw [sets.facts 0 _ _ (.own "dark"), if_neg (by decide), (Denotes.own "dark").hasFact_eq, dark]

/-- Whoever listens can change the fact again: a listener that puts the lamp out whenever it hears of a
change leaves the lamp dark that was just lit. -/
theorem unlit_after_write :
    ∃ world after, lampCave.build {} = .ok world ∧
      (world.listen .tagChanged (.react "draught" 2 [.manipulate .remove (.own "lit")])).applyImpact 2
        (.manipulate .add (.own "lit")) = .ok after ∧
      after.hasFact 2 (.own "lit") = .ok false := by
  have checked : (lampCave.build {}).toOption.any (fun world =>
      ((world.listen .tagChanged
          (.react "draught" 2 [.manipulate .remove (.own "lit")])).applyImpact 2
        (.manipulate .add (.own "lit"))).toOption.any fun after =>
          decide ((after.hasFact 2 (.own "lit")).toOption = some false)) = true := by decide +kernel
  obtain ⟨world, built, checked⟩ := (Option.any_eq_true _ _).1 checked
  obtain ⟨after, applied, unlit⟩ := (Option.any_eq_true _ _).1 checked
  exact ⟨world, after, eq_ok_of_toOption built, eq_ok_of_toOption applied,
    eq_ok_of_toOption (of_decide_eq_true unlit)⟩

end World

end Narrative
