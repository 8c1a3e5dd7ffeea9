/-
Module: Narrative.Proofs.World.Replay
Purpose: What events tell of memberships. Played back onto what was held at first, the events in the
  journal lead to what is held now, and each of them turns a membership over.
Main exports: TagSet.flip?, Holdings, Holdings.replay?, World.holdings, World.replay?_changeEvent,
  World.Retells, World.chronicle_retells
-/
import Narrative.Proofs.World.Chronicle
import Narrative.Proofs.World.Listeners

namespace Narrative

/-! ### Playing events back

Nothing here looks at a world. An event is played back onto what it says that it changes, and it has
no result where it says what is the case already. -/

/-- The set with the membership of a tag turned over; the flag says what it becomes. There is no such
set if it is that already. -/
def TagSet.flip? (tags : TagSet) (tag : String) (added : Bool) : Option TagSet :=
  if decide (tag ∈ tags) = added then none
  else some (if added then tags.insert tag else tags.erase tag)

/-- A manipulation that changes a set turns over the membership of its tag, and what it becomes is
read off the new set. -/
theorem TagSet.flip?_of_apply {tags changed : TagSet} {tag : String} {manipulation : Manipulation}
    (applied : tags.apply tag manipulation = (changed, true)) :
    tags.flip? tag (decide (tag ∈ changed)) = some changed := by
  have removed (member : tag ∈ tags) (same : tags.erase tag = changed) :
      tags.flip? tag (decide (tag ∈ changed)) = some changed := by
    subst same
    simp [flip?, member]
  have added (absent : tag ∉ tags) (same : tags.insert tag = changed) :
      tags.flip? tag (decide (tag ∈ changed)) = some changed := by
    subst same
    simp [flip?, absent]
  cases manipulation <;> by_cases member : tag ∈ tags <;>
    simp_all [apply, add, remove]

/-- The tags of the player, the keys of what the player carries, and the tags that stand under
labels. -/
structure Holdings where
  player : TagSet
  inventory : TagSet
  labelled : List (String × TagSet)
deriving DecidableEq

namespace Holdings

/-- The tags under labels, with a membership under one label turned over. -/
def flipAt? (label tag : String) (added : Bool) :
    List (String × TagSet) → Option (List (String × TagSet))
  | [] => none
  | (other, tags) :: rest =>
    if other = label then (tags.flip? tag added).map fun tags => (other, tags) :: rest
    else (flipAt? label tag added rest).map ((other, tags) :: ·)

/-- Where labels are distinct, a label finds the tags that stand under it. -/
theorem flipAt?_of_getElem? {entries : List (String × TagSet)} {position : Nat} {label tag : String}
    {added : Bool} {tags changed : TagSet} (distinct : (entries.map Prod.fst).Nodup)
    (found : entries[position]? = some (label, tags)) (flipped : tags.flip? tag added = some changed) :
    flipAt? label tag added entries = some (entries.set position (label, changed)) := by
  induction entries generalizing position with
  | nil => cases found
  | cons entry rest ih =>
      obtain ⟨other, here⟩ := entry
      obtain ⟨unlike, distinct⟩ := List.nodup_cons.1 distinct
      cases position with
      | zero =>
          cases found
          simp [flipAt?, flipped]
      | succ position =>
          have later : label ∈ rest.map Prod.fst := by
            have member : (label, tags) ∈ rest := List.mem_of_getElem? found
            exact List.mem_map_of_mem (f := Prod.fst) member
          have differs : other ≠ label := fun same => unlike (same ▸ later)
          simp [flipAt?, differs, ih distinct found]

/-- What is held after the change that an event tells of. Events of other kinds change nothing. -/
def replay? (holdings : Holdings) : Event → Option Holdings
  | .itemChanged item added =>
    (holdings.inventory.flip? item added).map fun inventory => { holdings with inventory }
  | .tagChanged holder tag added =>
    if holder = "player" then
      (holdings.player.flip? tag added).map fun player => { holdings with player }
    else (flipAt? holder tag added holdings.labelled).map fun labelled => { holdings with labelled }
  | .focusLost _ | .focusChanged .. | .focusGained _ | .impact .. | .script _ => some holdings

end Holdings

/-- What is held in a world. -/
def World.holdings (world : World) : Holdings where
  player := world.player
  inventory := world.inventory
  labelled := world.entities.map fun entity => (entity.label, entity.tags)

namespace World

/-! ### The events of changes -/

/-- The labels of the entities. -/
def labels (world : World) : List String := world.entities.map (·.label)

@[simp] theorem labels_plan (world : World) : world.plan.labels = world.labels := by
  simp only [labels, plan, List.map_map]
  rfl

/-- The event of a change is played back as the change, whoever the holder is. Labels have to tell the
entities from each other, and from the player. -/
theorem replay?_changeEvent {world : World} {holder : Holder} {tag : String}
    {manipulation : Manipulation} {tags : TagSet} (distinct : world.labels.Nodup)
    (unlike : "player" ∉ world.labels) (has : world.Has holder)
    (applied : (world.tagsOf holder).apply tag manipulation = (tags, true)) :
    world.holdings.replay? (world.changeEvent holder tag (decide (tag ∈ tags))) =
      some (world.setTags tags holder).holdings := by
  have flipped := TagSet.flip?_of_apply applied
  cases holder with
  | player => exact congrArg (Option.map _) flipped
  | inventory => exact congrArg (Option.map _) flipped
  | entity number =>
      obtain ⟨entity, known⟩ := Option.isSome_iff_exists.1 has
      have among : entity.label ∈ world.labels := List.mem_map_of_mem (List.mem_of_getElem? known)
      have another : entity.label ≠ "player" := fun same => unlike (same ▸ among)
      have label : world.labelOf number = entity.label := by simp [labelOf, known]
      have found : world.holdings.labelled[number]? = some (entity.label, entity.tags) := by
        rw [holdings, List.getElem?_map]
        exact congrArg (Option.map _) known
      have under : (world.holdings.labelled.map Prod.fst).Nodup := by
        rw [holdings, List.map_map]
        exact distinct
      simp only [tagsOf, known, Option.map_some, Option.getD_some] at flipped
      simp only [changeEvent, label, Holdings.replay?, another, if_false,
        Holdings.flipAt?_of_getElem? under found flipped, Option.map_some]
      have replaced : world.entities.modify number (fun entity => { entity with tags }) =
          world.entities.set number { entity with tags } := by
        rw [List.modify_eq_set_getElem?, show world.entities[number]? = some entity from known]
        rfl
      rw [setTags, replaced]
      simp [holdings, List.map_set, Entity.label, Entity.lookupKey?]

/-! ### Journals -/

/-- The world came from the first by changes that all are in its journal: the events since then are
played back to what is held now. -/
structure Retells (first world : World) : Prop where
  plan_eq : world.plan = first.plan
  records : world.bus.Records [.tagChanged, .itemChanged]
  replays : ∃ events, world.journal = first.journal ++ events ∧
    events.foldlM Holdings.replay? first.holdings = some world.holdings

namespace Retells

variable {first world : World}

/-- Nothing has happened yet. -/
theorem refl (records : first.bus.Records [.tagChanged, .itemChanged]) : Retells first first :=
  ⟨rfl, records, [], (List.append_nil _).symm, rfl⟩

/-- A change may be told by an event that is played back as the change. -/
theorem told (retells : Retells first world) {after : World} {event : Event}
    (plan : after.plan = world.plan) (bus : after.bus = world.bus)
    (journal : after.journal = world.journal) (recorded : event.kind ∈ [.tagChanged, .itemChanged])
    (replayed : world.holdings.replay? event = some after.holdings) :
    Retells first (after.emit event) := by
  obtain ⟨events, wrote, before⟩ := retells.replays
  obtain ⟨_, noted⟩ := emit_of_records (bus.symm ▸ retells.records) recorded
  rw [noted]
  refine ⟨plan.trans retells.plan_eq, bus ▸ retells.records, events ++ [event], ?_, ?_⟩
  · simp [journal, wrote]
  · rw [List.foldlM_append, before]
    show (world.holdings.replay? event).bind pure = some after.holdings
    rw [replayed]
    rfl

/-- Events that tell of no membership may be in the journal or not. -/
theorem emit (retells : Retells first world) {event : Event}
    (silent : ∀ holdings : Holdings, holdings.replay? event = some holdings) :
    Retells first (world.emit event) := by
  have still (times : Nat) (holdings : Holdings) :
      (List.replicate times event).foldlM Holdings.replay? holdings = some holdings := by
    induction times with
    | zero => rfl
    | succ times ih =>
        rw [List.replicate_succ, List.foldlM_cons, silent]
        exact ih
  obtain ⟨events, wrote, before⟩ := retells.replays
  obtain ⟨_, noted⟩ := emit_of_quiet retells.records.toQuiet event
  rw [noted]
  refine ⟨retells.plan_eq, retells.records, _, by rw [wrote, List.append_assoc], ?_⟩
  rw [List.foldlM_append, before]
  exact still _ world.holdings

/-- What is held, the bus and the journal are all that the journal is judged by. -/
theorem of_same (retells : Retells first world) {after : World} (plan : after.plan = world.plan)
    (bus : after.bus = world.bus) (journal : after.journal = world.journal)
    (same : after.holdings = world.holdings) : Retells first after := by
  obtain ⟨events, wrote, before⟩ := retells.replays
  exact ⟨plan.trans retells.plan_eq, bus ▸ retells.records, events, journal.trans wrote,
    same ▸ before⟩

end Retells

theorem holdings_modifyNode (world : World) (change : Node → Node) (path : NodePath) :
    (world.modifyNode change path).holdings = world.holdings := by
  simp only [holdings, modifyNode]
  rw [map_modify_of_unseen]
  intro entity _
  cases path.slot <;> rfl

/-- Where labels tell the entities from each other and from the player, every change of what is held is
told by the event that is played back as the change, and nothing else is told of memberships. -/
theorem chronicle_retells {first : World} (well : first.plan.WellBuilt)
    (distinct : first.labels.Nodup) (unlike : "player" ∉ first.labels) :
    Chronicle first.plan (Retells first) where
  well := well
  planned := Retells.plan_eq
  turn {world holder tag manipulation tags} retells has applied := by
    have labels : world.labels = first.labels := by
      rw [← labels_plan, retells.plan_eq, labels_plan]
    apply retells.told (plan_setTags world tags holder)
    · cases holder <;> rfl
    · cases holder <;> rfl
    · cases holder <;> simp [changeEvent, Event.kind]
    · exact replay?_changeEvent (labels ▸ distinct) (labels ▸ unlike) has applied
  move {world location} retells _ := by
    unfold setFocus moveFocus
    split
    · exact retells
    · have left : Retells first (world.emit (.focusLost world.focus)) := retells.emit fun _ => rfl
      apply Retells.emit _ fun _ => rfl
      apply Retells.emit _ fun _ => rfl
      exact left.of_same rfl rfl rfl rfl
  send {world event} retells kind := by
    apply retells.emit
    cases event <;> first | exact fun _ => rfl | cases kind
  tell {world} told path retells plan :=
    retells.of_same plan rfl rfl (holdings_modifyNode world _ path)
  books _ _ retells := retells.of_same rfl rfl rfl rfl

end World

end Narrative
