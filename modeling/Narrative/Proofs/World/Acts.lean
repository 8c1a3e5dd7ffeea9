/-
Module: Narrative.Proofs.World.Acts
Purpose: What is done to a world, act by act. An act counts tellings and nothing else of a node, so
  numbers of tellings only grow, and a node with a limit is told up to it and then never again.
Main exports: World.Act, World.perform, World.performAll, World.tellings, World.passage_performAll,
  World.tellings_le, World.Spent, World.spent_of_exhausted
-/
import Narrative.Proofs.World.Menu
import Narrative.Proofs.World.Plan
import Narrative.Proofs.World.Visits

namespace Narrative

namespace World

/-- What is done to a world at once. An act that fails does as much as it could until then. -/
inductive Act where
  | evaluate (top : NodePath) (counts : Bool)
  | apply (source : Nat) (impact : Impact)
  | setFocus (location : Nat)
  | receive
  | note (record : LogRecord)

/-- The world after an act. To receive a command is to forget that the focus had moved. -/
def perform (world : World) : Act → World
  | .evaluate top counts => (world.evaluate top counts).1
  | .apply source impact =>
    match world.applyImpact source impact with
    | .ok after => after
    | .error _ => world
  | .setFocus location => world.setFocus location
  | .receive => { world with focusMoved := false }
  | .note record => { world with log := world.log ++ [record] }

/-- The world after acts, one after the other. -/
def performAll (world : World) (acts : List Act) : World := acts.foldl perform world

theorem performAll_cons (world : World) (act : Act) (acts : List Act) :
    world.performAll (act :: acts) = (world.perform act).performAll acts := rfl

theorem performAll_append (world : World) (acts others : List Act) :
    world.performAll (acts ++ others) = (world.performAll acts).performAll others :=
  List.foldl_append

/-! ### What an act does to the nodes -/

theorem node?_setTags (world : World) (tags : TagSet) (holder : Holder) (path : NodePath) :
    (world.setTags tags holder).node? path = world.node? path := by
  cases holder with
  | player | inventory => rfl
  | entity number =>
      simp only [setTags, node?, entity?, List.getElem?_modify, Option.bind_eq_bind]
      cases world.entities[path.entity]? with
      | none => rfl
      | some entity =>
          have same : ({ entity with tags } : Entity).node? path.slot = entity.node? path.slot := by
            cases path.slot <;> rfl
          by_cases here : number = path.entity <;> simp [here, same]

/-- Impacts, events and moves of the focus leave all nodes as they are. -/
theorem stable_nodes (world : World) :
    Stable (fun _ => True) fun after => ∀ path, after.node? path = world.node? path where
  setTags tags holder kept path := by rw [node?_setTags, kept]
  fits _ _ := trivial
  focus _ kept := kept
  books _ _ _ _ kept := kept

/-- They keep to the plan as well. -/
theorem stable_plan (plan : World) : Stable (fun _ => True) fun after => after.plan = plan where
  setTags tags holder kept := by rw [plan_setTags, kept]
  fits _ _ := trivial
  focus _ kept := kept
  books _ _ _ _ kept := kept

/-- Whether an act is a walk that counts and that tells the passage at a path. -/
def Act.tells (world : World) (path : NodePath) : Act → Bool
  | .evaluate top counts => counts && world.tells top path
  | _ => false

variable {world : World} {path : NodePath}

/-- An act counts one telling of each passage that it tells in a walk that counts, and it changes no
passage otherwise. -/
theorem passage_perform (world : World) (act : Act) (path : NodePath) :
    ((world.perform act).node? path).map (·.passage) =
      (world.node? path).map fun node => node.passage.told (act.tells world path) := by
  cases act with
  | evaluate top counts =>
      have kept := (stable_nodes (world.collect top counts).1).evaluate (fun _ => rfl)
      rw [perform, kept path]
      exact passage_collect world top counts path
  | apply source impact =>
      simp only [perform, Act.tells, Passage.told_false]
      split
      next after applied => rw [(stable_nodes world).applyImpact (fun _ => rfl) applied path]
      next => rfl
  | setFocus location =>
      simp only [perform, Act.tells, Passage.told_false]
      rw [(stable_nodes world).setFocus (fun _ => rfl) trivial path]
  | receive | note => simp [perform, Act.tells, node?, entity?]

/-- The same, of a node that there is. -/
theorem node?_perform {node : Node} (found : world.node? path = some node) (act : Act) :
    ∃ after, (world.perform act).node? path = some after ∧
      after.passage = node.passage.told (act.tells world path) := by
  have told := passage_perform world act path
  rw [found] at told
  exact Option.map_eq_some_iff.1 told

theorem plan_perform (world : World) (act : Act) : (world.perform act).plan = world.plan := by
  cases act with
  | evaluate top counts =>
      exact (stable_plan world.plan).evaluate (plan_collect world top counts)
  | apply source impact =>
      rw [perform]
      split
      next after applied => exact (stable_plan world.plan).applyImpact rfl applied
      next => rfl
  | setFocus location => exact (stable_plan world.plan).setFocus rfl trivial
  | receive | note => rfl

theorem isAlways_plan (world : World) (path : NodePath) :
    world.plan.isAlways path = world.isAlways path := by
  have isRoot (entity : Entity) : entity.plan.isRoot = entity.isRoot := by
    unfold Entity.isRoot Entity.plan
    cases entity.place? <;> rfl
  simp [isAlways, Option.any_map, isRoot]

theorem isAlways_perform (world : World) (act : Act) (path : NodePath) :
    (world.perform act).isAlways path = world.isAlways path := by
  rw [← isAlways_plan, plan_perform, isAlways_plan]

theorem isAlways_performAll (world : World) (acts : List Act) (path : NodePath) :
    (world.performAll acts).isAlways path = world.isAlways path := by
  induction acts generalizing world with
  | nil => rfl
  | cons act acts ih => rw [performAll_cons, ih, isAlways_perform]

/-! ### How often a node is told -/

/-- The number of the walks among the acts that count and that tell the passage at a path. -/
def tellings (path : NodePath) : World → List Act → Nat
  | _, [] => 0
  | world, act :: acts =>
    (act.tells world path).toNat + tellings path (world.perform act) acts

/-- Nothing of a passage changes but its number of tellings, and that grows by the tellings. -/
theorem passage_performAll {first : Node} (found : world.node? path = some first)
    (acts : List Act) : ∃ node, (world.performAll acts).node? path = some node ∧
      node.passage.plan = first.passage.plan ∧
      node.passage.count.value = first.passage.count.value + tellings path world acts := by
  induction acts generalizing world first with
  | nil => exact ⟨first, found, rfl, by simp [tellings]⟩
  | cons act acts ih =>
      obtain ⟨next, next_found, same⟩ := node?_perform found act
      obtain ⟨node, node_found, plan, count⟩ := ih next_found
      refine ⟨node, node_found, by rw [plan, same, Passage.plan_told], ?_⟩
      rw [count, same, tellings]
      cases act.tells world path with
      | false => simp
      | true =>
          simp only [Passage.told, if_true, Tally.value_next, Bool.toNat_true]
          omega

/-- A node that has been told as often as it may be is told by no walk, unless a walk always tells
it. -/
theorem not_tells_of_exhausted {node : Node} (found : world.node? path = some node)
    (limited : world.isAlways path = false) (exhausted : node.passage.exhausted = true)
    (top : NodePath) : world.tells top path = false := by
  rw [← Bool.not_eq_true, tells, List.any_eq_true]
  rintro ⟨⟨told, passage⟩, member, same⟩
  obtain rfl : told = path := of_decide_eq_true same
  obtain ⟨⟨inner, placed, rfl⟩, allowed⟩ := passage_of_mem_visits member
  cases found.symm.trans placed
  simp [limited, exhausted] at allowed

theorem exhausted_iff {passage : Passage} (limit : 0 < passage.limit.value) :
    passage.exhausted = true ↔ passage.limit.value ≤ passage.count.value := by
  simp [Passage.exhausted, limit]

/-- A node with a limit is told in no more walks than are left of it. -/
theorem tellings_le {first : Node} (found : world.node? path = some first)
    (limited : world.isAlways path = false) (limit : 0 < first.passage.limit.value)
    (acts : List Act) : tellings path world acts ≤
      (first.passage.limit.value - first.passage.count.value).toNat := by
  induction acts generalizing world first with
  | nil => simp [tellings]
  | cons act acts ih =>
      obtain ⟨next, next_found, same⟩ := node?_perform found act
      have later := ih next_found (by rw [isAlways_perform, limited])
      rw [same] at later
      rw [tellings]
      cases told : act.tells world path with
      | false => simpa [told] using later (by simpa [told] using limit)
      | true =>
          have left : ¬ first.passage.limit.value ≤ first.passage.count.value := by
            intro reached
            have silent := not_tells_of_exhausted found limited ((exhausted_iff limit).2 reached)
            cases act <;> simp [Act.tells, silent] at told
          rw [told] at later
          have rest := later limit
          simp only [Passage.told, if_true, Tally.value_next] at rest
          simp only [Bool.toNat_true]
          omega

/-! ### After the last telling -/

/-- Nothing comes of the node at a path: it may not be told, it is in no menu, and what a walk brings
is brought by nodes at other paths. -/
structure Spent (world : World) (path : NodePath) : Prop where
  unavailable : world.isAvailable path = .ok false
  interactions : ∀ location positions, world.availableInteractions location = .ok positions →
    ∀ position ∈ positions, path ≠ ⟨location, .interaction position, []⟩
  inside : ∀ location numbers, world.availableInside location = .ok numbers →
    ∀ number ∈ numbers, path ≠ ⟨number, .body, []⟩
  items : ∀ numbers, world.availableItems = .ok numbers →
    ∀ number ∈ numbers, path ≠ ⟨number, .body, []⟩
  silent : ∀ top counts harvest, (world.collect top counts).2 = .ok harvest →
    (world.visits top).map (·.2.lead) = harvest.parts.map .ok ∧
    harvest.impacts = (world.visits top).flatMap (·.2.impacts) ∧
    path ∉ (world.visits top).map (·.1)

theorem spent_of_exhausted {node : Node} (found : world.node? path = some node)
    (limited : world.isAlways path = false) (exhausted : node.passage.exhausted = true) :
    Spent world path := by
  have unavailable : world.isAvailable path = .ok false := by
    rw [isAvailable_of_node? found, limited]
    simp [Node.starts, Passage.isAvailable, exhausted, pure, Except.pure]
  have shut {other : NodePath} (opened : world.isOpen other = true) : path ≠ other := by
    rintro rfl
    rw [isOpen_iff, unavailable] at opened
    cases opened
  refine ⟨unavailable, ?_, ?_, ?_, ?_⟩
  · intro location positions asked position member
    rw [availableInteractions_eq asked] at member
    exact shut (List.mem_filter.1 member).2
  · intro location numbers asked number member
    rw [availableInside_eq asked] at member
    exact shut (List.mem_filter.1 member).2
  · intro numbers asked number member
    rw [availableItems_eq asked] at member
    exact shut (List.mem_filter.1 member).2
  · intro top counts harvest ended
    obtain ⟨parts, impacts⟩ := brings_visits ended
    refine ⟨parts, impacts, ?_⟩
    have silent := not_tells_of_exhausted found limited exhausted top
    intro member
    obtain ⟨entry, told, same⟩ := List.mem_map.1 member
    exact List.any_eq_false.1 silent entry told (decide_eq_true same)

end World

end Narrative
