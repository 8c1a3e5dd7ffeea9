/-
Module: Narrative.Proofs.World.Opened
Purpose: Nodes that may be told. The walk that starts at such a node tells it, and of the impacts that are
  applied for the walk its own come first; but none is applied if the walk fails.
Main exports: World.Opened, World.Carried, World.opened_of_isAvailable, World.Opened.carried,
  World.Opened.passage_of_told
-/
import Narrative.Proofs.World.Tags

namespace Narrative.World

/-- The node at a path has the passage and may be told, and a walk that starts there tells it first,
if the number of its tellings can be written. -/
structure Opened (world : World) (path : NodePath) (passage : Passage) : Prop where
  available : world.isAvailable path = .ok true
  placed : (world.node? path).map (·.passage) = some passage
  first : ∀ text, passage.lead = .ok text → (world.visits path).head? = some (path, passage)

/-- How a telling ends of the node at a path, and the world after it. If the walk fails, no impact is
applied. Otherwise the impacts that it brings are applied in order up to the first that fails, and those
of the passage are the first among them. -/
inductive Carried (world : World) (path : NodePath) (passage : Passage) :
    World → Except EvaluationError String → Prop
  | breaks {error : EvaluationError} {after : World}
      (walked : world.collect path true = (after, .error error))
      (untouched : ∀ holder, after.tagsOf holder = world.tagsOf holder)
      (still : after.focus = world.focus) :
      Carried world path passage after (.error error)
  | applies {counted after : World} {harvest : Harvest} {outcome : Except EvaluationError Unit}
      (walked : world.collect path true = (counted, .ok harvest))
      (first : passage.impacts <+: harvest.impacts)
      (applied : counted.applyImpacts (world.sourceOf path) harvest.impacts = (after, outcome)) :
      Carried world path passage after (outcome.map fun _ => harvest.text)

variable {world after : World} {path : NodePath} {node : Node}

/-- There is a node where one may be told. -/
theorem exists_node_of_isAvailable (available : world.isAvailable path = .ok true) :
    ∃ node, world.node? path = some node := by
  unfold isAvailable at available
  split at available
  next root =>
    obtain ⟨number, slot, below⟩ := path
    obtain ⟨isEntity, located⟩ := (Bool.and_eq_true _ _).mp root
    obtain ⟨rfl, rfl⟩ : slot = .body ∧ below = [] := by
      simpa [NodePath.isEntity] using isEntity
    obtain ⟨entity, known, _⟩ := (Option.any_eq_true _ _).1 located
    exact ⟨entity.node, by simp [node?, known, Entity.node?, Node.descriptor?]⟩
  next =>
    split at available
    next => cases available
    next node found => exact ⟨node, found⟩

theorem walked_of_isAvailable (found : world.node? path = some node)
    (available : world.isAvailable path = .ok true) :
    world.walked path = node.visits (world.factsAt path) := by
  rw [isAvailable_of_node? found] at available
  unfold walked Node.walked
  rw [found]
  dsimp only
  rw [available]

theorem opened_of_isAvailable (found : world.node? path = some node)
    (available : world.isAvailable path = .ok true) : world.Opened path node.passage where
  available := available
  placed := by rw [found]; rfl
  first text written := by
    obtain ⟨passage, descriptors⟩ := node
    rw [visits, walked_of_isAvailable found available, Node.visits, written]
    simp [NodePath.down]

/-- A walk that ends well has told the node where it starts. -/
theorem lead_of_collect {counts : Bool} {harvest : Harvest} (found : world.node? path = some node)
    (available : world.isAvailable path = .ok true)
    (ended : (world.collect path counts).2 = .ok harvest) : ∃ text, node.passage.lead = .ok text := by
  rw [isAvailable_of_node? found] at available
  rw [outcome_collect found, Node.walk, available] at ended
  obtain ⟨passage, descriptors⟩ := node
  rw [Node.outcome_tell_mk] at ended
  obtain ⟨own, written, _⟩ := bind_eq_ok.1 ended
  obtain ⟨text, lead, _⟩ := map_eq_ok.1 written
  exact ⟨text, lead⟩

/-- What gives a text has been collected, and all impacts were applied. -/
theorem exists_harvest_of_told {counts : Bool} {text : String}
    (told : world.evaluate path counts = (after, .ok text)) :
    ∃ harvest, (world.collect path counts).2 = .ok harvest ∧ harvest.text = text ∧
      (world.collect path counts).1.applyImpacts (world.sourceOf path) harvest.impacts =
        (after, .ok ()) := by
  unfold evaluate at told
  rcases walked : world.collect path counts with ⟨between, error | harvest⟩
  · rw [walked] at told
    cases told
  · rw [walked] at told
    dsimp only at told
    obtain ⟨ends, gives⟩ := Prod.mk.inj told
    obtain ⟨⟨⟩, applied, text⟩ := map_eq_ok.1 gives
    exact ⟨harvest, rfl, text, Prod.ext ends applied⟩

namespace Opened

variable {passage : Passage}

theorem exists_node (opened : world.Opened path passage) :
    ∃ node, world.node? path = some node ∧ node.passage = passage :=
  Option.map_eq_some_iff.1 opened.placed

/-- A walk that ends well tells the passage. -/
theorem head_of_collect (opened : world.Opened path passage) {counts : Bool} {harvest : Harvest}
    (ended : (world.collect path counts).2 = .ok harvest) :
    ∃ others, world.visits path = (path, passage) :: others := by
  obtain ⟨node, found, rfl⟩ := opened.exists_node
  obtain ⟨text, written⟩ := lead_of_collect found opened.available ended
  exact List.head?_eq_some_iff.1 (opened.first text written)

theorem carried (opened : world.Opened path passage) {outcome : Except EvaluationError String}
    (ended : world.evaluate path true = (after, outcome)) :
    world.Carried path passage after outcome := by
  unfold evaluate at ended
  dsimp only at ended
  rcases walked : world.collect path true with ⟨counted, error | harvest⟩
  case error =>
    rw [walked] at ended
    cases ended
    refine .breaks walked (fun holder => ?_) ?_
    · rw [← tagsOf_collect world path true holder, walked]
    · rw [← focus_collect world path true, walked]
  case ok =>
    rw [walked] at ended
    cases ended
    obtain ⟨others, told⟩ := opened.head_of_collect (congrArg Prod.snd walked)
    obtain ⟨_, impacts⟩ := brings_visits (congrArg Prod.snd walked)
    rw [told, List.flatMap_cons] at impacts
    exact .applies walked ⟨_, impacts.symm⟩ rfl

/-- A telling that ends well counts one more telling of the passage. -/
theorem passage_of_told (opened : world.Opened path passage) {text : String}
    (told : world.evaluate path true = (after, .ok text)) :
    (after.node? path).map (·.passage) = some (passage.told true) := by
  have counted := passage_perform world (.evaluate path true) path
  rw [perform, told] at counted
  have tells : world.tells path path = true := by
    obtain ⟨harvest, walked, _⟩ := exists_harvest_of_told told
    obtain ⟨others, first⟩ := opened.head_of_collect walked
    simp [World.tells, first]
  obtain ⟨node, found, rfl⟩ := opened.exists_node
  rw [counted, found, Act.tells, tells]
  rfl

end Opened

end Narrative.World
