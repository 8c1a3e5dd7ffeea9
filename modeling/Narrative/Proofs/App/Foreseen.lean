/-
Module: Narrative.Proofs.App.Foreseen
Purpose: Errors in play are foreseen. Whether a requirement or an impact of a node fails, and with which
  error, is settled when its world is built, and nothing that is done in a session changes it.
Main exports: Model.World.filled_keys, App.faults_foreseen
-/
import Narrative.Proofs.App.Operations
import Narrative.Proofs.World.Foreseen

namespace Narrative

open Model (failureOf?)

/-- The requirements of a world that was built have no empty keys. -/
theorem Model.World.filled_keys {model : Model.World} {bus : Bus Handler} {world : Narrative.World}
    (built : model.build bus = .ok world) {path : NodePath} {node : Node}
    (found : world.node? path = some node) {requirement : Requirement}
    (needed : node.passage.requirement? = some requirement) :
    ∀ key ∈ requirement.keys, key ≠ "" := by
  obtain ⟨written, _, _, image⟩ := (World.isFaithful_of_build built).entities.exists_passage found
  have read := image.requirement_read
  rw [needed] at read
  cases given : written.requires? with
  | none =>
      rw [given] at read
      cases read
  | some text =>
      rw [given] at read
      obtain ⟨other, parsed, same⟩ := map_eq_ok.1 read
      cases same
      exact fun key among => Requirement.key_of_parse parsed among

namespace App

/-- Errors of a node are foreseen. Take a world that was built, whoever listens, a node in it, and any
moment of a session. The node has its requirement and its impacts still. The requirement fails exactly
if there is a key in it that no entity has, and then it asks for the first such key. An impact fails
exactly if the search for issues reports a problem with it when the world is built, other than an unknown
item: an event to the inventory is refused, and any other lacks what its key should lead to. An impact
that fails leaves everything as it is. -/
theorem faults_foreseen {model : Model.World} {bus : Bus Handler} {world : World}
    (built : model.build bus = .ok world) {app : App} {exitName : String}
    (starts : app.engine = Engine.start world exitName) {operations : List App.Operation}
    (isIn : ∀ operation ∈ operations, operation.IsIn world.plan) {path : NodePath} {node : Node}
    (found : world.node? path = some node) {now : World}
    (reached : (app.operateAll operations).engine.world = now) :
    (now.sourceOf path = node.passage.owner ∧ ∃ later, now.node? path = some later ∧
        later.passage.requirement? = node.passage.requirement? ∧
        later.passage.impacts = node.passage.impacts) ∧
      (∀ requirement ∈ node.passage.requirement?,
        failureOf? (requirement.evaluate (now.hasFact node.passage.owner)) =
          (requirement.unknownKey? world).map (.unknownReference · .element)) ∧
      ∀ impact ∈ node.passage.impacts, ∀ error,
        ((now.applyImpacts node.passage.owner [impact]).2 = .error error ↔
          ∃ label problem, .impact label impact problem ∈ world.issues ∧
            impact.fault? problem = some error) ∧
        ((now.applyImpacts node.passage.owner [impact]).2 = .error error →
          (now.applyImpacts node.passage.owner [impact]).1 = now) := by
  subst reached
  obtain ⟨well, follows⟩ := Model.World.follows_of_build built
  have leads : app.engine.Follows world.plan := by
    rw [starts]
    exact Engine.follows_start follows exitName
  have plans := (reaches_operateAll well leads isIn).follows.world.plan_eq
  generalize (app.operateAll operations).engine.world = now at plans
  have owner : node.passage.owner = path.entity :=
    ((World.wellBuilt_plan world).1 well).owner_eq path node found
  -- The node has its plan still.
  have planned : (now.node? path).map Node.plan = some node.plan := by
    rw [← World.node?_plan, plans, World.node?_plan, found, Option.map_some]
  obtain ⟨later, later_found, same⟩ := Option.map_eq_some_iff.1 planned
  have passage : later.passage.plan = node.passage.plan := by
    rw [← Node.passage_plan, same, Node.passage_plan]
  have source : now.sourceOf path = node.passage.owner := by
    rw [owner]
    exact ((World.wellBuilt_plan now).1 (plans ▸ well)).sourceOf_eq later_found
  have needs : later.passage.plan.requirement? = node.passage.plan.requirement? := by rw [passage]
  have brings : later.passage.plan.impacts = node.passage.plan.impacts := by rw [passage]
  refine ⟨⟨source, later, later_found, needs, brings⟩, ?_, ?_⟩
  · intro requirement needed
    rw [Requirement.failureOf?_evaluate (Model.World.filled_keys built found needed),
      ← Requirement.unknownKey?_plan, plans, Requirement.unknownKey?_plan]
  · intro impact member error
    have fails : (now.applyImpacts node.passage.owner [impact]).2 = .error error ↔
        failureOf? (now.applyImpact node.passage.owner impact) = some error := by
      rw [failureOf?_eq_some_iff, World.applyImpacts, World.applyAllWith, World.applyImpact]
      cases now.applyWith World.emit node.passage.owner impact <;> simp [World.applyAllWith]
    constructor
    · rw [fails, World.applyImpact, World.failureOf?_applyWith, ← World.checkImpact_plan, plans,
        World.checkImpact_plan, Option.bind_eq_some_iff, exists_comm]
      refine exists_congr fun problem => ?_
      rw [← World.mem_issues_impact_iff found member, exists_and_right]
    · intro failed
      rw [fails, failureOf?_eq_some_iff, World.applyImpact] at failed
      rw [World.applyImpacts, World.applyAllWith, failed]

/-- A ruin whose author has lost some of its keys. -/
def ruin : Model.World where
  start := "gate"
  title := "Ruin"
  player := { tags? := some (.line "lost") }
  locations := [{
    name := "Gate", key? := some "gate", tags? := none, disableExit := false
    passage := { requires? := some "player.lost * !tower.open + well.dry",
                 impact? := some "+inventory.rope,#inventory.rope,>tower" }
    descriptors := [], locations := [], interactions := [], combinations := [] }]
  items := []

/-- What fails at the gate of the ruin, after the player has been there and has looked around: its
requirement asks for a tower, and no event goes to the inventory. -/
theorem faults_foreseen_ruin :
    ∃ (world now : World) (app : App), ruin.build {} = .ok world ∧
      app.engine = Engine.start world usualExitName ∧
      (app.operateAll [.engine .intro, .line "l"]).engine.world = now ∧
      ∃ node requirement, world.node? ⟨0, .body, []⟩ = some node ∧
        node.passage.requirement? = some requirement ∧
        failureOf? (requirement.evaluate (now.hasFact node.passage.owner)) =
          some (.unknownReference "tower" .element) ∧
        now.applyImpacts node.passage.owner [.event (.inventory "inventory" "rope")] =
          (now, .error (.inventoryEvent "inventory.rope")) := by
  have checked : (ruin.build {}).toOption.any (fun world =>
      (world.node? ⟨0, .body, []⟩).any fun node =>
        node.passage.requirement?.any (·.unknownKey? world = some "tower") &&
          decide (.event (.inventory "inventory" "rope") ∈ node.passage.impacts) &&
          decide (Issue.impact "location 'gate'" (.event (.inventory "inventory" "rope"))
            .inventoryEvent ∈ world.issues)) = true := by decide +kernel
  obtain ⟨world, built, checked⟩ := (Option.any_eq_true _ _).1 checked
  obtain ⟨node, found, checked⟩ := (Option.any_eq_true _ _).1 checked
  simp only [Bool.and_eq_true, decide_eq_true_eq] at checked
  obtain ⟨⟨needs, member⟩, reported⟩ := checked
  obtain ⟨requirement, needed, unknown⟩ := (Option.any_eq_true _ _).1 needs
  let app : App := {
    title := ruin.title, dev := false, scripts := ⟨Path.parse "scripts", [], []⟩
    engine := Engine.start world usualExitName }
  have isIn : ∀ operation ∈ [App.Operation.engine .intro, .line "l"], operation.IsIn world.plan := by
    simp [App.Operation.IsIn, Narrative.Operation.IsIn]
  have starts : app.engine = Engine.start world usualExitName := rfl
  obtain ⟨_, fails, stops⟩ := faults_foreseen (eq_ok_of_toOption built) starts isIn found rfl
  have refused := (stops _ member (.inventoryEvent "inventory.rope")).1.2
    ⟨_, _, reported, by decide⟩
  have unchanged := (stops _ member _).2 refused
  refine ⟨world, _, app, eq_ok_of_toOption built, starts, rfl, node, requirement, found, needed, ?_,
    Prod.ext unchanged refused⟩
  rw [fails requirement needed, of_decide_eq_true unknown, Option.map_some]

end App

end Narrative
