/-
Module: Narrative.World.Validate
Purpose: A search for references that would fail, or never hold, when the story is played.
Main exports: Problem, Issue, Issue.text, World.checkReference, World.checkImpact, World.issues,
  World.validate
-/
import Narrative.World.Site

namespace Narrative

/-- What is wrong with something that a node refers to. -/
inductive Problem where
  | unknownKey (key : String)
  | unknownItem (key : String)
  | unknownLocation (key : String)
  | inventoryEvent
deriving Repr, DecidableEq

/-- The problem in words. -/
def Problem.text : Problem → String
  | .unknownKey key => "unknown key '" ++ key ++ "'"
  | .unknownItem key => "unknown item '" ++ key ++ "'"
  | .unknownLocation key => "unknown location '" ++ key ++ "'"
  | .inventoryEvent => "the inventory, which cannot receive events"

/-- Something that an author should mend: a requirement, an impact or the target of a combination at
a node with a label, or a key in the inventory. -/
inductive Issue where
  | requirement (label : String) (requirement : Requirement) (problem : Problem)
  | impact (label : String) (impact : Impact) (problem : Problem)
  | target (label : String) (target : String)
  | held (key : String)
deriving Repr, DecidableEq

/-- The issue in words. -/
def Issue.text : Issue → String
  | .requirement label needed problem =>
    label ++ ": requirement '" ++ needed.text ++ "' references " ++ problem.text ++ "."
  | .impact label change problem =>
    label ++ ": impact '" ++ change.text ++ "' targets " ++ problem.text ++ "."
  | .target label key => label ++ ": unknown combination target '" ++ key ++ "'."
  | .held key => "Player inventory: '" ++ key ++ "' is not an item."

namespace World

/-- What is wrong with a reference. -/
def checkReference (world : World) : Reference → Option Problem
  | .own _ | .player .. => none
  | .inventory _ key => if (world.resolveItem? key).isNone then some (.unknownItem key) else none
  | .keyed key _ => if (world.resolve? key).isNone then some (.unknownKey key) else none

/-- What is wrong with an impact. -/
def checkImpact (world : World) : Impact → Option Problem
  | .manipulate _ reference => world.checkReference reference
  | .focus key => if (world.resolveLocation? key).isNone then some (.unknownLocation key) else none
  | .event (.inventory ..) => some .inventoryEvent
  | .event reference => world.checkReference reference

/-- The issues of a passage at a node with a label. -/
def passageIssues (world : World) (label : String) (passage : Passage) : List Issue :=
  let ofRequirement (requirement : Requirement) : List Issue :=
    requirement.references.filterMap fun reference =>
      (world.checkReference reference).map (.requirement label requirement)
  (passage.requirement?.map ofRequirement).getD [] ++
    passage.impacts.filterMap fun impact => (world.checkImpact impact).map (.impact label impact)

/-- The issues of a node. -/
def siteIssues (world : World) (site : Site) : List Issue :=
  world.passageIssues site.label site.passage ++
    match site.kind with
    | .combination target => if (world.resolve? target).isNone then [.target site.label target] else []
    | _ => []

/-- All issues of a world: those of its nodes, and then those of what the player holds. -/
def issues (world : World) : List Issue :=
  world.sites.flatMap world.siteIssues ++
    (world.inventory.toList.filter fun key => (world.resolveItem? key).isNone).map .held

/-- The record of an issue. -/
def issueRecord (issue : Issue) : LogRecord :=
  ⟨.warning, .builder, "World validation: " ++ issue.text⟩

/-- Records the issues of a world in its log. -/
def validate (world : World) : World :=
  { world with log := world.log ++ world.issues.map issueRecord }

end World

end Narrative
