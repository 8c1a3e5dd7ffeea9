/-
Module: Narrative.World.Change
Purpose: What changes a world in play: impacts, moves of the focus, and the tellings that bring them.
Main exports: World.emit, World.applyImpact, World.applyImpacts, World.setFocus, World.collect,
  World.evaluate
-/
import Narrative.World.Basic

namespace Narrative

namespace World

/-- The state after something that may fail midway, and what came of it. -/
abbrev Outcome (α : Type) := World × Except EvaluationError α

/-! ### Impacts, given how events are emitted -/

/-- The event for a change of what a holder holds. -/
def changeEvent (world : World) (holder : Holder) (tag : String) (added : Bool) : Event :=
  match holder with
  | .player => .tagChanged "player" tag added
  | .inventory => .itemChanged tag added
  | .entity number => .tagChanged (world.labelOf number) tag added

/-- Adds, removes or toggles a tag, and tells of it if there was a change. -/
def manipulate (emit : Event → World → World) (manipulation : Manipulation) (tag : String)
    (holder : Holder) (world : World) : World :=
  let (tags, changed) := (world.tagsOf holder).apply tag manipulation
  if changed then
    emit (world.changeEvent holder tag (decide (tag ∈ tags))) (world.setTags tags holder)
  else world

/-- Moves the focus. Nothing happens if it is there already; else the old location loses it first,
then it changes, and then the new location gains it. -/
def moveFocus (emit : Event → World → World) (location : Nat) (world : World) : World :=
  if world.focus = location then world
  else
    let previous := world.focus
    let world := emit (.focusLost previous) world
    let world := emit (.focusChanged (some previous) location) { world with focus := location }
    emit (.focusGained location) world

/-- The event that an entity sends to a holder; the inventory takes none. -/
def impactEvent (world : World) (source : Nat) (reference : Reference) :
    Holder → Except EvaluationError Event
  | .inventory => .error (.inventoryEvent reference.text)
  | .player => .ok (.impact none reference.property ((world.entity? source).bind (·.key?)))
  | .entity number =>
    .ok (.impact (some (world.labelOf number)) reference.property
      ((world.entity? source).bind (·.key?)))

/-- Applies an impact of an entity. An impact that fails changes nothing. -/
def applyWith (emit : Event → World → World) (source : Nat) (world : World) :
    Impact → Except EvaluationError World
  | .manipulate manipulation reference => do
    let holder ← world.holderOf source reference
    return world.manipulate emit manipulation reference.property holder
  | .focus key =>
    match world.resolveLocation? key with
    | some location => .ok (world.moveFocus emit location)
    | none => .error (.unknownReference key .location)
  | .event reference => do
    let holder ← world.holderOf source reference
    return emit (← world.impactEvent source reference holder) world

/-- Applies impacts in order, up to the first that fails. -/
def applyAllWith (emit : Event → World → World) (source : Nat) (world : World) :
    List Impact → Outcome Unit
  | [] => (world, .ok ())
  | impact :: rest =>
    match world.applyWith emit source impact with
    | .error error => (world, .error error)
    | .ok changed => changed.applyAllWith emit source rest

/-! ### Events -/

/-- What a handler does about an event. A reaction fails if one of its impacts does. -/
def respond (emit : Event → World → World) (handler : Handler) (event : Event) (world : World) :
    World × Bool :=
  match handler with
  | .record => ({ world with journal := world.journal ++ [event] }, false)
  | .watchFocus => ({ world with focusMoved := true }, false)
  | .react _ source impacts =>
    let (changed, result) := world.applyAllWith emit source impacts
    (changed, !result.isOk)

/-- The name of a handler in the log. -/
def handlerName : Handler → String
  | .record => "record"
  | .watchFocus => "watchFocus"
  | .react name _ _ => name

/-- The delivery of events to those who listen to a world. -/
def delivery : Delivery World Handler where
  bus world := world.bus
  setBus bus world := { world with bus }
  log record world := { world with log := world.log ++ [record] }
  name := handlerName
  call := respond

/-- Emits an event. Deliveries in progress are counted, so the bus ends nested emissions. -/
def emit (event : Event) (world : World) : World := delivery.emit (maxDepth + 1) event world

/-- Lets a handler listen to a kind of events. -/
def listen (kind : EventKind) (handler : Handler) (world : World) : World :=
  { world with bus := world.bus.subscribe kind handler }

/-! ### Changes -/

/-- Applies an impact of an entity. -/
def applyImpact (world : World) (source : Nat) (impact : Impact) : Except EvaluationError World :=
  world.applyWith emit source impact

/-- Applies impacts of an entity in order, up to the first that fails. -/
def applyImpacts (world : World) (source : Nat) (impacts : List Impact) : Outcome Unit :=
  world.applyAllWith emit source impacts

/-- Moves the focus to a location. -/
def setFocus (world : World) (location : Nat) : World := world.moveFocus emit location

/-! ### Tellings -/

/-- Tells the node at a path if it may be told, without applying its impacts. All requirements are
asked for in the world as it was before. -/
def collect (world : World) (path : NodePath) (counts : Bool) : Outcome Harvest :=
  match world.node? path, world.isAvailable path with
  | none, _ | _, .ok false => (world, .ok {})
  | _, .error error => (world, .error error)
  | some node, .ok true =>
    let (told, outcome) := node.tell (world.hasFact (world.sourceOf path)) counts
    (world.modifyNode (fun _ => told) path, outcome)

/-- Tells the node at a path, and then applies the impacts that the telling brought. -/
def evaluate (world : World) (path : NodePath) (counts : Bool) : Outcome String :=
  let source := world.sourceOf path
  match world.collect path counts with
  | (world, .error error) => (world, .error error)
  | (world, .ok harvest) =>
    let (world, outcome) := world.applyImpacts source harvest.impacts
    (world, outcome.map fun _ => harvest.text)

end World

end Narrative
