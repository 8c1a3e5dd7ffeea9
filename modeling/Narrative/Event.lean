/-
Module: Narrative.Event
Purpose: What a story tells its listeners.
Main exports: EventKind, Event, Event.kind, Event.text
-/
import Narrative.Text.Quoted

namespace Narrative

/-- The kinds of events. -/
inductive EventKind where
  | focusLost
  | focusChanged
  | focusGained
  | tagChanged
  | itemChanged
  | impact
  | script
deriving Repr, DecidableEq

/-- All kinds of events. -/
def EventKind.all : List EventKind :=
  [.focusLost, .focusChanged, .focusGained, .tagChanged, .itemChanged, .impact, .script]

/-- The name of a kind. -/
def EventKind.name : EventKind → String
  | .focusLost => "FocusLost"
  | .focusChanged => "FocusChanged"
  | .focusGained => "FocusGained"
  | .tagChanged => "TagChanged"
  | .itemChanged => "ItemChanged"
  | .impact => "ImpactEvent"
  | .script => "ScriptEvent"

/-- An event. Locations are given by numbers, entities by their labels. An impact event without a
target is for the player. -/
inductive Event where
  | focusLost (location : Int)
  | focusChanged (previous? : Option Int) (current : Int)
  | focusGained (location : Int)
  | tagChanged (holder tag : String) (added : Bool)
  | itemChanged (item : String) (added : Bool)
  | impact (target? : Option String) (argument : String) (source? : Option String)
  | script (argument : String)
deriving Repr, DecidableEq

namespace Event

/-- The kind of an event. -/
def kind : Event → EventKind
  | .focusLost _ => .focusLost
  | .focusChanged .. => .focusChanged
  | .focusGained _ => .focusGained
  | .tagChanged .. => .tagChanged
  | .itemChanged .. => .itemChanged
  | .impact .. => .impact
  | .script _ => .script

/-- A truth value in a record. -/
private def truth (value : Bool) : String := if value then "True" else "False"

/-- A value that may be missing in a record. -/
private def orNone {α : Type} (shown : α → String) (value : Option α) : String :=
  (value.map shown).getD "None"

/-- The names and values of the fields of an event. -/
def fields : Event → List (String × String)
  | .focusLost location | .focusGained location => [("location", toString location)]
  | .focusChanged previous? current =>
    [("previous", orNone toString previous?), ("current", toString current)]
  | .tagChanged holder tag added =>
    [("holder", Text.quote holder), ("tag", Text.quote tag), ("added", truth added)]
  | .itemChanged item added => [("item", Text.quote item), ("added", truth added)]
  | .impact target? argument source? =>
    [("target", orNone Text.quote target?), ("argument", Text.quote argument),
      ("source", orNone Text.quote source?)]
  | .script argument => [("argument", Text.quote argument)]

/-- An event as it is written in the log. -/
def text (event : Event) : String :=
  event.kind.name ++ "(" ++
    ", ".intercalate (event.fields.map fun (name, value) => name ++ "=" ++ value) ++ ")"

end Event

end Narrative
