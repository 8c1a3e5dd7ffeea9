/-
Module: Narrative.Reference
Purpose: References to facts of a story: a tag of the acting entity, of the player or of the entity
  with a given key, or an item that the player holds.
Main exports: Reference, Reference.text, Reference.parse
-/
import Narrative.Error
import Narrative.Text.Case

namespace Narrative

/-- A reference to a fact. The first word of a reference to the player or the inventory is kept as
it was written, since its case is free. -/
inductive Reference where
  | own (property : String)
  | player (element property : String)
  | inventory (element property : String)
  | keyed (element property : String)
deriving Repr, DecidableEq

namespace Reference

/-- The tag, or for the inventory the item, that the reference names. -/
def property : Reference → String
  | .own property | .player _ property | .inventory _ property | .keyed _ property => property

/-- The word before the point. -/
def element? : Reference → Option String
  | .own _ => none
  | .player element _ | .inventory element _ | .keyed element _ => some element

/-- The reference as it is written. -/
def text : Reference → String
  | .own property => property
  | .player element property | .inventory element property | .keyed element property =>
    element ++ "." ++ property

/-- The reference with a word before the point. -/
def qualified (element property : String) : Reference :=
  if Text.lower element = "player" then .player element property
  else if Text.lower element = "inventory" then .inventory element property
  else .keyed element property

/-- Reads a reference: one property, or an element and a property joined by a point, none of them
empty. -/
def parse (expression : String) : Except CompileError Reference :=
  match expression.toList.splitOn '.' with
  | [property] =>
    if property.isEmpty then .error (.malformedReference expression)
    else .ok (.own (String.ofList property))
  | [element, property] =>
    if element.isEmpty || property.isEmpty then .error (.malformedReference expression)
    else .ok (qualified (String.ofList element) (String.ofList property))
  | _ => .error (.malformedReference expression)

end Reference

end Narrative
