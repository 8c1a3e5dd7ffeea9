/-
Module: Narrative.Impact
Purpose: Impacts: the changes that a passage of a story makes when it is told.
Main exports: Impact, Impact.text, Impact.parse, Impact.parseList
-/
import Narrative.Reference
import Narrative.Tag

namespace Narrative

/-- The sign of a manipulation. -/
def Manipulation.sign : Manipulation → Char
  | .add => '+'
  | .remove => '-'
  | .invert => '!'

/-- The manipulation that a sign stands for. -/
def Manipulation.ofSign? : Char → Option Manipulation
  | '+' => some .add
  | '-' => some .remove
  | '!' => some .invert
  | _ => none

theorem Manipulation.ofSign?_sign (m : Manipulation) : ofSign? m.sign = some m := by
  cases m <;> rfl

/-- A change: a tag or an item is added, removed or toggled, the focus moves to the location with a
key, or an event is sent. -/
inductive Impact where
  | manipulate (manipulation : Manipulation) (reference : Reference)
  | focus (key : String)
  | event (reference : Reference)
deriving Repr, DecidableEq

namespace Impact

/-- The impact as it is written. -/
def text : Impact → String
  | .manipulate manipulation reference => String.ofList (manipulation.sign :: reference.text.toList)
  | .focus key => String.ofList ('>' :: key.toList)
  | .event reference => String.ofList ('#' :: reference.text.toList)

/-- Reads a sign and its argument. -/
def ofSign (expression : String) (sign : Char) (argument : List Char) :
    Except CompileError Impact :=
  match Manipulation.ofSign? sign with
  | some manipulation => do
    return .manipulate manipulation (← Reference.parse (String.ofList argument))
  | none =>
    if sign = '>' then
      if argument.contains '.' then .error (.invalidExpression expression .targetNotPlain)
      else .ok (.focus (String.ofList argument))
    else if sign = '#' then do
      return .event (← Reference.parse (String.ofList argument))
    else .error (.invalidExpression expression (.unknownSign sign))

/-- Reads one impact, without the blanks around it. -/
def parse (cs : List Char) : Except CompileError Impact :=
  match Text.trim cs with
  | sign :: first :: rest => ofSign (String.ofList (sign :: first :: rest)) sign (first :: rest)
  | short => .error (.invalidExpression (String.ofList short) .notEnoughArguments)

/-- Reads the impacts between commas; where nothing is written there are none. -/
def parseList (written : Option String) : Except CompileError (List Impact) :=
  match written with
  | none => .ok []
  | some text => (text.toList.splitOn ',').mapM parse

end Impact

end Narrative
