/-
Module: Narrative.Command
Purpose: The commands that a player types.
Main exports: Verb, Command, CommandError, Command.parse
-/
import Narrative.Text.Case
import Narrative.Text.Split

namespace Narrative

/-- What a player can do. -/
inductive Verb where
  | choose
  | look
  | inventory
  | back
  | help
deriving Repr, DecidableEq

/-- The full word of a verb. -/
def Verb.word : Verb → String
  | .choose => "choose"
  | .look => "look"
  | .inventory => "inventory"
  | .back => "back"
  | .help => "help"

/-- The verb that a word stands for, in full or in short. -/
def Verb.ofWord? : String → Option Verb
  | "choose" | "pick" | "select" => some .choose
  | "look" | "l" => some .look
  | "inventory" | "inv" | "i" => some .inventory
  | "back" | "x" => some .back
  | "help" | "?" => some .help
  | _ => none

/-- The keys that name an option: digits for interactions and items, letters for locations. -/
def optionKeys : List Char := "12345678abcdefgh".toList

/-- The option key that a word consists of. -/
def optionKey? (word : String) : Option Char :=
  match word.toList with
  | [c] => if c ∈ optionKeys then some c else none
  | _ => none

/-- A command: the choice of an option, or a verb that stands alone. -/
inductive Command where
  | choose (key : Char)
  | look
  | inventory
  | back
  | help
deriving Repr, DecidableEq

/-- What is wrong with a line that is no command. -/
inductive CommandError where
  | nothing
  | unknownVerb (word : String)
  | needlessOption (verb : Verb) (word : String)
  | missingOption (word : String)
  | noOption (word : String)
deriving Repr, DecidableEq

/-- The message for the player. -/
def CommandError.message : CommandError → String
  | .nothing => "No command provided."
  | .unknownVerb word => "Unknown command '" ++ word ++ "'."
  | .needlessOption _ word => "'" ++ word ++ "' does not take an option."
  | .missingOption word => word ++ " what?"
  | .noOption word => "'" ++ word ++ "' is not an option."

/-- The verb that was understood in spite of the error. -/
def CommandError.verb? : CommandError → Option Verb
  | .nothing | .unknownVerb _ => none
  | .needlessOption verb _ => some verb
  | .missingOption _ | .noOption _ => some .choose

namespace Command

/-- The verb of a command. -/
def verb : Command → Verb
  | .choose _ => .choose
  | .look => .look
  | .inventory => .inventory
  | .back => .back
  | .help => .help

/-- The option that a command chooses. -/
def key? : Command → Option Char
  | .choose key => some key
  | _ => none

/-- The command of a verb and the words after it. -/
def ofVerb (verb : Verb) (word : String) (options : List String) : Except CommandError Command :=
  let alone (command : Command) : Except CommandError Command :=
    if options.isEmpty then .ok command else .error (.needlessOption verb word)
  match verb with
  | .look => alone .look
  | .inventory => alone .inventory
  | .back => alone .back
  | .help => alone .help
  | .choose =>
    match options with
    | [option] =>
      match optionKey? option with
      | some key => .ok (.choose key)
      | none => .error (.noOption option)
    | _ => .error (.missingOption word)

/-- Reads a line in any case. The key of an option is enough to choose it. -/
def parse (line : String) : Except CommandError Command :=
  match (Text.words line.toList).map fun word => Text.lower (String.ofList word) with
  | [] => .error .nothing
  | word :: options =>
    match options.isEmpty, optionKey? word with
    | true, some key => .ok (.choose key)
    | _, _ =>
      match Verb.ofWord? word with
      | some verb => ofVerb verb word options
      | none => .error (.unknownVerb word)

end Command

end Narrative
