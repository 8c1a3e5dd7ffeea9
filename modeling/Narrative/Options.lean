/-
Module: Narrative.Options
Purpose: The options of the command line.
Main exports: Options, Setting, Refusal, Options.parse
-/
import Narrative.Markup.Style
import Narrative.Numeral.Whole
import Narrative.Path

namespace Narrative

open Markup (Speed)

/-- Which records of the log are shown. -/
inductive LogLevel where
  | debug
  | info
  | warning
  | error
deriving Repr, DecidableEq

namespace LogLevel

/-- The name of a level. -/
def name : LogLevel → String
  | .debug => "DEBUG"
  | .info => "INFO"
  | .warning => "WARNING"
  | .error => "ERROR"

/-- The level with a name. -/
def ofName? (name : String) : Option LogLevel :=
  [debug, info, warning, error].find? (·.name = name)

end LogLevel

/-- What can be set on the command line. -/
structure Options where
  world : Path := Path.parse "assets/worlds/example.yaml"
  dev : Bool := false
  speed : Speed := .normal
  noDelay : Bool := false
  noColor : Bool := false
  seed? : Option Int := none
  logLevel : LogLevel := .warning
deriving Repr, DecidableEq

/-- Why there are no options: help was asked for, or the words cannot be understood. -/
inductive Refusal where
  | help
  | usage
deriving Repr, DecidableEq

/-- The code that the program ends with then. -/
def Refusal.code : Refusal → Nat
  | .help => 0
  | .usage => 2

/-- How the program is called. -/
def usageText : String :=
  "usage: taleloom [-h] [--world WORLD] [--dev]\n" ++
    "                [--speed \x7binstant,quick,normal,slow\x7d] [--no-delay]\n" ++
    "                [--no-color] [--seed SEED]\n" ++
    "                [--log-level \x7bDEBUG,INFO,WARNING,ERROR\x7d]\n"

/-- How the program is called, and what the options mean. -/
def optionsText : String :=
  usageText ++
    "\nTaleloom - Interactive fiction player\n\n" ++
    "options:\n" ++
    "  -h, --help            show this help message and exit\n" ++
    "  --world WORLD         Path to a world YAML file\n" ++
    "  --dev                 Enable developer commands (/goto, /state, /run)\n" ++
    "  --speed \x7binstant,quick,normal,slow\x7d\n" ++
    "                        Default text speed\n" ++
    "  --no-delay            Print text instantly, ignoring speed and wait markup\n" ++
    "  --no-color            Do not emit ANSI colors\n" ++
    "  --seed SEED           Seed for random text choices\n" ++
    "  --log-level \x7bDEBUG,INFO,WARNING,ERROR\x7d\n"

/-- What is printed then as the answer of the program. -/
def Refusal.answer : Refusal → String
  | .help => optionsText
  | .usage => ""

/-- The settings that an option can name. -/
inductive Setting where
  | help
  | world
  | dev
  | speed
  | noDelay
  | noColor
  | seed
  | logLevel
deriving Repr, DecidableEq

namespace Setting

/-- The long names of the settings. -/
def longNames : List (String × Setting) :=
  [("--help", help), ("--world", world), ("--dev", dev), ("--speed", speed),
    ("--no-delay", noDelay), ("--no-color", noColor), ("--seed", seed), ("--log-level", logLevel)]

/-- The one short name. -/
def shortHelp : List Char := "-h".toList

/-- Whether a setting takes a value. -/
def takesValue : Setting → Bool
  | .world | .speed | .seed | .logLevel => true
  | .help | .dev | .noDelay | .noColor => false

end Setting

/-! ### Words -/

/-- A word of the command line: a value, the mark after which all words are values, an option that is
not known, or the option of a setting, maybe with a value behind an equals sign. The short name of
help can have letters behind it, or an equals sign and letters. -/
inductive Word where
  | value (text : String)
  | separator
  | unknown
  | option (setting : Setting) (value? : Option String)
  | shortHelp (letters : List Char)
deriving Repr, DecidableEq

namespace Word

/-- What stands before and after the first equals sign, if there is one. -/
def cutAtEquals (cs : List Char) : List Char × Option (List Char) :=
  match cs.dropWhile (· ≠ '=') with
  | _ :: after => (cs.takeWhile (· ≠ '='), some after)
  | [] => (cs, none)

/-- Whether a word is a negative number, maybe with one point, and so a value. A line feed may end
it. -/
def isNegativeNumber (cs : List Char) : Bool :=
  let isDigit (c : Char) : Bool := (Numeral.digitValue? c).isSome
  match cs with
  | '-' :: rest =>
    let body := if rest.getLast? = some '\n' then rest.dropLast else rest
    match body.dropWhile isDigit with
    | [] => !body.isEmpty
    | '.' :: places => !places.isEmpty && places.all isDigit
    | _ => false
  | _ => false

/-- A word that begins with a minus and names no setting. -/
def unnamed (cs : List Char) : Word :=
  if isNegativeNumber cs || cs.contains ' ' then .value (String.ofList cs) else .unknown

/-- Reads a word. A long name may be cut short as long as one setting only is meant. -/
def classify (text : String) : Except Refusal Word :=
  let cs := text.toList
  match cs with
  | ['-', '-'] => .ok .separator
  | '-' :: '-' :: _ =>
    let (name, value?) := cutAtEquals cs
    let value? := value?.map String.ofList
    match Setting.longNames.lookup (String.ofList name) with
    | some setting => .ok (.option setting value?)
    | none =>
      match Setting.longNames.filter fun (long, _) => name.isPrefixOf long.toList with
      | [(_, setting)] => .ok (.option setting value?)
      | [] => .ok (unnamed cs)
      | _ => .error .usage
  | '-' :: _ :: _ =>
    if cs = Setting.shortHelp then .ok (.option .help none)
    else if Setting.shortHelp.isPrefixOf cs then
      match cutAtEquals cs with
      | (['-', 'h'], some letters) => .ok (.shortHelp letters)
      | _ => .ok (.shortHelp (cs.drop Setting.shortHelp.length))
    else .ok (unnamed cs)
  | _ => .ok (.value text)

/-- Reads the words of a command line. -/
def classifyAll : List String → Except Refusal (List Word)
  | [] => .ok []
  | text :: rest => do
    match ← classify text with
    | .separator => return .separator :: rest.map .value
    | word => return word :: (← classifyAll rest)

end Word

/-! ### Options -/

namespace Options

/-- The options with the value of a setting. -/
def assign (options : Options) (value : String) : Setting → Except Refusal Options
  | .world => .ok { options with world := Path.parse value }
  | .speed =>
    match Speed.ofName? value with
    | some speed => .ok { options with speed }
    | none => .error .usage
  | .seed =>
    match Numeral.readWhole? value.toList with
    | some seed => .ok { options with seed? := some seed }
    | none => .error .usage
  | .logLevel =>
    match LogLevel.ofName? value with
    | some logLevel => .ok { options with logLevel }
    | none => .error .usage
  | .help | .dev | .noDelay | .noColor => .error .usage

/-- The options with a setting that takes no value. -/
def enable (options : Options) : Setting → Except Refusal Options
  | .help => .error .help
  | .dev => .ok { options with dev := true }
  | .noDelay => .ok { options with noDelay := true }
  | .noColor => .ok { options with noColor := true }
  | .world | .speed | .seed | .logLevel => .error .usage

/-- Whether each of the letters behind the short name of help asks for help again. -/
def countsAsHelp (letters : List Char) : Bool := !letters.isEmpty && letters.all (· == 'h')

/-- Goes through the words from left to right; a help option ends this at once. Words that are of no
use are refused at the end. -/
def consume (options : Options) (useless : Bool) : List Word → Except Refusal Options
  | [] => if useless then .error .usage else .ok options
  | .value _ :: rest | .separator :: rest | .unknown :: rest => options.consume true rest
  | .shortHelp letters :: _ => if countsAsHelp letters then .error .help else .error .usage
  | .option setting (some value) :: rest => do (← options.assign value setting).consume useless rest
  | .option setting none :: rest =>
    if setting.takesValue then
      match rest with
      | .value value :: rest => do (← options.assign value setting).consume useless rest
      | _ => .error .usage
    else do (← options.enable setting).consume useless rest

/-- Reads a command line. -/
def parse (words : List String) : Except Refusal Options := do
  ({} : Options).consume false (← Word.classifyAll words)

end Options

end Narrative
