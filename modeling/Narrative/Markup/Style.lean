/-
Module: Narrative.Markup.Style
Purpose: How text is shown: its speed and its colours.
Main exports: Speed, Speed.delay, Color, Color.ofName?, Style
-/
import Narrative.Numeral.Binary64

namespace Narrative.Markup

open Numeral (Binary64)

/-- The pace at which text is typed out. -/
inductive Speed where
  | instant
  | quick
  | normal
  | slow
deriving Repr, DecidableEq

namespace Speed

/-- All speeds, the fastest first. -/
def all : List Speed := [.instant, .quick, .normal, .slow]

/-- The name of a speed. -/
def name : Speed → String
  | .instant => "instant"
  | .quick => "quick"
  | .normal => "normal"
  | .slow => "slow"

/-- The speed of a name. -/
def ofName? (name : String) : Option Speed := all.find? (·.name = name)

/-- The seconds that one character takes. -/
def delay : Speed → Binary64
  | .instant => .zero false
  | .quick => .ofDecimal false 15 (-3)
  | .normal => .ofDecimal false 75 (-3)
  | .slow => .ofDecimal false 3 (-1)

end Speed

/-- The colours of the console. -/
inductive Color where
  | black
  | darkRed
  | darkGreen
  | darkYellow
  | darkBlue
  | darkMagenta
  | darkCyan
  | gray
  | darkGray
  | red
  | green
  | yellow
  | blue
  | magenta
  | cyan
  | white
deriving Repr, DecidableEq

namespace Color

/-- All colours, in the order of their console codes. -/
def all : List Color :=
  [.black, .darkRed, .darkGreen, .darkYellow, .darkBlue, .darkMagenta, .darkCyan, .gray,
    .darkGray, .red, .green, .yellow, .blue, .magenta, .cyan, .white]

/-- The name of a colour. -/
def name : Color → String
  | .black => "black"
  | .darkRed => "darkred"
  | .darkGreen => "darkgreen"
  | .darkYellow => "darkyellow"
  | .darkBlue => "darkblue"
  | .darkMagenta => "darkmagenta"
  | .darkCyan => "darkcyan"
  | .gray => "gray"
  | .darkGray => "darkgray"
  | .red => "red"
  | .green => "green"
  | .yellow => "yellow"
  | .blue => "blue"
  | .magenta => "magenta"
  | .cyan => "cyan"
  | .white => "white"

/-- The colour of a name. -/
def ofName? (name : String) : Option Color := all.find? (·.name = name)

/-- The console code of a colour of the text. -/
def code : Color → Nat
  | .black => 30
  | .darkRed => 31
  | .darkGreen => 32
  | .darkYellow => 33
  | .darkBlue => 34
  | .darkMagenta => 35
  | .darkCyan => 36
  | .gray => 37
  | .darkGray => 90
  | .red => 91
  | .green => 92
  | .yellow => 93
  | .blue => 94
  | .magenta => 95
  | .cyan => 96
  | .white => 97

end Color

/-- How the next characters are shown, and the iteration that the choosing directives go by. -/
structure Style where
  iteration : Int := 0
  speed : Speed := .normal
  foreground : Option Color := none
  background : Option Color := none
deriving Repr, DecidableEq

end Narrative.Markup
