/-
Module: Narrative.Console
Purpose: Text with markup on a console: what is printed, in which colours, and with which pauses.
Main exports: Stroke, Presenter, Markup.Style.escape, Presenter.write
-/
import Narrative.Markup.Render
import Narrative.Text.Blank

namespace Narrative

open Numeral (Binary64)
open Markup (Color Fragment RenderState Speed Style)

/-- The code that ends all colours. -/
def resetCode : List Char := "\x1b[0m".toList

/-- The code that sets the colours of a style, after ending those before it. -/
def Markup.Style.escape (style : Style) : List Char :=
  let codes := style.foreground.toList.map (·.code) ++ style.background.toList.map (·.code + 10)
  if codes.isEmpty then resetCode
  else resetCode ++ "\x1b[".toList ++ (";".intercalate (codes.map toString)).toList ++ ['m']

/-- What a presenter does: it prints characters or waits. -/
inductive Stroke where
  | print (characters : List Char)
  | sleep (seconds : Binary64)
deriving Repr, DecidableEq

/-- How a presenter shows text: the speed that a text begins with, whether it waits at all, and
whether it uses colours. -/
structure Presenter where
  speed : Speed := .normal
  delay : Bool := true
  color : Bool := true
deriving Repr, DecidableEq

/-- The work of a presenter on one text: its strokes, the state of the rendering at the end, and the
failure that cut it short. -/
structure Writing where
  strokes : List Stroke
  final : RenderState
  failure? : Option Markup.NoSuchArgument
deriving Repr, DecidableEq

namespace Presenter

/-- Text that is typed out: a wait follows each character that is not blank. -/
def typed (seconds : Binary64) (characters : List Char) : List Stroke :=
  characters.flatMap fun c =>
    if Text.isBlank c then [.print [c]] else [.print [c], .sleep seconds]

/-- The strokes of one fragment. -/
def strokes (presenter : Presenter) : Fragment × Style → List Stroke
  | (.pause seconds, _) => if presenter.delay then [.sleep seconds] else []
  | (.text characters, style) =>
    (if presenter.color then [.print style.escape] else []) ++
      (if presenter.delay && style.speed.delay.isPositive then typed style.speed.delay characters
       else [.print characters])

/-- What ends a text. -/
def ending (presenter : Presenter) : List Stroke :=
  (if presenter.color then [.print resetCode] else []) ++ [.print ['\n']]

/-- Shows a text. Each text starts in the plain style. -/
def write (presenter : Presenter) (text : List Char) (picks : List Int) : Writing :=
  let rendering := Markup.render text { style := { speed := presenter.speed }, picks }
  let shown := rendering.fragments.flatMap presenter.strokes
  { strokes := if rendering.failure?.isSome then shown else shown ++ presenter.ending
    final := rendering.final
    failure? := rendering.failure? }

end Presenter

/-- The characters that strokes print. -/
def printed (strokes : List Stroke) : List Char :=
  strokes.flatMap fun
    | .print characters => characters
    | .sleep _ => []

/-- The waits among strokes, each with the number of characters printed before it. -/
def sleeps (position : Nat) : List Stroke → List (Nat × Binary64)
  | [] => []
  | .print characters :: rest => sleeps (position + characters.length) rest
  | .sleep seconds :: rest => (position, seconds) :: sleeps position rest

end Narrative
