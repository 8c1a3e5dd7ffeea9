/-
Module: Narrative.Markup.Render
Purpose: Expansion of the directives of a text, from left to right. The result of a directive takes
  its place in the text and is expanded with it.
Main exports: Kind, RenderState, Fragment, Rendering, Directive.perform, render, expand
-/
import Narrative.Log
import Narrative.Markup.Directive
import Narrative.Markup.Style
import Narrative.Numeral.Decimal
import Narrative.Numeral.Whole
import Narrative.Text.Case

namespace Narrative.Markup

open Numeral (Binary64)

/-- What a directive does. -/
inductive Kind where
  | speed (speed : Speed)
  | wait
  | foreground
  | background
  | setIteration
  | random
  | cycle
  | advance
  | event
deriving Repr, DecidableEq

/-- The kind of a directive by its name, in full or in short. -/
def Kind.ofName? : String → Option Kind
  | "i" | "inst" => some (.speed .instant)
  | "q" | "quick" => some (.speed .quick)
  | "n" | "norm" => some (.speed .normal)
  | "s" | "slow" => some (.speed .slow)
  | "w" | "wait" => some .wait
  | "f" | "fore" => some .foreground
  | "b" | "back" => some .background
  | "p" | "parm" => some .setIteration
  | "r" | "rand" => some .random
  | "c" | "cycl" => some .cycle
  | "a" | "augm" => some .advance
  | "#" | "evnt" => some .event
  | _ => none

/-- The state of a rendering: the style, the random numbers that are left, the arguments of the event
directives so far, and the names that are no directive. -/
structure RenderState where
  style : Style := {}
  picks : List Int := []
  raised : List String := []
  unknown : List String := []
deriving Repr, DecidableEq

/-- A piece of a rendering. -/
inductive Fragment where
  | text (characters : List Char)
  | pause (seconds : Binary64)
deriving Repr, DecidableEq

/-- An argument that cannot be chosen since the iteration is too far below zero; `wide` says that the
index needs more than 64 bits. -/
structure NoSuchArgument where
  wide : Bool
deriving Repr, DecidableEq

/-- What a directive leaves in the text. -/
inductive Effect where
  | nothing
  | text (replacement : List Char)
  | pause (seconds : Binary64)
deriving Repr, DecidableEq

/-- The log record for a name that is no directive. -/
def unknownRecord (name : String) : LogRecord :=
  ⟨.warning, .markup, "Unknown markup directive: [" ++ name ++ "]"⟩

/-- The colour that an argument names, in any case and with blanks around it. -/
def colorOf? (argument : List Char) : Option Color :=
  Color.ofName? (Text.lower (String.ofList (Text.trim argument)))

/-- The argument at a position; a negative position counts from the end. -/
def argumentAt (first : List Char) (more : List (List Char)) (position : Int) :
    Except NoSuchArgument (List Char) :=
  let arguments := first :: more
  let index := if position < 0 then position + arguments.length else position
  if index < 0 then .error ⟨position < -(Numeral.twoTo 63 : Int)⟩
  else .ok (arguments[index.toNat]?.getD first)

/-- Carries out a directive of the given kind with its first argument and the others. -/
def Kind.performWith (kind : Kind) (first : List Char) (more : List (List Char))
    (state : RenderState) : Except NoSuchArgument (Effect × RenderState) :=
  let style := state.style
  let count := more.length + 1
  let choose (index : Nat) : Effect := .text ((first :: more)[index % count]?.getD first)
  match kind with
  | .speed pace => .ok (.nothing, { state with style := { style with speed := pace } })
  | .wait =>
    match Numeral.readDecimal? first with
    | some seconds => .ok (.pause seconds, state)
    | none => .ok (.nothing, state)
  | .foreground =>
    match colorOf? first with
    | some color => .ok (.nothing, { state with style := { style with foreground := some color } })
    | none => .ok (.nothing, state)
  | .background =>
    match colorOf? first with
    | some color => .ok (.nothing, { state with style := { style with background := some color } })
    | none => .ok (.nothing, state)
  | .setIteration =>
    let iteration := (Numeral.readWhole? first).getD 0
    .ok (.nothing, { state with style := { style with iteration } })
  | .random => .ok (choose (state.picks.headD 0 % count).toNat, { state with picks := state.picks.tail })
  | .cycle => .ok (choose (style.iteration % count).toNat, state)
  | .advance =>
    (argumentAt first more (min style.iteration more.length)).map (.text ·, state)
  | .event => .ok (.nothing, { state with raised := state.raised ++ [String.ofList first] })

/-- Carries out a directive. A directive that lacks its argument does nothing, and an unknown one is
noted. -/
def Directive.perform (directive : Directive) (state : RenderState) :
    Except NoSuchArgument (Effect × RenderState) :=
  let name := String.ofList directive.name
  match Kind.ofName? name, directive.arguments with
  | none, _ => .ok (.nothing, { state with unknown := state.unknown ++ [name] })
  | some (.speed speed), _ =>
    .ok (.nothing, { state with style := { state.style with speed } })
  | some _, [] => .ok (.nothing, state)
  | some kind, first :: more => kind.performWith first more state

/-! ### What takes the place of a directive is one of its arguments -/

private theorem mem_of_getD (first : List Char) (more : List (List Char)) (i : Nat) :
    (first :: more)[i]?.getD first ∈ first :: more := by
  cases e : (first :: more)[i]? with
  | none => simp
  | some argument => simpa using List.mem_of_getElem? e

theorem mem_of_argumentAt {first argument : List Char} {more : List (List Char)} {position : Int}
    (h : argumentAt first more position = .ok argument) : argument ∈ first :: more := by
  unfold argumentAt at h
  simp only at h
  generalize (if position < 0 then _ else position) = index at h
  split at h
  · cases h
  · cases h
    exact mem_of_getD ..

theorem Kind.mem_of_performWith {kind : Kind} {first replacement : List Char}
    {more : List (List Char)} {state state' : RenderState}
    (h : kind.performWith first more state = .ok (.text replacement, state')) :
    replacement ∈ first :: more := by
  cases kind with
  | random | cycle =>
    cases h
    exact mem_of_getD ..
  | advance =>
    simp only [performWith] at h
    cases chosen : argumentAt first more (min state.style.iteration more.length) with
    | error failure => simp [chosen, Except.map] at h
    | ok argument =>
    simp only [chosen, Except.map, Except.ok.injEq, Prod.mk.injEq, Effect.text.injEq] at h
    rw [← h.1]
    exact mem_of_argumentAt chosen
  | wait | foreground | background =>
    simp only [performWith] at h
    split at h <;> cases h
  | speed | setIteration | event => cases h

theorem Directive.mem_arguments_of_perform {directive : Directive} {state state' : RenderState}
    {replacement : List Char}
    (h : directive.perform state = .ok (.text replacement, state')) :
    replacement ∈ directive.arguments := by
  unfold Directive.perform at h
  simp only at h
  split at h
  · cases h
  · cases h
  · cases h
  · next isArguments =>
    rw [isArguments]
    exact Kind.mem_of_performWith h

/-- What a rendering gives: the fragments, each with the style in which it is shown, the state at the
end, and the failure that cut it short. -/
structure Rendering where
  fragments : List (Fragment × Style)
  final : RenderState
  failure? : Option NoSuchArgument
deriving Repr, DecidableEq

/-- The rendering after some fragments. -/
def Rendering.after (shown : List (Fragment × Style)) (rendering : Rendering) : Rendering :=
  { rendering with fragments := shown ++ rendering.fragments }

/-- A piece of plain text, which is no fragment if it is empty. -/
def shownText (text : List Char) (state : RenderState) : List (Fragment × Style) :=
  if text.isEmpty then [] else [(.text text, state.style)]

/-- Renders a text: the plain text up to the next mark, then what the mark leaves followed by the
rest. Each step removes an opening bracket. -/
def render (text : List Char) (state : RenderState) : Rendering :=
  match found : find? text with
  | none => ⟨shownText text state, state, none⟩
  | some ⟨before, none, after⟩ =>
    have := count_after_lt found
    (render after state).after (shownText before state)
  | some ⟨before, some directive, after⟩ =>
    match done : directive.perform state with
    | .error failure => ⟨shownText before state, state, some failure⟩
    | .ok (.nothing, next) =>
      have := count_after_lt found
      (render after next).after (shownText before state)
    | .ok (.pause seconds, next) =>
      have := count_after_lt found
      (render after next).after (shownText before state ++ [(.pause seconds, next.style)])
    | .ok (.text replacement, next) =>
      have := count_argument_add_after_lt found rfl
        (Directive.mem_arguments_of_perform done)
      (render (replacement ++ after) next).after (shownText before state)
termination_by text.count '['
decreasing_by
  · exact this
  · exact this
  · exact this
  · rw [List.count_append]
    exact this

/-- The characters of a fragment. -/
def Fragment.characters : Fragment → List Char
  | .text characters => characters
  | .pause _ => []

/-- The plain text of a rendering. -/
def Rendering.text (rendering : Rendering) : List Char :=
  rendering.fragments.flatMap (·.1.characters)

/-- The plain text that a text expands to, and the state at the end. -/
def expand (text : List Char) (state : RenderState) :
    Except NoSuchArgument (List Char × RenderState) :=
  let rendering := render text state
  match rendering.failure? with
  | some failure => .error failure
  | none => .ok (rendering.text, rendering.final)

end Narrative.Markup
