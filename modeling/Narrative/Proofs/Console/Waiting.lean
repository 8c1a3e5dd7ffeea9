/-
Module: Narrative.Proofs.Console.Waiting
Purpose: Which waits a presenter asks for can be made. Those for characters always can; those of pauses
  are what the directives of the text name, and a directive may name a time that is below zero,
  infinite or no number. Such a wait stops the console, in the middle of the text.
Main exports: Markup.Directive.seconds?, Markup.pauses_render, Stroke.isPossible,
  Presenter.Waits, Presenter.waits_possible
-/
import Narrative.Proofs.Console
import Narrative.Proofs.Numeral.Duration

namespace Narrative

open Numeral (Binary64)
open Markup (Directive Fragment RenderState Speed Style)

/-! ### Pauses -/

namespace Markup

/-- The argument that the directive reads a time from. -/
def Directive.waitFor? (directive : Directive) : Option (List Char) :=
  match Kind.ofName? (String.ofList directive.name), directive.arguments with
  | some .wait, first :: _ => some first
  | _, _ => none

/-- The seconds that the directive waits. -/
def Directive.seconds? (directive : Directive) : Option Binary64 :=
  directive.waitFor?.bind Numeral.readDecimal?

/-- The seconds of a pause. -/
def Fragment.seconds? : Fragment → Option Binary64
  | .pause seconds => some seconds
  | .text _ => none

/-- A directive pauses for the seconds that it names, and no other directive pauses. -/
theorem Directive.seconds?_of_perform {directive : Directive} {state next : RenderState}
    {effect : Effect} (done : directive.perform state = .ok (effect, next)) (style : Style) :
    (effect.shown style).filterMap (·.1.seconds?) = directive.seconds?.toList := by
  obtain ⟨name, arguments⟩ := directive
  unfold perform at done
  unfold seconds? waitFor?
  dsimp only at done ⊢
  split at done
  next unknown =>
    cases done
    simp [unknown, Effect.shown]
  next pace named =>
    cases done
    simp [named, Effect.shown]
  next kind paced named =>
    cases done
    cases kind <;> simp [named, Effect.shown]
  next kind first more paced named =>
    rw [named]
    cases kind with
    | speed | setIteration | random | cycle | event =>
        cases done
        simp [Effect.shown]
    | wait =>
        simp only [Kind.performWith] at done
        split at done
        next seconds read =>
          cases done
          simp [Effect.shown, Fragment.seconds?, read]
        next unread =>
          cases done
          simp [Effect.shown, unread]
    | foreground | background =>
        simp only [Kind.performWith] at done
        split at done <;> cases done <;> simp [Effect.shown]
    | advance =>
        obtain ⟨argument, _, same⟩ := map_eq_ok.1 done
        cases same
        simp [Effect.shown]

theorem seconds_shownText (text : List Char) (state : RenderState) :
    (shownText text state).filterMap (·.1.seconds?) = [] := by
  unfold shownText
  split <;> rfl

/-- The pauses of a rendering are those of the directives that it carries out, in their order. One that
fails is none. -/
theorem pauses_render (text : List Char) (state : RenderState) :
    (render text state).fragments.filterMap (·.1.seconds?) =
      (performed text state).filterMap (·.1.seconds?) := by
  fun_induction performed text state with
  | case1 text state missing =>
      rw [render_of_none missing]
      exact seconds_shownText text state
  | case2 text state before after found _ ih =>
      rw [render_of_escape found, Rendering.after, List.filterMap_append, seconds_shownText, ih]
      rfl
  | case3 text state before directive after found failure failed =>
      obtain ⟨advance, _, _⟩ := Directive.perform_error_iff.1 ⟨failure, failed⟩
      have brief : directive.seconds? = none := by
        unfold Directive.seconds? Directive.waitFor?
        rw [show Kind.ofName? (String.ofList directive.name) = some .advance from advance]
        rfl
      rw [render_of_directive found, Directive.run, failed]
      simp [Rendering.after, seconds_shownText, brief]
  | case4 text state before directive after found effect next done _ ih =>
      rw [render_of_directive found, Directive.run_of_ok done]
      simp only [Rendering.after, List.filterMap_append, seconds_shownText, ih, List.nil_append,
        Directive.seconds?_of_perform done]
      rw [List.filterMap_cons]
      cases directive.seconds? <;> rfl

end Markup

/-! ### Strokes -/

/-- Whether the stroke can be made: a wait has to be for a duration. -/
def Stroke.isPossible : Stroke → Bool
  | .print _ => true
  | .sleep seconds => seconds.isDuration

/-- Whether the piece can be shown: a pause has to be for a duration. -/
def Markup.Fragment.isPossible (fragment : Fragment) : Bool :=
  fragment.seconds?.all (·.isDuration)

namespace Presenter

theorem isDuration_delay (speed : Speed) : speed.delay.isDuration = true := by
  cases speed <;> decide +kernel

theorem isPossible_of_mem_typed {speed : Speed} {characters : List Char} :
    ∀ stroke ∈ typed speed.delay characters, stroke.isPossible = true := by
  intro stroke member
  obtain ⟨c, _, among⟩ := List.mem_flatMap.1 member
  split at among
  · rw [List.mem_singleton.1 among]
    rfl
  · rcases List.mem_cons.1 among with rfl | sleep
    · rfl
    · rw [List.mem_singleton.1 sleep]
      exact isDuration_delay speed

variable (presenter : Presenter)

/-- The stroke of a piece that cannot be made is the wait of a pause that is no duration. -/
theorem find?_strokes (piece : Fragment × Style) :
    (presenter.strokes piece).find? (! ·.isPossible) =
      if presenter.delay then (piece.1.seconds?.filter (! ·.isDuration)).map .sleep else none := by
  obtain ⟨fragment, style⟩ := piece
  cases fragment with
  | pause seconds =>
      cases delays : presenter.delay with
      | false => simp [strokes, delays]
      | true => cases possible : seconds.isDuration <;>
          simp [strokes, Fragment.seconds?, Stroke.isPossible, Option.filter, delays, possible]
  | text characters =>
      have possible : ∀ stroke ∈ presenter.strokes (.text characters, style),
          stroke.isPossible = true := by
        intro stroke member
        rcases List.mem_append.1 member with code | shown
        · split at code
          · rw [List.mem_singleton.1 code]
            rfl
          · cases code
        · split at shown
          · exact isPossible_of_mem_typed stroke shown
          · rw [List.mem_singleton.1 shown]
            rfl
      have none : (presenter.strokes (.text characters, style)).find? (! ·.isPossible) = none := by
        rw [List.find?_eq_none]
        intro stroke member
        simp [possible stroke member]
      rw [none]
      simp [Fragment.seconds?]

theorem find?_flatMap_strokes (pieces : List (Fragment × Style)) :
    (pieces.flatMap presenter.strokes).find? (! ·.isPossible) =
      if presenter.delay then
        ((pieces.filterMap (·.1.seconds?)).find? (! ·.isDuration)).map .sleep
      else none := by
  induction pieces with
  | nil => simp
  | cons piece rest ih =>
      rw [List.flatMap_cons, List.find?_append, find?_strokes, ih, List.filterMap_cons]
      cases presenter.delay with
      | false => rfl
      | true =>
          cases piece.1.seconds? with
          | none => rfl
          | some seconds =>
              cases possible : seconds.isDuration <;>
                simp only [if_true, Option.filter, List.find?_cons, possible] <;> rfl

/-- With delays the strokes that can be made before one cannot are those of the pieces before it. -/
theorem takeWhile_flatMap_strokes (always : presenter.delay = true)
    (pieces : List (Fragment × Style)) :
    (pieces.flatMap presenter.strokes).takeWhile (·.isPossible) =
      (pieces.takeWhile (·.1.isPossible)).flatMap presenter.strokes := by
  induction pieces with
  | nil => rfl
  | cons piece rest ih =>
      have search := presenter.find?_strokes piece
      rw [if_pos always] at search
      rw [List.flatMap_cons, List.takeWhile_cons]
      cases possible : piece.1.isPossible with
      | true =>
          have each : ∀ stroke ∈ presenter.strokes piece, stroke.isPossible = true := by
            have nothing : piece.1.seconds?.filter (! ·.isDuration) = none := by
              unfold Fragment.isPossible at possible
              cases named : piece.1.seconds? <;> simp_all
            rw [nothing, Option.map_none, List.find?_eq_none] at search
            simpa using search
          rw [List.takeWhile_append_of_pos each, ih]
          rfl
      | false =>
          obtain ⟨fragment, style⟩ := piece
          cases fragment with
          | text characters => cases possible
          | pause seconds =>
              have endless : seconds.isDuration = false := possible
              simp [strokes, always, Stroke.isPossible, endless]

theorem isPossible_of_mem_ending : ∀ stroke ∈ presenter.ending, stroke.isPossible = true := by
  intro stroke member
  cases stroke with
  | print characters => rfl
  | sleep seconds =>
      unfold ending at member
      split at member <;> simp at member

/-! ### Texts -/

/-- The times that the directives of a text name that are carried out when it is shown, in their order. -/
def times (text : List Char) (picks : List Int) : List Binary64 :=
  (Markup.performed text { style := { speed := presenter.speed }, picks }).filterMap (·.1.seconds?)

/-- What a presenter does for a text is its pieces, and the ending unless it is cut short. -/
theorem exists_strokes_write (text : List Char) (picks : List Int) :
    ∃ ending, (∀ stroke ∈ ending, stroke.isPossible = true) ∧
      (presenter.write text picks).strokes =
        (presenter.shown text picks).flatMap presenter.strokes ++ ending := by
  unfold write
  dsimp only
  split
  · exact ⟨[], List.forall_mem_nil _, (List.append_nil _).symm⟩
  · exact ⟨presenter.ending, presenter.isPossible_of_mem_ending, rfl⟩

theorem pauses_shown (text : List Char) (picks : List Int) :
    (presenter.shown text picks).filterMap (·.1.seconds?) = presenter.times text picks :=
  Markup.pauses_render text _

theorem find?_write (text : List Char) (picks : List Int) :
    (presenter.write text picks).strokes.find? (! ·.isPossible) =
      if presenter.delay then ((presenter.times text picks).find? (! ·.isDuration)).map .sleep
      else none := by
  obtain ⟨ending, possible, strokes_eq⟩ := presenter.exists_strokes_write text picks
  have none : ending.find? (! ·.isPossible) = none := by
    rw [List.find?_eq_none]
    intro stroke member
    simp [possible stroke member]
  rw [strokes_eq, List.find?_append, none, Option.or_none, find?_flatMap_strokes, pauses_shown]

/-- Strokes can be made if the waits among them can. -/
theorem forall_sleep_iff {strokes : List Stroke} :
    (∀ seconds, .sleep seconds ∈ strokes → seconds.isDuration = true) ↔
      strokes.find? (! ·.isPossible) = none := by
  rw [List.find?_eq_none]
  constructor
  · intro each stroke member
    cases stroke with
    | print characters => simp [Stroke.isPossible]
    | sleep seconds => simp [Stroke.isPossible, each seconds member]
  · intro each seconds member
    simpa [Stroke.isPossible] using each _ member

theorem sleeps_write_iff (text : List Char) (picks : List Int) :
    (∀ seconds, .sleep seconds ∈ (presenter.write text picks).strokes → seconds.isDuration = true) ↔
      (presenter.delay = true → ∀ seconds ∈ presenter.times text picks, seconds.isDuration = true) := by
  rw [forall_sleep_iff, find?_write]
  cases presenter.delay <;> simp

/-- A pause that is no duration stops the pieces of a text. -/
theorem exists_impossible {text : List Char} {picks : List Int} (always : presenter.delay = true)
    {seconds : Binary64} (named : seconds ∈ presenter.times text picks)
    (endless : seconds.isDuration = false) :
    ∃ stroke ∈ (presenter.shown text picks).flatMap presenter.strokes, ¬ stroke.isPossible = true := by
  rw [← pauses_shown] at named
  obtain ⟨⟨fragment, style⟩, there, pause⟩ := List.mem_filterMap.1 named
  cases fragment with
  | text characters => cases pause
  | pause other =>
      cases pause
      refine ⟨.sleep seconds, List.mem_flatMap.2 ⟨_, there, ?_⟩, by simp [Stroke.isPossible, endless]⟩
      simp [strokes, always]

/-- Then only the pieces before the first such pause are printed. -/
theorem printed_write_of_impossible {text : List Char} {picks : List Int}
    (always : presenter.delay = true) {seconds : Binary64}
    (named : seconds ∈ presenter.times text picks) (endless : seconds.isDuration = false) :
    printed ((presenter.write text picks).strokes.takeWhile (·.isPossible)) =
      ((presenter.shown text picks).takeWhile (·.1.isPossible)).flatMap presenter.output := by
  obtain ⟨ending, _, strokes_eq⟩ := presenter.exists_strokes_write text picks
  obtain ⟨stroke, member, impossible⟩ := presenter.exists_impossible always named endless
  rw [strokes_eq, List.takeWhile_append, if_neg, takeWhile_flatMap_strokes presenter always,
    printed_flatMap_strokes]
  intro full
  have all := (List.takeWhile_sublist (·.isPossible)
    (l := (presenter.shown text picks).flatMap presenter.strokes)).eq_of_length full
  exact impossible (List.takeWhile_eq_self_iff.1 all stroke member)

theorem isDuration_of_plain {text : List Char} {picks : List Int}
    (plain : ∀ met ∈ Markup.performed text { style := { speed := presenter.speed }, picks },
      ∀ argument ∈ met.1.waitFor?, Numeral.IsPlain argument) :
    ∀ seconds ∈ presenter.times text picks, seconds.isDuration = true := by
  intro seconds named
  obtain ⟨met, member, read⟩ := List.mem_filterMap.1 named
  obtain ⟨argument, waits, value⟩ := Option.bind_eq_some_iff.1 read
  exact Numeral.isDuration_of_isPlain (plain met member argument waits) value

/-- What is known of the waits of a presenter for a text. -/
structure Waits (text : List Char) (picks : List Int) : Prop where
  /-- The first stroke that cannot be made is the wait for the first time that is no duration, among those
  that the directives name that are carried out. Without delays there is none. -/
  stops : (presenter.write text picks).strokes.find? (! ·.isPossible) =
    if presenter.delay then ((presenter.times text picks).find? (! ·.isDuration)).map .sleep
    else none
  /-- So all waits can be made just if those directives name durations only, or there are no delays. -/
  possible_iff : (∀ seconds, .sleep seconds ∈ (presenter.write text picks).strokes →
      seconds.isDuration = true) ↔
    (presenter.delay = true → ∀ seconds ∈ presenter.times text picks, seconds.isDuration = true)
  /-- Otherwise the output breaks off: only the pieces before the first impossible pause are printed. -/
  cut : presenter.delay = true → ∀ seconds ∈ presenter.times text picks, seconds.isDuration = false →
    printed ((presenter.write text picks).strokes.takeWhile (·.isPossible)) =
      ((presenter.shown text picks).takeWhile (·.1.isPossible)).flatMap presenter.output
  /-- A text whose directives wait for plain decimals only is shown to its end. -/
  plain : (∀ met ∈ Markup.performed text { style := { speed := presenter.speed }, picks },
      ∀ argument ∈ met.1.waitFor?, Numeral.IsPlain argument) →
    ∀ seconds, .sleep seconds ∈ (presenter.write text picks).strokes → seconds.isDuration = true

/-- Which waits can be made, for every presenter and every text. -/
theorem waits_possible (text : List Char) (picks : List Int) : presenter.Waits text picks where
  stops := presenter.find?_write text picks
  possible_iff := presenter.sleeps_write_iff text picks
  cut always _ named endless := presenter.printed_write_of_impossible always named endless
  plain decimals :=
    (presenter.sleeps_write_iff text picks).2 fun _ => presenter.isDuration_of_plain decimals

/-- A text that waits for half a second, and then for one second less than none. -/
def rewound : List Char := "Tick[w]\x7b0.5\x7d tock[w]\x7b-1\x7d and on.".toList

/-- The half second passes; the console stops at the other wait, and the rest of the text is not
printed. -/
theorem waits_possible_rewound :
    ∃ presenter : Presenter, presenter.Waits rewound [] ∧
      (presenter.write rewound []).strokes.find? (! ·.isPossible) =
        some (.sleep (.ofDecimal true 1 0)) ∧
      printed ((presenter.write rewound []).strokes.takeWhile (·.isPossible)) =
        "Tick tock".toList := by
  let presenter : Presenter := { speed := .instant, color := false }
  have waits := presenter.waits_possible rewound []
  refine ⟨presenter, waits, ?_, ?_⟩
  · rw [waits.stops]
    decide +kernel
  · rw [waits.cut rfl (.ofDecimal true 1 0) (by decide +kernel) (by decide +kernel)]
    decide +kernel

end Presenter

end Narrative
