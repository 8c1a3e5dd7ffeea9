/-
Module: Narrative.Proofs.Console
Purpose: How a text is shown does not change the text. What a presenter prints, apart from the codes
  of colours, what it raises and what it leaves of the random numbers is the expansion of the text,
  at every speed, with and without waits and colours; and it waits where it should and nowhere else.
Main exports: consoleCodes, styleCode?, Presenter.shown, Presenter.output, Presenter.waits,
  Presenter.Shows, Presenter.write_shows
-/
import Narrative.Proofs.Markup.Pace
import Narrative.Proofs.World.Listeners
import Narrative.Session

namespace Narrative

open Numeral (Binary64)
open Markup (Color Fragment RenderState Style)

/-! ### Codes of colours -/

/-- The codes of the colours on the console, by name. -/
def consoleCodes : List (String × Nat) :=
  [("black", 30), ("darkred", 31), ("darkgreen", 32), ("darkyellow", 33), ("darkblue", 34),
    ("darkmagenta", 35), ("darkcyan", 36), ("gray", 37), ("darkgray", 90), ("red", 91),
    ("green", 92), ("yellow", 93), ("blue", 94), ("magenta", 95), ("cyan", 96), ("white", 97)]

/-- The code of a style, whose colours are known by name. There is none if the console does not know
one of the names. -/
def styleCode? (foreground? background? : Option String) : Option (List Char) := do
  let foreground ← foreground?.mapM (consoleCodes.lookup ·)
  let background ← background?.mapM (consoleCodes.lookup ·)
  let codes := foreground.toList ++ background.toList.map (· + 10)
  if codes.isEmpty then return resetCode
  return resetCode ++ "\x1b[".toList ++ (";".intercalate (codes.map toString)).toList ++ ['m']

theorem lookup_name (color : Color) : consoleCodes.lookup color.name = some color.code := by
  cases color <;> decide

/-- The console knows every colour that a text can name. -/
theorem styleCode?_of_style (style : Style) :
    styleCode? (style.foreground.map (·.name)) (style.background.map (·.name)) =
      some style.escape := by
  obtain ⟨iteration, speed, foreground, background⟩ := style
  cases foreground <;> cases background <;> simp [styleCode?, lookup_name, Style.escape]

namespace Presenter

/-! ### What is to be seen -/

/-- The pieces of a text in the order and the style in which a presenter comes to them. -/
def shown (presenter : Presenter) (text : List Char) (picks : List Int) : List (Fragment × Style) :=
  (Markup.render text { style := { speed := presenter.speed }, picks }).fragments

/-- A code of colours, which a presenter without colours leaves out. -/
def coded (presenter : Presenter) (code : List Char) : List Char :=
  if presenter.color then code else []

/-- What is to be printed for a piece: the code of its style, and its characters. -/
def output (presenter : Presenter) : Fragment × Style → List Char
  | (.text characters, style) => presenter.coded style.escape ++ characters
  | (.pause _, _) => []

/-- The waits for characters that are typed out from a position on: one after each that is not blank. -/
def typedWaits (position : Nat) (seconds : Binary64) (characters : List Char) :
    List (Nat × Binary64) :=
  ((characters.zipIdx (position + 1)).filter fun entry => !Text.isBlank entry.1).map fun entry =>
    (entry.2, seconds)

/-- The waits of a presenter that waits, for pieces that are printed from a position on: one for each
pause, and those for the characters of a text at a speed that takes time. -/
def waits (presenter : Presenter) : (position : Nat) → List (Fragment × Style) → List (Nat × Binary64)
  | _, [] => []
  | position, (.pause seconds, _) :: rest => (position, seconds) :: presenter.waits position rest
  | position, (.text characters, style) :: rest =>
    let start := position + (presenter.coded style.escape).length
    (if style.speed.delay.isPositive then typedWaits start style.speed.delay characters else []) ++
      presenter.waits (start + characters.length) rest

/-! ### What strokes print and where they wait -/

theorem printed_append (strokes others : List Stroke) :
    printed (strokes ++ others) = printed strokes ++ printed others := List.flatMap_append

theorem sleeps_append (position : Nat) (strokes others : List Stroke) :
    sleeps position (strokes ++ others) =
      sleeps position strokes ++ sleeps (position + (printed strokes).length) others := by
  induction strokes generalizing position with
  | nil => rfl
  | cons stroke rest ih =>
      cases stroke with
      | print characters =>
          simp only [List.cons_append, sleeps, ih, printed, List.flatMap_cons, List.length_append,
            Nat.add_assoc]
      | sleep seconds => simp [sleeps, ih, printed]

theorem printed_typed (seconds : Binary64) (characters : List Char) :
    printed (typed seconds characters) = characters := by
  induction characters with
  | nil => rfl
  | cons c rest ih =>
      simp only [typed, List.flatMap_cons, printed_append] at ih ⊢
      rw [ih]
      split <;> rfl

theorem sleeps_typed (position : Nat) (seconds : Binary64) (characters : List Char) :
    sleeps position (typed seconds characters) = typedWaits position seconds characters := by
  induction characters generalizing position with
  | nil => rfl
  | cons c rest ih =>
      have later := ih (position + 1)
      unfold typed typedWaits at later ⊢
      rw [List.flatMap_cons, sleeps_append, List.zipIdx_cons]
      cases blank : Text.isBlank c with
      | true => simpa [blank, printed, sleeps] using later
      | false => simpa [blank, printed, sleeps] using later

variable (presenter : Presenter)

theorem printed_strokes (piece : Fragment × Style) :
    printed (presenter.strokes piece) = presenter.output piece := by
  obtain ⟨fragment, style⟩ := piece
  cases fragment with
  | pause seconds => cases delay : presenter.delay <;> simp [strokes, output, printed, delay]
  | text characters =>
      have coding : printed (if presenter.color then [.print style.escape] else []) =
          presenter.coded style.escape := by
        unfold coded
        split <;> simp [printed]
      rw [strokes, printed_append, coding, output]
      split
      · rw [printed_typed]
      · simp [printed]

theorem printed_flatMap_strokes (pieces : List (Fragment × Style)) :
    printed (pieces.flatMap presenter.strokes) = pieces.flatMap presenter.output := by
  induction pieces with
  | nil => rfl
  | cons piece rest ih =>
      rw [List.flatMap_cons, List.flatMap_cons, printed_append, printed_strokes, ih]

theorem printed_ending : printed presenter.ending = presenter.coded resetCode ++ ['\n'] := by
  unfold ending coded
  split <;> rfl

theorem sleeps_ending (position : Nat) : sleeps position presenter.ending = [] := by
  unfold ending
  split <;> rfl

/-- A presenter that does not wait does not wait for any piece. -/
theorem sleeps_of_not_delay (never : presenter.delay = false) (position : Nat)
    (pieces : List (Fragment × Style)) :
    sleeps position (pieces.flatMap presenter.strokes) = [] := by
  induction pieces generalizing position with
  | nil => rfl
  | cons piece rest ih =>
      rw [List.flatMap_cons, sleeps_append, ih, List.append_nil]
      obtain ⟨fragment, style⟩ := piece
      cases fragment <;> cases color : presenter.color <;> simp [strokes, never, color, sleeps]

/-- A presenter that waits waits for the pieces where it should. The induction is on the pieces. -/
theorem sleeps_of_delay (always : presenter.delay = true) (position : Nat)
    (pieces : List (Fragment × Style)) :
    sleeps position (pieces.flatMap presenter.strokes) = presenter.waits position pieces := by
  induction pieces generalizing position with
  | nil => rfl
  | cons piece rest ih =>
      obtain ⟨fragment, style⟩ := piece
      rw [List.flatMap_cons, sleeps_append, ih, printed_strokes]
      cases fragment with
      | pause seconds => simp [strokes, always, sleeps, output, waits]
      | text characters =>
          have own : sleeps position (presenter.strokes (.text characters, style)) =
              if style.speed.delay.isPositive then
                typedWaits (position + (presenter.coded style.escape).length) style.speed.delay
                  characters
              else [] := by
            simp only [strokes, always, Bool.true_and, sleeps_append]
            cases style.speed.delay.isPositive <;> cases color : presenter.color <;>
              simp [coded, color, sleeps, sleeps_typed, printed]
          rw [own, waits, output, List.length_append, Nat.add_assoc]

/-! ### Texts -/

/-- The arguments of the event directives that are carried out when the text is expanded. -/
def scripts (text : List Char) (picks : List Int) : List String :=
  (Markup.performed text { picks }).filterMap (·.1.event?)

/-- The presenter shows a text that expands to plain text. -/
structure Shows (text : List Char) (picks : List Int) (plain : List Char) (final : RenderState) :
    Prop where
  /-- Nothing cuts the text short. -/
  completes : (presenter.write text picks).failure? = none
  /-- The characters of the pieces are printed, each piece after the code of its style, and at the end
  the code that ends all colours and the end of the line. -/
  printed_eq : printed (presenter.write text picks).strokes =
    (presenter.shown text picks).flatMap presenter.output ++ presenter.coded resetCode ++ ['\n']
  /-- The characters of the pieces are the plain text. -/
  plain_eq : (presenter.shown text picks).flatMap (·.1.characters) = plain
  /-- The console has a code for the colours of each piece. -/
  known : ∀ piece ∈ presenter.shown text picks,
    styleCode? (piece.2.foreground.map (·.name)) (piece.2.background.map (·.name)) =
      some piece.2.escape
  /-- The events are those of the event directives. -/
  raised : (presenter.write text picks).final.raised = scripts text picks
  /-- Whoever records them hears of each once, and in their order. -/
  heard : ∀ app : App, app.engine.world.bus.Records [.script] →
    (app.afterText (presenter.write text picks).final).engine.world.journal =
      app.engine.world.journal ++ (scripts text picks).map .script
  /-- The same random numbers are left as after the expansion. -/
  left : (presenter.write text picks).final.picks = final.picks
  /-- Without delays there are no waits. -/
  never : presenter.delay = false → sleeps 0 (presenter.write text picks).strokes = []
  /-- With delays there are the waits of the pieces. -/
  always : presenter.delay = true →
    sleeps 0 (presenter.write text picks).strokes = presenter.waits 0 (presenter.shown text picks)

variable {text : List Char} {picks : List Int}

/-- What a presenter renders differs in speeds only from what is expanded. -/
theorem alike_expansion : Markup.Rendering.Alike
    (Markup.render text { style := { speed := presenter.speed }, picks })
    (Markup.render text { picks }) :=
  Markup.alike_paced text { picks } presenter.speed

theorem raised_write : (presenter.write text picks).final.raised = scripts text picks := by
  have alike : Markup.Rendering.Alike _ (Markup.render text { picks }) := presenter.alike_expansion
  obtain ⟨speed, ended⟩ := alike.final
  rw [write, ended]
  exact Markup.raised_render text { picks }

theorem characters_shown : (presenter.shown text picks).flatMap (·.1.characters) =
    (Markup.render text { picks }).text := by
  have characters (pieces : List (Fragment × Style)) :
      pieces.flatMap (·.1.characters) = (pieces.map (·.1)).flatMap (·.characters) :=
    (List.flatMap_map _ _ pieces).symm
  rw [characters, shown, presenter.alike_expansion.fragments, ← characters]
  rfl

/-- A text that nothing cuts short is shown piece by piece, and then ended. -/
theorem strokes_write (completes : (presenter.write text picks).failure? = none) :
    (presenter.write text picks).strokes =
      (presenter.shown text picks).flatMap presenter.strokes ++ presenter.ending := by
  have failure : (Markup.render text { style := { speed := presenter.speed }, picks }).failure? =
    none := completes
  rw [write, failure]
  rfl

/-- Whoever records the events of texts hears of those that a rendering raised. -/
theorem journal_afterText {app : App} (records : app.engine.world.bus.Records [.script])
    (rendered : RenderState) :
    (app.afterText rendered).engine.world.journal =
      app.engine.world.journal ++ rendered.raised.map .script := by
  have recorded : ∀ event ∈ rendered.raised.map Event.script, event.kind ∈ [EventKind.script] := by
    simp [Event.kind]
  have told := World.journal_emits_of_records records recorded
  rwa [List.foldl_map] at told

/-- Every presenter shows every text that expands, as what it expands to. -/
theorem write_shows {plain : List Char} {final : RenderState}
    (expands : Markup.expand text { picks } = .ok (plain, final)) :
    presenter.Shows text picks plain final := by
  unfold Markup.expand at expands
  dsimp only at expands
  split at expands
  next => cases expands
  next complete =>
    cases expands
    have alike : Markup.Rendering.Alike _ (Markup.render text { picks }) := presenter.alike_expansion
    have completes : (presenter.write text picks).failure? = none := alike.failure.trans complete
    have strokes_eq := presenter.strokes_write completes
    exact {
      completes
      printed_eq := by
        rw [strokes_eq, printed_append, printed_flatMap_strokes, printed_ending, List.append_assoc]
      plain_eq := presenter.characters_shown
      known := fun piece _ => styleCode?_of_style piece.2
      raised := presenter.raised_write
      heard := by
        intro app records
        rw [journal_afterText records, raised_write]
      left := by
        obtain ⟨speed, ended⟩ := alike.final
        rw [write, ended]
        rfl
      never := by
        intro delay
        rw [strokes_eq, sleeps_append, sleeps_of_not_delay presenter delay, sleeps_ending]
        rfl
      always := by
        intro delay
        rw [strokes_eq, sleeps_append, sleeps_ending, List.append_nil,
          sleeps_of_delay presenter delay] }

/-- A text with colours, a pause, an event, a change of speed and a choice. -/
def chime : List Char :=
  "[f]\x7bRed\x7dDing[#]\x7bbell\x7d [w]\x7b0.5\x7d[i]dong[r]\x7b!\x7d\x7b?\x7d".toList

/-- The chime in colours, typed out: four waits before the space, the pause after it, and none for what
follows at once. -/
theorem write_shows_chime :
    ∃ final, Presenter.Shows {} chime [1] "Ding dong?".toList final ∧
      ((sleeps 0 (Presenter.write {} chime [1]).strokes).map (·.1) = [10, 11, 12, 13, 23]) ∧
      (Presenter.write {} chime [1]).final.raised = ["bell"] := by
  have expands : (Markup.expand chime { picks := [1] }).toOption.map (·.1) =
      some "Ding dong?".toList := by decide +kernel
  obtain ⟨⟨plain, final⟩, expanded, rfl⟩ := Option.map_eq_some_iff.1 expands
  have shows := write_shows {} (eq_ok_of_toOption expanded)
  refine ⟨final, shows, ?_, ?_⟩
  · rw [shows.always rfl]
    decide +kernel
  · rw [shows.raised]
    decide +kernel

end Presenter

end Narrative
