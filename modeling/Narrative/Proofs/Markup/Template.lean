/-
Module: Narrative.Proofs.Markup.Template
Purpose: Templates, which are texts of characters, doubled brackets and directives, and their meaning
  item by item. The expansion of a written template, which rewrites the text as it goes, gives this
  meaning: an argument in the place of its directive does not merge with what follows it.
Main exports: Chooser, Item, Template.written, Template.WellFormed, Template.meaning,
  Template.spellOut_written, expand_written
-/
import Narrative.Markup.Render
import Narrative.Proofs.Markup.Balance

namespace Narrative.Markup

/-! ### Templates -/

/-- The directives that put one of their arguments in their place. -/
inductive Chooser where
  | random
  | cycle
  | advance
deriving Repr, DecidableEq

/-- What the directive of a chooser does. -/
def Chooser.kind : Chooser → Kind
  | .random => .random
  | .cycle => .cycle
  | .advance => .advance

/-- The name of a chooser, in short or in full. -/
def Chooser.name : (short : Bool) → Chooser → List Char
  | true, .random => ['r']
  | false, .random => ['r', 'a', 'n', 'd']
  | true, .cycle => ['c']
  | false, .cycle => ['c', 'y', 'c', 'l']
  | true, .advance => ['a']
  | false, .advance => ['a', 'u', 'g', 'm']

/-- A piece of a template: a character, a doubled bracket, a directive with plain arguments, or the
choice among templates. -/
inductive Item where
  | character (c : Char)
  | escape
  | effect (directive : Directive)
  | choice (chooser : Chooser) (short : Bool) (arguments : List (List Item))

/-- A template is a list of pieces. -/
abbrev Template := List Item

mutual

/-- A piece as it is written. -/
def Item.written : Item → List Char
  | .character c => [c]
  | .escape => ['[', '[']
  | .effect directive => directive.written
  | .choice chooser short arguments =>
    Directive.written ⟨chooser.name short, Template.writtenAll arguments⟩

/-- A template as it is written. -/
def Template.written : List Item → List Char
  | [] => []
  | item :: rest => item.written ++ Template.written rest

/-- Arguments as they are written. -/
def Template.writtenAll : List (List Item) → List (List Char)
  | [] => []
  | template :: others => Template.written template :: Template.writtenAll others

end

/-- Whether the piece is a directive. -/
def Item.isDirective : Item → Bool
  | .character _ | .escape => false
  | .effect _ | .choice .. => true

/-- A directive with a name without brackets that chooses no argument. -/
structure Directive.IsEffect (directive : Directive) : Prop where
  named : ∀ c ∈ directive.name, isBracket c = false
  balanced : ∀ argument ∈ directive.arguments, Balanced argument
  plain : ∀ chooser : Chooser, Kind.ofName? (String.ofList directive.name) ≠ some chooser.kind

mutual

/-- What is asked of a piece: a single bracket is no character, and arguments are balanced. -/
def Item.WellFormed : Item → Prop
  | .character c => c ≠ '['
  | .escape => True
  | .effect directive => directive.IsEffect
  | .choice _ _ arguments => Template.AllWellFormed arguments

/-- What is asked of a template: no directive is followed by an opening brace. -/
def Template.WellFormed : List Item → Prop
  | [] => True
  | item :: rest =>
    item.WellFormed ∧ (item.isDirective = true → (Template.written rest).head? ≠ some '{') ∧
      Template.WellFormed rest

/-- What is asked of the arguments of a choice. -/
def Template.AllWellFormed : List (List Item) → Prop
  | [] => True
  | template :: others =>
    Balanced (Template.written template) ∧ Template.WellFormed template ∧
      Template.AllWellFormed others

end

/-! ### Their meaning -/

/-- The number of the argument that is chosen among `count` arguments, and the state after the
choice. Only an advance with an iteration below `-count` finds none. -/
def Chooser.select (chooser : Chooser) (count : Nat) (state : RenderState) :
    Except NoSuchArgument (Nat × RenderState) :=
  match chooser with
  | .random =>
    .ok ((state.picks.headD 0 % count).toNat, { state with picks := state.picks.tail })
  | .cycle => .ok ((state.style.iteration % count).toNat, state)
  | .advance =>
    let last : Int := min state.style.iteration (count - 1)
    if 0 ≤ last then .ok (last.toNat, state)
    else if 0 ≤ last + count then .ok ((last + count).toNat, state)
    else .error ⟨last < -(Numeral.twoTo 63 : Int)⟩

namespace Rendering

/-- The rendering that shows nothing. -/
def blank (state : RenderState) : Rendering := ⟨[], state, none⟩

/-- One character in the style of the state. -/
def ofCharacter (c : Char) (state : RenderState) : Rendering :=
  ⟨[(.text [c], state.style)], state, none⟩

/-- A rendering and, if it does not fail, the one that goes on from its state. -/
def andThen (first : Rendering) (next : RenderState → Rendering) : Rendering :=
  match first.failure? with
  | some _ => first
  | none => (next first.final).after first.fragments

end Rendering

/-- What a directive that chooses nothing does: it changes the state, and it may pause. -/
def Directive.effect (directive : Directive) (state : RenderState) : Rendering :=
  match directive.perform state with
  | .error failure => ⟨[], state, some failure⟩
  | .ok (.pause seconds, next) => ⟨[(.pause seconds, next.style)], next, none⟩
  | .ok (_, next) => .blank next

mutual

/-- What a piece shows, character by character. -/
def Item.meaning : Item → RenderState → Rendering
  | .character c, state => .ofCharacter c state
  | .escape, state => .ofCharacter '[' state
  | .effect directive, state => directive.effect state
  | .choice _ _ [], state => .blank state
  | .choice chooser _ (first :: more), state =>
    match chooser.select (more.length + 1) state with
    | .error failure => ⟨[], state, some failure⟩
    | .ok (chosen, next) => Template.meaningAt chosen (first :: more) next

/-- What a template shows: its pieces one after the other, each in the state after those before. -/
def Template.meaning : List Item → RenderState → Rendering
  | [], state => .blank state
  | item :: rest, state => (item.meaning state).andThen (Template.meaning rest)

/-- What the argument with a number shows. The others have no effect. -/
def Template.meaningAt : Nat → List (List Item) → RenderState → Rendering
  | _, [], state => .blank state
  | 0, template :: _, state => Template.meaning template state
  | chosen + 1, _ :: others, state => Template.meaningAt chosen others state

end

/-! ### Renderings, character by character

The expansion shows its text in chunks. Whether two characters come in one chunk or in two depends
on the marks between them, so chunks are compared by their characters. -/

/-- The characters of a fragment, one by one. -/
def Fragment.letters : Fragment → List Fragment
  | .text characters => characters.map fun c => .text [c]
  | .pause seconds => [.pause seconds]

/-- Fragments with their styles, character by character. -/
def spell (shown : List (Fragment × Style)) : List (Fragment × Style) :=
  shown.flatMap fun (fragment, style) => fragment.letters.map (·, style)

/-- The rendering with its text character by character. -/
def Rendering.spelled (rendering : Rendering) : Rendering :=
  { rendering with fragments := spell rendering.fragments }

namespace Rendering

theorem spelled_after (rendering : Rendering) (shown : List (Fragment × Style)) :
    (rendering.after shown).spelled = rendering.spelled.after (spell shown) := by
  simp [spelled, after, spell]

theorem after_after (rendering : Rendering) (first second : List (Fragment × Style)) :
    (rendering.after second).after first = rendering.after (first ++ second) := by
  simp [after]

/-- Spelling out changes nothing about the text. -/
theorem text_spelled (rendering : Rendering) : rendering.spelled.text = rendering.text := by
  have one (fragment : Fragment) : fragment.letters.flatMap Fragment.characters =
      fragment.characters := by
    cases fragment with
    | pause seconds => rfl
    | text characters =>
        rw [Fragment.letters, List.flatMap_map]
        exact List.flatMap_singleton' characters
  obtain ⟨fragments, final, failure?⟩ := rendering
  simp only [text, spelled, spell, List.flatMap_assoc, List.flatMap_map, one]

theorem ofCharacter_andThen (c : Char) (state : RenderState) (next : RenderState → Rendering) :
    (ofCharacter c state).andThen next = (next state).after [(.text [c], state.style)] := rfl

theorem andThen_assoc (first : Rendering) (second third : RenderState → Rendering) :
    (first.andThen second).andThen third =
      first.andThen fun state => (second state).andThen third := by
  obtain ⟨shown, final, failure?⟩ := first
  cases failure? with
  | some failure => rfl
  | none =>
      simp only [andThen, after]
      cases failed : (second final).failure? with
      | some failure => simp only [failed]
      | none => simp only [List.append_assoc]

end Rendering

theorem spell_shownText (text : List Char) (state : RenderState) :
    spell (shownText text state) = text.map fun c => (.text [c], state.style) := by
  unfold shownText
  split
  · next empty =>
      rw [List.isEmpty_iff.1 empty]
      rfl
  · simp [spell, Fragment.letters]

/-! ### One step of the expansion -/

/-- What is shown from a directive on, with the text after it. -/
def Directive.run (directive : Directive) (rest : List Char) (state : RenderState) : Rendering :=
  match directive.perform state with
  | .error failure => ⟨[], state, some failure⟩
  | .ok (.nothing, next) => render rest next
  | .ok (.pause seconds, next) => (render rest next).after [(.pause seconds, next.style)]
  | .ok (.text replacement, next) => render (replacement ++ rest) next

theorem render_of_none {text : List Char} (missing : find? text = none) (state : RenderState) :
    render text state = ⟨shownText text state, state, none⟩ := by
  rw [render]
  split
  · rfl
  · next found => simp [missing] at found
  · next found => simp [missing] at found

theorem render_of_escape {text before rest : List Char}
    (found : find? text = some ⟨before, none, rest⟩) (state : RenderState) :
    render text state = (render rest state).after (shownText before state) := by
  rw [render]
  split
  · next other => simp [found] at other
  · next other =>
      rw [found] at other
      cases other
      rfl
  · next other => simp [found] at other

theorem render_of_directive {text before rest : List Char} {directive : Directive}
    (found : find? text = some ⟨before, some directive, rest⟩) (state : RenderState) :
    render text state = (directive.run rest state).after (shownText before state) := by
  rw [render]
  split
  · next other => simp [found] at other
  · next other => simp [found] at other
  · next other =>
      rw [found] at other
      cases other
      unfold Directive.run
      split
      · next done => simp [done, Rendering.after]
      · next done => simp [done]
      · next done => simp [done, Rendering.after_after]
      · next done => simp [done]

/-- The rendering of a text, character by character. -/
def spellOut (text : List Char) (state : RenderState) : Rendering := (render text state).spelled

/-- A character that opens no mark is shown as it is. -/
theorem spellOut_cons {c : Char} (plain : c ≠ '[') (text : List Char) (state : RenderState) :
    spellOut (c :: text) state = (Rendering.ofCharacter c state).andThen (spellOut text) := by
  have shape := find?_cons plain text
  rw [Rendering.ofCharacter_andThen, spellOut, spellOut]
  rcases found : find? text with _ | ⟨before, _ | directive, rest⟩
  · rw [found] at shape
    rw [render_of_none shape, render_of_none found]
    simp [Rendering.spelled, Rendering.after, spell_shownText]
  · rw [found] at shape
    rw [render_of_escape shape, render_of_escape found]
    simp [Rendering.spelled_after, Rendering.after_after, spell_shownText]
  · rw [found] at shape
    rw [render_of_directive shape, render_of_directive found]
    simp [Rendering.spelled_after, Rendering.after_after, spell_shownText]

/-- A doubled bracket is shown as one. -/
theorem spellOut_escape (text : List Char) (state : RenderState) :
    spellOut ('[' :: '[' :: text) state =
      (Rendering.ofCharacter '[' state).andThen (spellOut text) := by
  rw [Rendering.ofCharacter_andThen, spellOut, render_of_escape (find?_escape text),
    Rendering.spelled_after, spell_shownText]
  rfl

/-- A directive is carried out where it stands. -/
theorem spellOut_directive {directive : Directive} {rest : List Char}
    (named : ∀ c ∈ directive.name, isBracket c = false)
    (balanced : ∀ text ∈ directive.arguments, Balanced text) (ends : rest.head? ≠ some '{')
    (state : RenderState) :
    spellOut (directive.written ++ rest) state = (directive.run rest state).spelled := by
  rw [spellOut, render_of_directive (find?_directive named balanced ends)]
  rfl

/-! ### What takes the place of a directive -/

/-- Only a choice leaves text in the place of its directive. -/
theorem Directive.kind_of_perform_text {directive : Directive} {state next : RenderState}
    {replacement : List Char} (done : directive.perform state = .ok (.text replacement, next)) :
    ∃ chooser : Chooser, Kind.ofName? (String.ofList directive.name) = some chooser.kind := by
  unfold perform at done
  simp only at done
  split at done
  · cases done
  · cases done
  · cases done
  · next kind first more _ named _ =>
      cases kind with
      | random => exact ⟨.random, named⟩
      | cycle => exact ⟨.cycle, named⟩
      | advance => exact ⟨.advance, named⟩
      | speed | setIteration | event => cases done
      | wait | foreground | background =>
          simp only [Kind.performWith] at done
          split at done <;> cases done

/-- A directive that chooses nothing has its effect, and the text after it is expanded. -/
theorem Directive.IsEffect.spelled_run {directive : Directive} (isEffect : directive.IsEffect)
    (rest : List Char) (state : RenderState) :
    (directive.run rest state).spelled = (directive.effect state).andThen (spellOut rest) := by
  unfold Directive.run Directive.effect
  split
  · next done =>
      rw [done]
      rfl
  · next done =>
      rw [done]
      rfl
  · next done =>
      rw [done, Rendering.spelled_after]
      rfl
  · next done =>
      obtain ⟨chooser, named⟩ := Directive.kind_of_perform_text done
      exact absurd named (isEffect.plain chooser)

theorem Chooser.ofName?_name (chooser : Chooser) (short : Bool) :
    Kind.ofName? (String.ofList (chooser.name short)) = some chooser.kind := by
  cases chooser <;> cases short <;> rfl

theorem Chooser.named (chooser : Chooser) (short : Bool) :
    ∀ c ∈ chooser.name short, isBracket c = false := by
  have none : (chooser.name short).any isBracket = false := by
    cases chooser <;> cases short <;> rfl
  intro c mem
  simpa using List.any_eq_false.1 none c mem

/-- The number of the chosen argument is that of an argument. -/
theorem Chooser.select_lt {chooser : Chooser} {count chosen : Nat} {state next : RenderState}
    (some : 0 < count) (selected : chooser.select count state = .ok (chosen, next)) :
    chosen < count := by
  cases chooser with
  | random =>
      cases selected
      have := Int.emod_lt_of_pos (state.picks.headD 0) (by omega : (0 : Int) < count)
      have := Int.emod_nonneg (state.picks.headD 0) (by omega : (count : Int) ≠ 0)
      omega
  | cycle =>
      cases selected
      have := Int.emod_lt_of_pos state.style.iteration (by omega : (0 : Int) < count)
      have := Int.emod_nonneg state.style.iteration (by omega : (count : Int) ≠ 0)
      omega
  | advance =>
      simp only [select] at selected
      split at selected
      · cases selected
        omega
      · split at selected
        · cases selected
          omega
        · cases selected

/-- A choice without arguments does nothing. -/
theorem Chooser.perform_nil (chooser : Chooser) (short : Bool) (state : RenderState) :
    Directive.perform ⟨chooser.name short, []⟩ state = .ok (.nothing, state) := by
  unfold Directive.perform
  simp only [Chooser.ofName?_name]
  cases chooser <;> rfl

/-- A choice leaves the selected argument. -/
theorem Chooser.perform_cons (chooser : Chooser) (short : Bool) (first : List Char)
    (more : List (List Char)) (state : RenderState) :
    Directive.perform ⟨chooser.name short, first :: more⟩ state =
      (chooser.select (more.length + 1) state).map fun (chosen, next) =>
        (.text ((first :: more)[chosen]?.getD first), next) := by
  have performed : Directive.perform ⟨chooser.name short, first :: more⟩ state =
      chooser.kind.performWith first more state := by
    unfold Directive.perform
    simp only [Chooser.ofName?_name]
    cases chooser <;> rfl
  rw [performed]
  cases chooser with
  | random =>
      have chosen : Chooser.random.select (more.length + 1) state = .ok _ := rfl
      have bound := Chooser.select_lt (Nat.succ_pos more.length) chosen
      simp only [kind, Kind.performWith, select, Except.map, Nat.mod_eq_of_lt bound]
  | cycle =>
      have chosen : Chooser.cycle.select (more.length + 1) state = .ok _ := rfl
      have bound := Chooser.select_lt (Nat.succ_pos more.length) chosen
      simp only [kind, Kind.performWith, select, Except.map, Nat.mod_eq_of_lt bound]
  | advance =>
      have last : ((more.length + 1 : Nat) : Int) - 1 = more.length := by omega
      simp only [kind, Kind.performWith, select, argumentAt, last, List.length_cons]
      generalize min state.style.iteration (more.length : Int) = position
      by_cases before : position < 0
      · have outside : ¬ 0 ≤ position := by omega
        simp only [before, outside, if_true, if_false]
        by_cases found : position + ((more.length + 1 : Nat) : Int) < 0
        · have nowhere : ¬ 0 ≤ position + ((more.length + 1 : Nat) : Int) := by omega
          rw [if_pos found, if_neg nowhere]
          rfl
        · have somewhere : 0 ≤ position + ((more.length + 1 : Nat) : Int) := by omega
          rw [if_neg found, if_pos somewhere]
          rfl
      · have inside : 0 ≤ position := by omega
        simp only [before, inside, if_true, if_false]
        rfl

/-! ### The expansion of a written template

The induction is on the template, for every text that may follow it. That text does not begin with
an opening brace, since it follows a directive: so a directive at the end of an argument takes no
arguments from what comes after the argument. -/

theorem Template.length_writtenAll (arguments : List Template) :
    (writtenAll arguments).length = arguments.length := by
  induction arguments with
  | nil => rfl
  | cons template others ih => simp [writtenAll, ih]

theorem Template.balanced_of_mem_writtenAll {arguments : List Template}
    (wellFormed : AllWellFormed arguments) : ∀ text ∈ writtenAll arguments, Balanced text := by
  induction arguments with
  | nil => simp [writtenAll]
  | cons template others ih =>
      obtain ⟨balanced, _, rest⟩ := wellFormed
      exact List.forall_mem_cons.2 ⟨balanced, ih rest⟩

/-- What follows a piece of a template does not begin with a brace if what follows the template does
not. -/
theorem head?_append_ne {first second : List Char} {c : Char} (one : first.head? ≠ some c)
    (other : second.head? ≠ some c) : (first ++ second).head? ≠ some c := by
  cases first with
  | nil => exact other
  | cons d rest => exact one

mutual

/-- A piece shows what it means, and then the text after it is expanded. -/
theorem Item.spellOut_written : ∀ (item : Item), item.WellFormed → ∀ rest : List Char,
    (item.isDirective = true → rest.head? ≠ some '{') → ∀ state,
    spellOut (item.written ++ rest) state = (item.meaning state).andThen (spellOut rest)
  | .character c, plain, rest, _, state => by
      rw [Item.written, Item.meaning]
      exact spellOut_cons plain rest state
  | .escape, _, rest, _, state => by
      rw [Item.written, Item.meaning]
      exact spellOut_escape rest state
  | .effect directive, isEffect, rest, ends, state => by
      rw [Item.written, Item.meaning,
        spellOut_directive isEffect.named isEffect.balanced (ends rfl)]
      exact isEffect.spelled_run rest state
  | .choice chooser short [], _, rest, ends, state => by
      rw [Item.written, Item.meaning, Template.writtenAll,
        spellOut_directive (chooser.named short) (by simp) (ends rfl), Directive.run,
        chooser.perform_nil short]
      rfl
  | .choice chooser short (first :: more), wellFormed, rest, ends, state => by
      have balanced := Template.balanced_of_mem_writtenAll wellFormed
      rw [Item.written, Item.meaning,
        spellOut_directive (chooser.named short) balanced (ends rfl), Directive.run,
        Template.writtenAll, chooser.perform_cons short, Template.length_writtenAll]
      cases selected : chooser.select (more.length + 1) state with
      | error failure => rfl
      | ok chosen =>
          obtain ⟨chosen, next⟩ := chosen
          have bound := Chooser.select_lt (Nat.succ_pos _) selected
          exact Template.spellOut_writtenAt (first :: more) wellFormed chosen bound rest (ends rfl)
            _ next

/-- A template shows what it means, and then the text after it is expanded. -/
theorem Template.spellOut_written : ∀ (template : List Item), Template.WellFormed template →
    ∀ rest : List Char, rest.head? ≠ some '{' → ∀ state,
    spellOut (Template.written template ++ rest) state =
      (Template.meaning template state).andThen (spellOut rest)
  | [], _, rest, _, state => rfl
  | item :: others, ⟨wellFormed, apart, later⟩, rest, ends, state => by
      rw [Template.written, Template.meaning, List.append_assoc, Rendering.andThen_assoc,
        Item.spellOut_written item wellFormed _
          fun isDirective => head?_append_ne (apart isDirective) ends]
      congr 1
      funext next
      exact Template.spellOut_written others later rest ends next

/-- The argument with a number shows what it means, and then the text after it is expanded. -/
theorem Template.spellOut_writtenAt : ∀ (arguments : List (List Item)),
    Template.AllWellFormed arguments → ∀ chosen, chosen < arguments.length →
    ∀ rest : List Char, rest.head? ≠ some '{' → ∀ other state,
    spellOut ((Template.writtenAll arguments)[chosen]?.getD other ++ rest) state =
      (Template.meaningAt chosen arguments state).andThen (spellOut rest)
  | [], _, _, bound, _, _, _, _ => absurd bound (Nat.not_lt_zero _)
  | template :: _, ⟨_, wellFormed, _⟩, 0, _, rest, ends, _, state =>
      Template.spellOut_written template wellFormed rest ends state
  | _ :: others, ⟨_, _, wellFormed⟩, chosen + 1, bound, rest, ends, other, state =>
      Template.spellOut_writtenAt others wellFormed chosen (Nat.lt_of_succ_lt_succ bound) rest ends
        other state

end

/-- What came of a rendering: its text and the state at the end, or its failure. -/
def Rendering.outcome (rendering : Rendering) : Except NoSuchArgument (List Char × RenderState) :=
  match rendering.failure? with
  | some failure => .error failure
  | none => .ok (rendering.text, rendering.final)

theorem Rendering.outcome_spelled (rendering : Rendering) :
    rendering.spelled.outcome = rendering.outcome := by
  unfold outcome
  rw [text_spelled]
  rfl

theorem spellOut_nil : spellOut [] = Rendering.blank := by
  funext state
  rw [spellOut, render_of_none rfl]
  rfl

end Narrative.Markup
