/-
Module: Narrative.Proofs.Markup.InPlace
Purpose: The expansion of a text in place. Each turn looks for the next mark from a position on, puts
  what the mark leaves in its place, and goes on from there. It comes to its end, with no more turns than
  the text has opening brackets, and shows what the rendering of the text shows.
Main exports: Mark, markFrom?, Expansion, Expansion.turn?, Expansion.Leads, Expansion.Finds,
  Expansion.render_of_turn?, Expansion.Leads.turns_add_le, Expansion.exists_end, expansion_ends
-/
import Narrative.Proofs.Markup.Completion

namespace Narrative.Markup

/-! ### Marks in their text -/

/-- A mark where it stands in a text: the position of its first character, how many characters it has,
and its directive. The second of two opening brackets has none. -/
structure Mark where
  index : Nat
  length : Nat
  directive? : Option Directive
deriving Repr, DecidableEq

/-- The mark that was found from a position on. -/
def Found.mark (position : Nat) (found : Found) : Mark :=
  ⟨position + found.before.length, found.written.length, found.directive?⟩

/-- The next mark of a text, at a position or after it. -/
def markFrom? (text : List Char) (position : Nat) : Option Mark :=
  (find? (text.drop position)).map (·.mark position)

namespace Mark

/-- The characters of the mark. -/
def written (mark : Mark) (text : List Char) : List Char :=
  (text.drop mark.index).take mark.length

/-- The text with other characters in the place of the mark. -/
def replacedBy (mark : Mark) (text replacement : List Char) : List Char :=
  text.take mark.index ++ replacement ++ text.drop (mark.index + mark.length)

/-- Carries out the directive of the mark. A bracket without one leaves nothing in its place. -/
def perform (mark : Mark) (state : RenderState) : Except NoSuchArgument (Effect × RenderState) :=
  match mark.directive? with
  | none => .ok (.nothing, state)
  | some directive => directive.perform state

theorem perform_of_none {mark : Mark} (bracket : mark.directive? = none) (state : RenderState) :
    mark.perform state = .ok (.nothing, state) := by
  rw [perform, bracket]

theorem perform_of_some {mark : Mark} {directive : Directive} (named : mark.directive? = some directive)
    (state : RenderState) : mark.perform state = directive.perform state := by
  rw [perform, named]

end Mark

/-! ### Turns -/

/-- How far an expansion has come: the text as it stands now, the position up to which it is shown, and
the state. -/
structure Expansion where
  text : List Char
  position : Nat
  state : RenderState
deriving Repr, DecidableEq

namespace Expansion

/-- An expansion at its beginning. -/
def start (text : List Char) (state : RenderState) : Expansion := ⟨text, 0, state⟩

/-- What is not yet shown. -/
def rest (here : Expansion) : List Char := here.text.drop here.position

/-- The mark that comes next. -/
def mark? (here : Expansion) : Option Mark := markFrom? here.text here.position

/-- The expansion after a mark has left something in its place. -/
def next (here : Expansion) (mark : Mark) (effect : Effect) (state : RenderState) : Expansion :=
  ⟨mark.replacedBy here.text effect.replacement, mark.index, state⟩

/-- The text before a mark that is not yet shown. -/
def before (here : Expansion) (mark : Mark) : List Char :=
  (here.text.take mark.index).drop here.position

/-- What is shown up to a mark, and by the mark itself. -/
def shown (here : Expansion) (mark : Mark) (effect : Effect) (state : RenderState) :
    List (Fragment × Style) :=
  shownText (here.before mark) here.state ++ effect.shown state.style

/-- One turn: what it shows, and how far the expansion has come then. There is none where no mark is
left, or where the directive of the mark fails. -/
def turn? (here : Expansion) : Option (List (Fragment × Style) × Expansion) := do
  let mark ← here.mark?
  let (effect, state) ← (mark.perform here.state).toOption
  return (here.shown mark effect state, here.next mark effect state)

/-- So many turns lead from one expansion to another, and show something. -/
inductive Leads : Expansion → Nat → List (Fragment × Style) → Expansion → Prop
  | none (here : Expansion) : Leads here 0 [] here
  | turn {here there last : Expansion} {shown more : List (Fragment × Style)} {turns : Nat}
      (first : here.turn? = some (shown, there)) (others : Leads there turns more last) :
      Leads here (turns + 1) (shown ++ more) last

/-- The last of an expansion: the rest of a text without a mark is shown, or a directive fails after what
stands before it. -/
inductive Ends : Expansion → Rendering → Prop
  | bare {here : Expansion} (unmarked : here.mark? = none) :
      Ends here ⟨shownText here.rest here.state, here.state, none⟩
  | failed {here : Expansion} {mark : Mark} {failure : NoSuchArgument} (next : here.mark? = some mark)
      (fails : mark.perform here.state = .error failure) :
      Ends here ⟨shownText (here.before mark) here.state, here.state, some failure⟩

theorem turn?_eq_some_iff {here there : Expansion} {shown : List (Fragment × Style)} :
    here.turn? = some (shown, there) ↔
      ∃ mark effect state, here.mark? = some mark ∧ mark.perform here.state = .ok (effect, state) ∧
        shown = here.shown mark effect state ∧ there = here.next mark effect state := by
  unfold turn?
  cases here.mark? with
  | none => simp
  | some mark =>
      cases performed : mark.perform here.state with
      | error failure => simp [performed, Except.toOption]
      | ok result =>
          obtain ⟨effect, state⟩ := result
          simp only [Option.bind_eq_bind, Option.bind_some, performed, Except.toOption, Option.pure_def,
            Option.some.injEq, Prod.mk.injEq]
          constructor
          · rintro ⟨rfl, rfl⟩
            exact ⟨mark, effect, state, rfl, performed, rfl, rfl⟩
          · rintro ⟨_, _, _, rfl, done, rfl, rfl⟩
            cases performed.symm.trans done
            exact ⟨rfl, rfl⟩

/-- The mark is what is found in the rest of the text: these are its characters, what stands before it is
shown, and what stands after it stays. -/
structure Finds (here : Expansion) (mark : Mark) (found : Found) : Prop where
  search : find? here.rest = some found
  directive? : mark.directive? = found.directive?
  position_le : here.position ≤ mark.index
  inside : mark.index + mark.length ≤ here.text.length
  length : mark.length = found.written.length
  written : mark.written here.text = found.written
  before : here.before mark = found.before
  after : here.text.drop (mark.index + mark.length) = found.after

theorem finds_of_mark? {here : Expansion} {mark : Mark} (next : here.mark? = some mark) :
    ∃ found, here.Finds mark found := by
  obtain ⟨found, search, rfl⟩ := Option.map_eq_some_iff.1 next
  obtain ⟨text, position, state⟩ := here
  have parts : text.drop position = found.before ++ found.written ++ found.after := find?_written search
  have within : position ≤ text.length := by
    by_contra beyond
    have searched : find? (text.drop position) = some found := search
    rw [List.drop_of_length_le (Nat.le_of_not_le beyond)] at searched
    cases searched
  obtain ⟨left, rfl, rfl⟩ : ∃ left, left.length = position ∧
      text = left ++ (found.before ++ (found.written ++ found.after)) := by
    refine ⟨text.take position, List.length_take_of_le within, ?_⟩
    rw [← List.append_assoc found.before, ← parts, List.take_append_drop]
  refine ⟨found, search, rfl, Nat.le_add_right _ _, ?_, rfl, ?_, ?_, ?_⟩
  · simp [Found.mark]
    omega
  · simp [Mark.written, Found.mark]
  · simp [before, Found.mark, List.take_append]
  · simp [Found.mark, Nat.add_assoc]

end Expansion

/-! ### What a turn leaves -/

/-- An argument is shorter than all the arguments as they are written. -/
theorem length_lt_of_mem_arguments {arguments : List (List Char)} {argument : List Char}
    (member : argument ∈ arguments) : argument.length < (arguments.flatMap braced).length := by
  obtain ⟨before, after, rfl⟩ := List.append_of_mem member
  simp only [List.flatMap_append, List.flatMap_cons, List.length_append, braced, List.length_cons]
  omega

/-- What a directive leaves in its place is shorter than it, and has fewer opening brackets. -/
theorem Directive.replacement_lt {directive : Directive} {state next : RenderState} {effect : Effect}
    (done : directive.perform state = .ok (effect, next)) :
    effect.replacement.length < directive.written.length ∧
      effect.replacement.count '[' < directive.written.count '[' := by
  simp only [written, List.cons_append, List.length_cons, List.length_append, List.count_cons_self,
    List.count_append]
  cases effect with
  | nothing | pause =>
      simp only [Effect.replacement, List.length_nil, List.count_nil]
      omega
  | text replacement =>
      have member := Directive.mem_arguments_of_perform done
      have shorter := length_lt_of_mem_arguments member
      have fewer := count_le_of_mem_arguments member
      simp only [Effect.replacement, List.count_cons_of_ne (by decide : (']' : Char) ≠ '[')]
      omega

namespace Expansion

variable {here there : Expansion} {mark : Mark} {found : Found} {effect : Effect} {state : RenderState}
  {shown : List (Fragment × Style)}

/-- What a mark leaves in its place is shorter than it, and has fewer opening brackets. -/
theorem Finds.replacement_lt (finds : here.Finds mark found)
    (done : mark.perform here.state = .ok (effect, state)) :
    effect.replacement.length < found.written.length ∧
      effect.replacement.count '[' < found.written.count '[' := by
  unfold Found.written
  cases named : found.directive? with
  | none =>
      rw [Mark.perform_of_none (finds.directive?.trans named)] at done
      cases done
      exact ⟨Nat.zero_lt_one, Nat.zero_lt_one⟩
  | some directive =>
      rw [Mark.perform_of_some (finds.directive?.trans named)] at done
      exact Directive.replacement_lt done

theorem Finds.length_take (finds : here.Finds mark found) :
    (here.text.take mark.index).length = mark.index :=
  List.length_take_of_le (Nat.le_trans (Nat.le_add_right _ _) finds.inside)

/-- What a mark leaves in its place is looked at next. -/
theorem Finds.rest_next (finds : here.Finds mark found) (effect : Effect) (state : RenderState) :
    (here.next mark effect state).rest = effect.replacement ++ found.after := by
  rw [rest, next, Mark.replacedBy, List.append_assoc, List.drop_left' finds.length_take, finds.after]

theorem Finds.position_next_le (finds : here.Finds mark found) (effect : Effect) (state : RenderState) :
    (here.next mark effect state).position ≤ (here.next mark effect state).text.length := by
  simp only [next, Mark.replacedBy, List.length_append, finds.length_take]
  omega

/-- With each turn there are fewer opening brackets in the rest of the text. -/
theorem Finds.count_rest_next_lt (finds : here.Finds mark found)
    (done : mark.perform here.state = .ok (effect, state)) :
    (here.next mark effect state).rest.count '[' < here.rest.count '[' := by
  have fewer := (finds.replacement_lt done).2
  rw [finds.rest_next, find?_written finds.search]
  simp only [List.count_append]
  omega

/-- The rendering of the rest of a text shows what the turn shows, and then goes on with the rest of the
text that the turn leaves. -/
theorem render_of_turn? (turned : here.turn? = some (shown, there)) :
    render here.rest here.state = (render there.rest there.state).after shown := by
  obtain ⟨mark, effect, state, next, done, rfl, rfl⟩ := turn?_eq_some_iff.1 turned
  obtain ⟨⟨before, directive?, after⟩, finds⟩ := finds_of_mark? next
  have search := finds.search
  rw [finds.rest_next, Expansion.shown, finds.before]
  cases directive? with
  | none =>
      rw [Mark.perform_of_none finds.directive?] at done
      cases done
      rw [render_of_escape search, Effect.shown, List.append_nil]
      rfl
  | some directive =>
      rw [Mark.perform_of_some finds.directive?] at done
      rw [render_of_directive search, Directive.run_of_ok done, Rendering.after_after]
      rfl

theorem exists_ends (stands : here.turn? = none) : ∃ ending, here.Ends ending := by
  cases next : here.mark? with
  | none => exact ⟨_, .bare next⟩
  | some mark =>
      cases done : mark.perform here.state with
      | error failure => exact ⟨_, .failed next done⟩
      | ok result =>
          have turned := turn?_eq_some_iff.2 ⟨mark, result.1, result.2, next, done, rfl, rfl⟩
          rw [stands] at turned
          cases turned

theorem render_of_ends {ending : Rendering} (ends : here.Ends ending) :
    render here.rest here.state = ending := by
  cases ends with
  | bare unmarked => exact render_of_none (Option.map_eq_none_iff.1 unmarked) _
  | failed next fails =>
      obtain ⟨⟨before, directive?, after⟩, finds⟩ := finds_of_mark? next
      cases directive? with
      | none =>
          rw [Mark.perform_of_none finds.directive?] at fails
          cases fails
      | some directive =>
          rw [Mark.perform_of_some finds.directive?] at fails
          rw [render_of_directive finds.search, finds.before, Directive.run, fails]
          simp [Rendering.after]

/-! ### Runs -/

/-- Each turn takes at least one opening bracket from the rest of the text. -/
theorem Leads.turns_add_le {turns : Nat} (leads : here.Leads turns shown there) :
    turns + there.rest.count '[' ≤ here.rest.count '[' := by
  induction leads with
  | none => exact Nat.le_of_eq (Nat.zero_add _)
  | turn first others ih =>
      obtain ⟨mark, effect, state, next, done, rfl, rfl⟩ := turn?_eq_some_iff.1 first
      obtain ⟨found, finds⟩ := finds_of_mark? next
      have fewer := finds.count_rest_next_lt done
      omega

theorem Leads.position_le {turns : Nat} (leads : here.Leads turns shown there)
    (within : here.position ≤ here.text.length) : there.position ≤ there.text.length := by
  induction leads with
  | none => exact within
  | turn first others ih =>
      obtain ⟨mark, effect, state, next, done, rfl, rfl⟩ := turn?_eq_some_iff.1 first
      obtain ⟨found, finds⟩ := finds_of_mark? next
      exact ih (finds.position_next_le effect state)

theorem Leads.render_eq {turns : Nat} (leads : here.Leads turns shown there) :
    render here.rest here.state = (render there.rest there.state).after shown := by
  induction leads with
  | none => rfl
  | turn first others ih => rw [render_of_turn? first, ih, Rendering.after_after]

/-- Every expansion comes to its end. The induction is on the opening brackets in the rest of the text. -/
theorem exists_end (here : Expansion) :
    ∃ turns shown last ending, here.Leads turns shown last ∧ last.Ends ending := by
  induction brackets : here.rest.count '[' using Nat.strong_induction_on generalizing here with
  | _ brackets ih =>
      cases turned : here.turn? with
      | none =>
          obtain ⟨ending, ends⟩ := exists_ends turned
          exact ⟨0, [], here, ending, .none here, ends⟩
      | some result =>
          obtain ⟨shown, there⟩ := result
          obtain ⟨mark, effect, state, next, done, _, rfl⟩ := turn?_eq_some_iff.1 turned
          obtain ⟨found, finds⟩ := finds_of_mark? next
          have fewer := finds.count_rest_next_lt done
          obtain ⟨turns, more, last, ending, leads, ends⟩ := ih _ (brackets ▸ fewer) _ rfl
          exact ⟨_, _, last, ending, .turn turned leads, ends⟩

/-- A mark has an opening bracket of its own. -/
theorem count_rest_pos_of_mark? (next : here.mark? = some mark) : 0 < here.rest.count '[' := by
  obtain ⟨found, finds⟩ := finds_of_mark? next
  exact Nat.zero_lt_of_lt (count_after_lt finds.search)

end Expansion

/-- The expansion of a text in place ends. A mark that is found from a position on lies inside the text, at
the position or after it, and what it leaves in its place is shorter than it and has fewer opening
brackets. Hence the position is always inside the text as it stands, and there are no more turns than the
text has opening brackets, those included whose directive fails. The end is reached, and what is shown
until then and there is the rendering of the text. -/
theorem expansion_ends (text : List Char) (state : RenderState) :
    (∀ (here : Expansion) mark, here.mark? = some mark →
      here.position ≤ mark.index ∧ mark.index + mark.length ≤ here.text.length ∧
        ∀ effect next, mark.perform here.state = .ok (effect, next) →
          effect.replacement.length < mark.length ∧
            effect.replacement.count '[' < (mark.written here.text).count '[') ∧
      (∀ turns shown there, (Expansion.start text state).Leads turns shown there →
        there.position ≤ there.text.length ∧ turns ≤ text.count '[' ∧
          (there.mark?.isSome = true → turns < text.count '[')) ∧
      ∃ turns shown last ending, (Expansion.start text state).Leads turns shown last ∧
        last.Ends ending ∧ render text state = ending.after shown := by
  refine ⟨?_, ?_, ?_⟩
  · intro here mark next
    obtain ⟨found, finds⟩ := Expansion.finds_of_mark? next
    refine ⟨finds.position_le, finds.inside, ?_⟩
    intro effect next done
    rw [finds.length, finds.written]
    exact finds.replacement_lt done
  · intro turns shown there leads
    have bound : turns + there.rest.count '[' ≤ text.count '[' := leads.turns_add_le
    refine ⟨leads.position_le (Nat.zero_le _), Nat.le_of_add_right_le bound, ?_⟩
    intro marked
    obtain ⟨mark, next⟩ := Option.isSome_iff_exists.1 marked
    have left := Expansion.count_rest_pos_of_mark? next
    omega
  · obtain ⟨turns, shown, last, ending, leads, ends⟩ := (Expansion.start text state).exists_end
    refine ⟨turns, shown, last, ending, leads, ends, ?_⟩
    rw [← Expansion.render_of_ends ends]
    exact leads.render_eq

/-- A choice that leaves another in its place, an argument that is never closed, and a doubled bracket. -/
def nested : List Char := "[r]\x7b[c]\x7bx\x7d\x7d\x7b[[".toList

/-- The outer choice leaves the inner one, which is shorter, and the expansion ends after at most four
turns. -/
theorem expansion_ends_nested :
    (∃ mark effect next, (Expansion.start nested {}).mark? = some mark ∧
      mark.perform {} = .ok (effect, next) ∧ effect.replacement = "[c]\x7bx\x7d".toList ∧
      effect.replacement.length < mark.length ∧
      effect.replacement.count '[' < (mark.written nested).count '[') ∧
    ∃ turns shown last ending, (Expansion.start nested {}).Leads turns shown last ∧
      last.Ends ending ∧ turns ≤ 4 := by
  obtain ⟨marks, runs, turns, shown, last, ending, leads, ends, _⟩ := expansion_ends nested {}
  have next : (Expansion.start nested {}).mark? =
      some ⟨0, 11, some ⟨['r'], ["[c]\x7bx\x7d".toList]⟩⟩ := by decide +kernel
  have done : Mark.perform ⟨0, 11, some ⟨['r'], ["[c]\x7bx\x7d".toList]⟩⟩ {} =
      .ok (.text "[c]\x7bx\x7d".toList, {}) := by decide +kernel
  obtain ⟨_, _, leaves⟩ := marks _ _ next
  exact ⟨⟨_, _, _, next, done, rfl, leaves _ _ done⟩, turns, shown, last, ending, leads, ends,
    (runs _ _ _ leads).2.1⟩

end Narrative.Markup
