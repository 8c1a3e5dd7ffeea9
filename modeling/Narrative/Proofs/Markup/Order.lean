/-
Module: Narrative.Proofs.Markup.Order
Purpose: An expansion invents and repeats nothing. At every point of it, what is shown so far and the
  text that is left have been drawn from the text in their order: each of their characters is one of the
  text, and no character of the text is used twice.
Main exports: charactersOf, Directive.replacement_sublist, Expansion.turn_sublist,
  Expansion.Leads.sublist, Expansion.Ends.sublist, shown_sublist
-/
import Narrative.Proofs.Markup.InPlace

namespace Narrative.Markup

/-- The characters that fragments show. -/
def charactersOf (shown : List (Fragment × Style)) : List Char := shown.flatMap (·.1.characters)

@[simp] theorem charactersOf_append (first second : List (Fragment × Style)) :
    charactersOf (first ++ second) = charactersOf first ++ charactersOf second :=
  List.flatMap_append

@[simp] theorem charactersOf_shownText (text : List Char) (state : RenderState) :
    charactersOf (shownText text state) = text := by
  cases text with
  | nil => rfl
  | cons c rest => exact List.append_nil _

/-- Pauses show no characters. -/
@[simp] theorem charactersOf_effect (effect : Effect) (style : Style) :
    charactersOf (effect.shown style) = [] := by
  cases effect <;> rfl

theorem Rendering.text_after (rendering : Rendering) (shown : List (Fragment × Style)) :
    (rendering.after shown).text = charactersOf shown ++ rendering.text :=
  List.flatMap_append

/-! ### What a mark leaves is drawn from the mark -/

theorem argument_sublist {arguments : List (List Char)} {argument : List Char}
    (member : argument ∈ arguments) : argument.Sublist (arguments.flatMap braced) := by
  have inside : argument.Sublist (braced argument) :=
    (List.sublist_append_left argument ['}']).cons '{'
  exact inside.trans (List.sublist_flatten_of_mem (List.mem_map_of_mem member))

/-- A directive leaves an argument of its own in its place, or nothing. -/
theorem Directive.replacement_sublist {directive : Directive} {state next : RenderState}
    {effect : Effect} (done : directive.perform state = .ok (effect, next)) :
    effect.replacement.Sublist directive.written := by
  cases effect with
  | nothing | pause => exact List.nil_sublist _
  | text replacement =>
      have drawn := argument_sublist (Directive.mem_arguments_of_perform done)
      have arguments_sublist : (directive.arguments.flatMap braced).Sublist directive.written :=
        (List.sublist_append_of_sublist_right ((List.Sublist.refl _).cons ']')).cons '['
      exact drawn.trans arguments_sublist

namespace Expansion

variable {here there : Expansion} {mark : Mark} {found : Found} {effect : Effect} {state : RenderState}
  {shown : List (Fragment × Style)}

theorem Finds.replacement_sublist (finds : here.Finds mark found)
    (done : mark.perform here.state = .ok (effect, state)) :
    effect.replacement.Sublist found.written := by
  unfold Found.written
  cases named : found.directive? with
  | none =>
      rw [Mark.perform_of_none (finds.directive?.trans named)] at done
      cases done
      exact List.nil_sublist _
  | some directive =>
      rw [Mark.perform_of_some (finds.directive?.trans named)] at done
      exact Directive.replacement_sublist done

/-! ### Turns and runs -/

/-- What a turn shows, followed by what it leaves to be shown, is drawn from what was left before. -/
theorem turn_sublist (turned : here.turn? = some (shown, there)) :
    (charactersOf shown ++ there.rest).Sublist here.rest := by
  obtain ⟨mark, effect, state, next, done, rfl, rfl⟩ := turn?_eq_some_iff.1 turned
  obtain ⟨found, finds⟩ := finds_of_mark? next
  have drawn := finds.replacement_sublist done
  have parts : here.rest = found.before ++ (found.written ++ found.after) := by
    rw [find?_written finds.search, List.append_assoc]
  rw [parts, finds.rest_next, Expansion.shown, charactersOf_append, charactersOf_shownText,
    charactersOf_effect, List.append_nil, finds.before]
  exact (List.Sublist.refl _).append (drawn.append (List.Sublist.refl _))

/-- What some turns show, followed by what they leave to be shown, is drawn from what was left before
them. The induction is on the turns. -/
theorem Leads.sublist {turns : Nat} (leads : here.Leads turns shown there) :
    (charactersOf shown ++ there.rest).Sublist here.rest := by
  induction leads with
  | none => exact List.Sublist.refl _
  | turn first others ih =>
      rw [charactersOf_append, List.append_assoc]
      exact ((List.Sublist.refl _).append ih).trans (turn_sublist first)

/-- The last of an expansion shows a part of what was left, also where a directive fails. -/
theorem Ends.sublist {ending : Rendering} (ends : here.Ends ending) :
    ending.text.Sublist here.rest := by
  cases ends with
  | bare unmarked =>
      have whole : Rendering.text ⟨shownText here.rest here.state, here.state, none⟩ = here.rest :=
        charactersOf_shownText _ _
      exact whole.symm ▸ List.Sublist.refl _
  | @failed mark failure next fails =>
      obtain ⟨found, finds⟩ := finds_of_mark? next
      have shown : Rendering.text ⟨shownText (here.before mark) here.state, here.state, some failure⟩ =
          found.before := by
        rw [← finds.before]
        exact charactersOf_shownText _ _
      rw [shown, find?_written finds.search, List.append_assoc]
      exact List.sublist_append_left _ _

end Expansion

/-- Whatever the text, the state and the random numbers: at every point of an expansion the characters
shown so far, followed by the text that is left, are a subsequence of the text. So are all that the
rendering shows, whether it comes to its end or a directive fails. A text without an opening bracket is
shown as it is. -/
theorem shown_sublist (text : List Char) (state : RenderState) :
    (∀ turns shown there, (Expansion.start text state).Leads turns shown there →
      (charactersOf shown ++ there.rest).Sublist text) ∧
      (render text state).text.Sublist text ∧
      ('[' ∉ text → (render text state).text = text) := by
  refine ⟨fun turns shown there leads => leads.sublist, ?_, ?_⟩
  · obtain ⟨turns, shown, last, ending, leads, ends⟩ := (Expansion.start text state).exists_end
    have rendered : render text state = ending.after shown := by
      rw [← Expansion.render_of_ends ends]
      exact leads.render_eq
    rw [rendered, Rendering.text_after]
    exact ((List.Sublist.refl _).append ends.sublist).trans leads.sublist
  · intro unmarked
    have none : find? text = none := by
      cases found : find? text with
      | none => rfl
      | some mark =>
          have fewer := count_after_lt found
          rw [List.count_eq_zero_of_not_mem unmarked] at fewer
          exact absurd fewer (Nat.not_lt_zero _)
    rw [render_of_none none]
    exact charactersOf_shownText text state

/-- A text whose second directive fails, after an iteration below zero was set. -/
def cutShort : List Char := "a[p]\x7b-3\x7db[a]\x7bx\x7d\x7by\x7dc".toList

/-- After the first turn and where the rendering is cut short, what is shown is drawn from the text. -/
theorem shown_sublist_cutShort :
    (∃ shown there, (Expansion.start cutShort {}).Leads 1 shown there ∧
      charactersOf shown = ['a'] ∧ there.rest = "b[a]\x7bx\x7d\x7by\x7dc".toList ∧
      (charactersOf shown ++ there.rest).Sublist cutShort) ∧
    (render cutShort {}).failure?.isSome = true ∧ (render cutShort {}).text = ['a', 'b'] ∧
    (render cutShort {}).text.Sublist cutShort ∧
    '[' ∉ ['a', ']'] ∧ (render ['a', ']'] {}).text = ['a', ']'] := by
  obtain ⟨runs, whole, _⟩ := shown_sublist cutShort {}
  have turned : (Expansion.start cutShort {}).turn? =
      some ([(.text ['a'], {})],
        ⟨"ab[a]\x7bx\x7d\x7by\x7dc".toList, 1, { style := { iteration := -3 } }⟩) := by
    decide +kernel
  have leads := Expansion.Leads.turn turned (.none _)
  refine ⟨⟨_, _, leads, rfl, rfl, runs _ _ _ leads⟩, by decide +kernel, by decide +kernel, whole, ?_⟩
  have unmarked : '[' ∉ ['a', ']'] := by decide
  exact ⟨unmarked, (shown_sublist ['a', ']'] {}).2.2 unmarked⟩

end Narrative.Markup
