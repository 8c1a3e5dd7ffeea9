/-
Module: Narrative.Proofs.Markup.Scan
Purpose: The search for the next mark, character by character. A scan gathers the name and the
  arguments of a directive as it meets their characters, counts the braces that are open, and keeps the
  length up to the last brace that closed an argument. It finds the mark that the search by parts finds.
Main exports: Shape, shape_find?, Scan, Scan.read, Scan.run, Scan.run_inArgument, Scan.run_named,
  Scan.run_searching, scan_eq
-/
import Narrative.Proofs.Markup.InPlace

namespace Narrative.Markup

/-! ### The shapes of a text -/

/-- What can be found in a text, by its shape: whether a bracket opens in it, and which bracket comes
next. -/
inductive Shape : List Char → Option Found → Prop
  | plain {text : List Char} (unopened : ∀ c ∈ text, c ≠ '[') : Shape text none
  | unclosed {before name : List Char} (unopened : ∀ c ∈ before, c ≠ '[')
      (named : ∀ c ∈ name, isBracket c = false) : Shape (before ++ '[' :: name) none
  | escape {before name rest : List Char} (unopened : ∀ c ∈ before, c ≠ '[')
      (named : ∀ c ∈ name, isBracket c = false) :
      Shape (before ++ '[' :: (name ++ '[' :: rest)) (some ⟨before ++ '[' :: name, none, rest⟩)
  | directive {before name rest : List Char} (unopened : ∀ c ∈ before, c ≠ '[')
      (named : ∀ c ∈ name, isBracket c = false) :
      Shape (before ++ '[' :: (name ++ ']' :: rest))
        (some ⟨before, some ⟨name, (arguments rest).1⟩, (arguments rest).2⟩)

/-- Cuts a text where a test first holds. -/
theorem exists_cut (test : Char → Bool) (text : List Char) :
    (∀ c ∈ text, test c = false) ∨
      ∃ before c after, text = before ++ c :: after ∧ (∀ b ∈ before, test b = false) ∧
        test c = true := by
  cases first : text.find? test with
  | none =>
      left
      simpa using List.find?_eq_none.1 first
  | some c =>
      obtain ⟨passes, before, after, parts, skipped⟩ := List.find?_eq_some_iff_append.1 first
      exact .inr ⟨before, c, after, parts, by simpa using skipped, passes⟩

/-- Every text has a shape, and what is found in it is what its shape says. -/
theorem shape_find? (text : List Char) : Shape text (find? text) := by
  obtain unopened | ⟨before, c, inner, rfl, unopened, opens⟩ := exists_cut (· == '[') text
  · have unopened : ∀ c ∈ text, c ≠ '[' := by simpa using unopened
    have none : find? text = none := by simpa [find?] using find?_append unopened []
    rw [none]
    exact .plain unopened
  have opens : c = '[' := by simpa using opens
  have unopened : ∀ c ∈ before, c ≠ '[' := by simpa using unopened
  rw [opens, find?_append unopened]
  obtain named | ⟨name, bracket, rest, rfl, named, closes⟩ := exists_cut isBracket inner
  · rw [find?_unclosed named]
    exact .unclosed unopened named
  obtain rfl | rfl : bracket = '[' ∨ bracket = ']' := by simpa [isBracket] using closes
  · rw [find?_second named]
    exact .escape unopened named
  · rw [find?_named named]
    simpa using Shape.directive unopened named

/-! ### Scans -/

/-- Where a scan stands: before the first bracket, in a name, after the name or an argument, in an
argument, or at its end. It knows where the directive begins and, from the end of the name on, the length
and the directive so far; in an argument it counts the open braces. -/
inductive Scan where
  | searching
  | naming (index : Nat) (text : List Char)
  | named (index length : Nat) (directive : Directive)
  | inArgument (index length : Nat) (directive : Directive) (depth : Nat) (text : List Char)
  | ended (mark : Mark)
deriving Repr, DecidableEq

/-- The directive with more arguments. -/
def Directive.adding (directive : Directive) (more : List (List Char)) : Directive :=
  { directive with arguments := directive.arguments ++ more }

namespace Scan

/-- Reads the character at a position. -/
def read (position : Nat) (c : Char) : Scan → Scan
  | .searching => if c = '[' then .naming position [] else .searching
  | .naming index text =>
    if c = ']' then .named index (position + 1 - index) ⟨text, []⟩
    else if c = '[' then .ended ⟨position, 1, none⟩
    else .naming index (text ++ [c])
  | .named index length directive =>
    if c = '{' then .inArgument index length directive 1 []
    else .ended ⟨index, length, some directive⟩
  | .inArgument index length directive depth text =>
    if c = '{' then .inArgument index length directive (depth + 1) (text ++ [c])
    else if c = '}' then
      if depth = 1 then .named index (position + 1 - index) (directive.adding [text])
      else .inArgument index length directive (depth - 1) (text ++ [c])
    else .inArgument index length directive depth (text ++ [c])
  | .ended mark => .ended mark

/-- The mark that has been found when the text ends. An argument that is not closed is none. -/
def mark? : Scan → Option Mark
  | .searching | .naming .. => none
  | .named index length directive | .inArgument index length directive .. =>
    some ⟨index, length, some directive⟩
  | .ended mark => some mark

/-- Reads the characters that stand from a position on. -/
def run : Scan → Nat → List Char → Option Mark
  | scan, _, [] => scan.mark?
  | scan, position, c :: rest => run (scan.read position c) (position + 1) rest

/-- After its end a scan reads on without effect. -/
theorem run_ended (mark : Mark) (position : Nat) (text : List Char) :
    run (.ended mark) position text = some mark := by
  induction text generalizing position with
  | nil => rfl
  | cons c rest ih => exact ih (position + 1)

theorem run_searching_append {before : List Char} (unopened : ∀ c ∈ before, c ≠ '[') (position : Nat)
    (rest : List Char) :
    run .searching position (before ++ rest) = run .searching (position + before.length) rest := by
  induction before generalizing position with
  | nil => rfl
  | cons c before ih =>
      obtain ⟨plain, others⟩ := List.forall_mem_cons.1 unopened
      rw [List.cons_append, run, read, if_neg plain, ih others, List.length_cons, Nat.add_assoc,
        Nat.add_comm 1]

theorem run_naming_append {name : List Char} (named : ∀ c ∈ name, isBracket c = false)
    (index position : Nat) (gathered rest : List Char) :
    run (.naming index gathered) position (name ++ rest) =
      run (.naming index (gathered ++ name)) (position + name.length) rest := by
  induction name generalizing position gathered with
  | nil => simp
  | cons c name ih =>
      obtain ⟨plain, others⟩ := List.forall_mem_cons.1 named
      have plain : c ≠ '[' ∧ c ≠ ']' := by simpa [isBracket] using plain
      rw [List.cons_append, run, read, if_neg plain.2, if_neg plain.1, ih others, List.length_cons,
        Nat.add_assoc, Nat.add_comm 1, List.append_assoc, List.singleton_append]

/-- An argument is read up to the brace that closes it, and from there on the directive has it; one that
is never closed adds nothing. The induction is on the text, with the number of open braces. -/
theorem run_inArgument (index length : Nat) (directive : Directive) (depth position : Nat)
    (gathered text : List Char) :
    run (.inArgument index length directive (depth + 1) gathered) position text =
      (argument? depth text).elim (some ⟨index, length, some directive⟩) fun (argument, after) =>
        run (.named index (position + argument.length + 1 - index)
          (directive.adding [gathered ++ argument])) (position + argument.length + 1) after := by
  induction text generalizing depth position gathered with
  | nil => rfl
  | cons c rest ih =>
      have further (inner : List Char) :
          position + 1 + inner.length = position + (c :: inner).length := by
        rw [List.length_cons]
        omega
      have gather (inner : List Char) : gathered ++ [c] ++ inner = gathered ++ c :: inner := by simp
      rw [run, read, argument?.eq_def]
      simp only
      split
      next => simp only [ih, Option.elim_map, Function.comp_def, further, gather]
      next =>
        split
        next =>
          cases depth with
          | zero => simp
          | succ depth =>
              have inside : depth + 1 + 1 ≠ 1 := by omega
              simp only [if_neg inside, Nat.add_sub_cancel, ih, Option.elim_map, Function.comp_def,
                further, gather]
        next => simp only [ih, Option.elim_map, Function.comp_def, further, gather]

/-- From the end of a name on, the arguments that follow one another directly are read, and the length
grows with them. -/
theorem run_named (index length : Nat) (directive : Directive) (text : List Char) :
    run (.named index length directive) (index + length) text =
      some ⟨index, length + ((arguments text).1.flatMap braced).length,
        some (directive.adding (arguments text).1)⟩ := by
  fun_induction arguments text generalizing length directive with
  | case1 => simp [run, mark?, Directive.adding]
  | case2 rest argument after found _ others ih =>
      have reached : index + length + 1 + argument.length + 1 =
          index + (length + argument.length + 2) := by omega
      rw [run, read, if_pos rfl, run_inArgument, found]
      simp only [Option.elim_some, reached, Nat.add_sub_cancel_left, ih]
      simp [Directive.adding, braced, others]
      omega
  | case3 rest unclosed =>
      rw [run, read, if_pos rfl, run_inArgument, unclosed]
      simp [Directive.adding]
  | case4 c rest other =>
      rw [run, read, if_neg other, run_ended]
      simp [Directive.adding]

/-- A scan from a position on finds the next mark of the text. -/
theorem run_searching (position : Nat) (text : List Char) :
    run .searching position text = (find? text).map (·.mark position) := by
  obtain ⟨found, shown, shape⟩ : ∃ found, find? text = found ∧ Shape text found :=
    ⟨_, rfl, shape_find? text⟩
  rw [shown]
  cases shape with
  | plain unopened =>
      have searched := run_searching_append unopened position []
      rw [List.append_nil] at searched
      exact searched
  | @unclosed before name unopened named =>
      have gathered := run_naming_append named (position + before.length) (position + before.length + 1)
        [] []
      rw [List.append_nil] at gathered
      rw [run_searching_append unopened, run, read, if_pos rfl, gathered]
      rfl
  | escape unopened named =>
      rw [run_searching_append unopened, run, read, if_pos rfl, run_naming_append named, run, read,
        if_neg (by decide), if_pos rfl, run_ended]
      simp [Found.mark, Found.written]
      omega
  | @directive before name rest unopened named =>
      rw [run_searching_append unopened, run, read, if_pos rfl, run_naming_append named, run, read,
        if_pos rfl]
      have reached : position + before.length + 1 + name.length + 1 =
          position + before.length + (name.length + 2) := by omega
      rw [reached, Nat.add_sub_cancel_left, run_named]
      simp [Found.mark, Found.written, Directive.written, Directive.adding]
      omega

end Scan

/-- A scan of a text from a position on finds what the search for the next mark finds. -/
theorem scan_eq (text : List Char) (position : Nat) :
    Scan.searching.run position (text.drop position) = markFrom? text position :=
  Scan.run_searching position (text.drop position)

end Narrative.Markup
