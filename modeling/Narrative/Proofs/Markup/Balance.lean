/-
Module: Narrative.Proofs.Markup.Balance
Purpose: Text with balanced braces, and the marks of a text: a directive with balanced arguments and
  a doubled bracket are found as they are written, whatever follows them.
Main exports: Balanced, Closes, argument?_eq_some_iff, arguments_append, arguments_written,
  balanced_of_mem_arguments, arguments_fst_eq_nil_iff, find?_append, find?_escape, find?_unclosed,
  find?_second, find?_named, find?_directive
-/
import Mathlib.Data.List.TakeWhile
import Narrative.Markup.Directive

namespace Narrative.Markup

/-- Text in which every closing brace has an opening one before it and every opening brace is
closed. -/
structure Balanced (text : List Char) : Prop where
  opened : ∀ n ≤ text.length, (text.take n).count '}' ≤ (text.take n).count '{'
  closed : text.count '}' = text.count '{'

instance (text : List Char) : Decidable (Balanced text) :=
  decidable_of_iff
    ((∀ n ≤ text.length, (text.take n).count '}' ≤ (text.take n).count '{') ∧
      text.count '}' = text.count '{')
    ⟨fun ⟨opened, closed⟩ => ⟨opened, closed⟩, fun balanced => ⟨balanced.opened, balanced.closed⟩⟩

/-- Text without braces is balanced. -/
theorem balanced_of_unbraced {text : List Char} (unbraced : ∀ c ∈ text, c ≠ '{' ∧ c ≠ '}') :
    Balanced text where
  opened n _ := by
    have absent : '}' ∉ text.take n := fun member => (unbraced _ (List.mem_of_mem_take member)).2 rfl
    rw [List.count_eq_zero_of_not_mem absent]
    exact Nat.zero_le _
  closed := by
    rw [List.count_eq_zero_of_not_mem fun member => (unbraced _ member).1 rfl,
      List.count_eq_zero_of_not_mem fun member => (unbraced _ member).2 rfl]

/-- Text that closes the braces that are open before it, as many as the depth says, and no more. -/
structure Closes (depth : Nat) (text : List Char) : Prop where
  opened : ∀ n ≤ text.length, (text.take n).count '}' ≤ (text.take n).count '{' + depth
  closed : text.count '}' = text.count '{' + depth

theorem closes_zero_iff {text : List Char} : Closes 0 text ↔ Balanced text :=
  ⟨fun ⟨opened, closed⟩ => ⟨opened, closed⟩, fun ⟨opened, closed⟩ => ⟨opened, closed⟩⟩

/-- After a character the text closes as many braces as are open then. -/
theorem closes_cons_iff {c : Char} {text : List Char} {depth inner : Nat}
    (step : [c].count '}' + inner = [c].count '{' + depth) :
    Closes depth (c :: text) ↔ Closes inner text := by
  simp only [List.count_cons, List.count_nil, Nat.zero_add] at step
  constructor
  · rintro ⟨opened, closed⟩
    constructor
    · intro n bound
      have := opened (n + 1) (Nat.succ_le_succ bound)
      simp only [List.take_succ_cons, List.count_cons] at this
      omega
    · simp only [List.count_cons] at closed
      omega
  · rintro ⟨opened, closed⟩
    constructor
    · rintro (_ | n) bound
      · exact Nat.zero_le _
      · have := opened n (Nat.le_of_succ_le_succ bound)
        simp only [List.take_succ_cons, List.count_cons]
        omega
    · simp only [List.count_cons]
      omega

theorem not_closes_zero_cons (text : List Char) : ¬ Closes 0 ('}' :: text) := by
  rintro ⟨opened, _⟩
  have first := opened 1 (Nat.succ_le_succ (Nat.zero_le _))
  simp at first

/-- What closes the braces that are open before it is read up to the next closing brace. The induction
is on the text, with the number of open braces. -/
theorem argument?_of_closes {depth : Nat} {text : List Char} (rest : List Char)
    (closes : Closes depth text) : argument? depth (text ++ '}' :: rest) = some (text, rest) := by
  induction text generalizing depth with
  | nil =>
      have outside : depth = 0 := by simpa using closes.closed.symm
      rw [outside]
      rfl
  | cons c text ih =>
      rw [List.cons_append, argument?.eq_def]
      simp only
      split
      next opening =>
        rw [ih ((closes_cons_iff (by simp [opening]; omega)).1 closes)]
        rfl
      next other =>
        split
        next closing =>
          subst closing
          cases depth with
          | zero => exact absurd closes (not_closes_zero_cons text)
          | succ depth =>
              have inner : Closes depth text := (closes_cons_iff (by simp; omega)).1 closes
              simp only [ih inner]
              rfl
        next plain =>
          rw [ih ((closes_cons_iff (by simp [other, plain])).1 closes)]
          rfl

/-- A balanced argument is read up to the brace that closes it. -/
theorem argument?_of_balanced {text : List Char} (balanced : Balanced text) (rest : List Char) :
    argument? 0 (text ++ '}' :: rest) = some (text, rest) :=
  argument?_of_closes rest (closes_zero_iff.2 balanced)

/-- What is read up to a closing brace closes the braces that are open before it, and no more. The
induction is on the text, with the number of open braces. -/
theorem closes_of_argument? {depth : Nat} {text argument after : List Char}
    (read : argument? depth text = some (argument, after)) : Closes depth argument := by
  induction text generalizing depth argument with
  | nil => cases read
  | cons c text ih =>
      rw [argument?.eq_def] at read
      simp only at read
      split at read
      next opening =>
        obtain ⟨_, inside, same⟩ := Option.map_eq_some_iff.1 read
        cases same
        exact (closes_cons_iff (by simp [opening]; omega)).2 (ih inside)
      next other =>
        split at read
        next closing =>
          cases depth with
          | zero =>
              cases read
              exact closes_zero_iff.2 (by decide)
          | succ depth =>
              obtain ⟨_, inside, same⟩ := Option.map_eq_some_iff.1 read
              cases same
              exact (closes_cons_iff (by simp [closing]; omega)).2 (ih inside)
        next plain =>
          obtain ⟨_, inside, same⟩ := Option.map_eq_some_iff.1 read
          cases same
          exact (closes_cons_iff (by simp [other, plain])).2 (ih inside)

/-- An argument is what stands before the brace that closes it, and balanced. -/
theorem argument?_eq_some_iff {text argument after : List Char} :
    argument? 0 text = some (argument, after) ↔
      Balanced argument ∧ text = argument ++ '}' :: after := by
  constructor
  · intro read
    exact ⟨closes_zero_iff.1 (closes_of_argument? read), argument?_eq read⟩
  · rintro ⟨balanced, rfl⟩
    exact argument?_of_balanced balanced after

/-- A balanced argument is read before those that follow it. -/
theorem arguments_braced {text : List Char} (balanced : Balanced text) (rest : List Char) :
    arguments (braced text ++ rest) = (text :: (arguments rest).1, (arguments rest).2) := by
  have read := argument?_of_balanced balanced rest
  have shape : braced text ++ rest = '{' :: (text ++ '}' :: rest) := by simp [braced]
  rw [shape, arguments, if_pos rfl]
  split
  next argument after found =>
    rw [read] at found
    cases found
    rfl
  next missing =>
    rw [read] at missing
    cases missing

/-- Balanced arguments are read as they are written, before those that follow them. -/
theorem arguments_append {texts : List (List Char)} (balanced : ∀ text ∈ texts, Balanced text)
    (rest : List Char) :
    arguments (texts.flatMap braced ++ rest) = (texts ++ (arguments rest).1, (arguments rest).2) := by
  induction texts with
  | nil => rfl
  | cons text texts ih =>
      obtain ⟨first, others⟩ := List.forall_mem_cons.1 balanced
      rw [List.flatMap_cons, List.append_assoc, arguments_braced first, ih others]
      rfl

/-- Balanced arguments are read as they are written, if no further brace follows them. -/
theorem arguments_written {texts : List (List Char)} {rest : List Char}
    (balanced : ∀ text ∈ texts, Balanced text) (ends : rest.head? ≠ some '{') :
    arguments (texts.flatMap braced ++ rest) = (texts, rest) := by
  have nothing : arguments rest = ([], rest) := by
    cases rest with
    | nil => rw [arguments]
    | cons c rest =>
        have other : c ≠ '{' := fun same => ends (by rw [same]; rfl)
        rw [arguments, if_neg other]
  rw [arguments_append balanced, nothing, List.append_nil]

/-- Every argument that is read is balanced. -/
theorem balanced_of_mem_arguments {text argument : List Char} (member : argument ∈ (arguments text).1) :
    Balanced argument := by
  fun_induction arguments text with
  | case2 rest first after found _ others ih =>
      rcases List.mem_cons.1 member with rfl | member
      · exact (argument?_eq_some_iff.1 found).1
      · exact ih member
  | case1 => cases member
  | case3 => cases member
  | case4 => cases member

/-- After the arguments that are read no further one can be read. -/
theorem arguments_after (text : List Char) : (arguments (arguments text).2).1 = [] := by
  have balanced : ∀ argument ∈ (arguments text).1, Balanced argument :=
    fun _ => balanced_of_mem_arguments
  have again := arguments_append balanced (arguments text).2
  rw [← arguments_eq text] at again
  have same := congrArg Prod.fst again
  exact List.self_eq_append_right.1 same

/-- Nothing is read as an argument just where the text does not begin with a balanced one. -/
theorem arguments_fst_eq_nil_iff {text : List Char} :
    (arguments text).1 = [] ↔
      ¬ ∃ argument rest, Balanced argument ∧ text = braced argument ++ rest := by
  constructor
  · rintro none ⟨argument, rest, balanced, rfl⟩
    rw [arguments_braced balanced] at none
    cases none
  · intro none
    unfold arguments
    split
    next => rfl
    next c rest =>
      split
      next opens =>
        split
        next argument after found =>
          obtain ⟨balanced, shape⟩ := argument?_eq_some_iff.1 found
          exact absurd ⟨argument, after, balanced, by simp [braced, opens, shape]⟩ none
        next => rfl
      next => rfl

/-! ### Marks at the beginning of a text -/

/-- A character that opens no mark stands before the next mark. -/
theorem find?_cons {c : Char} (plain : c ≠ '[') (text : List Char) :
    find? (c :: text) =
      (find? text).map fun found => { found with before := c :: found.before } := by
  have kept : (c != '[') = true := by simpa using plain
  unfold find?
  rw [List.dropWhile_cons_of_pos (p := (· != '[')) kept,
    List.takeWhile_cons_of_pos (p := (· != '[')) kept]
  cases text.dropWhile (· != '[') with
  | nil => rfl
  | cons opening inner =>
      simp only
      cases inner.dropWhile (!isBracket ·) with
      | nil => rfl
      | cons bracket rest =>
          simp only
          split <;> rfl

/-- What stands before the first opening bracket takes no part in the search. -/
theorem find?_append {before : List Char} (unopened : ∀ c ∈ before, c ≠ '[') (rest : List Char) :
    find? (before ++ rest) =
      (find? rest).map fun found => { found with before := before ++ found.before } := by
  induction before with
  | nil => simp
  | cons c before ih =>
      obtain ⟨plain, others⟩ := List.forall_mem_cons.1 unopened
      rw [List.cons_append, find?_cons plain, ih others, Option.map_map]
      rfl

/-- Of two opening brackets the second is the mark. -/
theorem find?_escape (text : List Char) :
    find? ('[' :: '[' :: text) = some ⟨['['], none, text⟩ := rfl

/-- A bracket that no other follows opens no mark. -/
theorem find?_unclosed {name : List Char} (named : ∀ c ∈ name, isBracket c = false) :
    find? ('[' :: name) = none := by
  have all : ∀ c ∈ name, (!isBracket c) = true := fun c mem => by rw [named c mem]; rfl
  have opens : ¬ ('[' != '[') = true := by decide
  rw [find?, List.dropWhile_cons_of_neg (p := (· != '[')) opens]
  simp only [List.dropWhile_eq_nil_iff.2 all]

/-- The second of two opening brackets is the mark, whatever stands between them. -/
theorem find?_second {name : List Char} (named : ∀ c ∈ name, isBracket c = false)
    (rest : List Char) : find? ('[' :: (name ++ '[' :: rest)) = some ⟨'[' :: name, none, rest⟩ := by
  have all : ∀ c ∈ name, (!isBracket c) = true := fun c mem => by rw [named c mem]; rfl
  have stops : ¬ (!isBracket '[') = true := by decide
  have opens : ¬ ('[' != '[') = true := by decide
  rw [find?, List.dropWhile_cons_of_neg (p := (· != '[')) opens,
    List.takeWhile_cons_of_neg (p := (· != '[')) opens]
  simp [List.dropWhile_append_of_pos all, List.takeWhile_append_of_pos all,
    List.dropWhile_cons_of_neg (p := (!isBracket ·)) stops,
    List.takeWhile_cons_of_neg (p := (!isBracket ·)) stops]

/-- A name in brackets is found with the arguments that are read after it. -/
theorem find?_named {name : List Char} (named : ∀ c ∈ name, isBracket c = false)
    (rest : List Char) :
    find? ('[' :: (name ++ ']' :: rest)) =
      some ⟨[], some ⟨name, (arguments rest).1⟩, (arguments rest).2⟩ := by
  have all : ∀ c ∈ name, (!isBracket c) = true := fun c mem => by rw [named c mem]; rfl
  have stops : ¬ (!isBracket ']') = true := by decide
  have opens : ¬ ('[' != '[') = true := by decide
  rw [find?, List.dropWhile_cons_of_neg (p := (· != '[')) opens,
    List.takeWhile_cons_of_neg (p := (· != '[')) opens]
  simp only [List.dropWhile_append_of_pos all, List.takeWhile_append_of_pos all,
    List.dropWhile_cons_of_neg (p := (!isBracket ·)) stops,
    List.takeWhile_cons_of_neg (p := (!isBracket ·)) stops, if_true, List.append_nil]

/-- A directive is found as it is written. -/
theorem find?_directive {directive : Directive} {rest : List Char}
    (named : ∀ c ∈ directive.name, isBracket c = false)
    (balanced : ∀ text ∈ directive.arguments, Balanced text) (ends : rest.head? ≠ some '{') :
    find? (directive.written ++ rest) = some ⟨[], some directive, rest⟩ := by
  obtain ⟨name, texts⟩ := directive
  have shape : Directive.written ⟨name, texts⟩ ++ rest =
      '[' :: (name ++ ']' :: (texts.flatMap braced ++ rest)) := by
    simp [Directive.written]
  rw [shape, find?_named named, arguments_written balanced ends]

end Narrative.Markup
