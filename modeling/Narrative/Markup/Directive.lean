/-
Module: Narrative.Markup.Directive
Purpose: Directives in a text: a name in brackets and arguments in braces.
Main exports: Directive, Found, find?, find?_written, count_after_lt, count_argument_add_after_lt
-/

namespace Narrative.Markup

/-- A directive: its name and its arguments. -/
structure Directive where
  name : List Char
  arguments : List (List Char)
deriving Repr, DecidableEq

/-- The next mark of a text: what stands before it, the directive, and what stands after it. Where
two opening brackets come before a closing one there is no directive: the mark is the second of
them, and the first stays in the text. -/
structure Found where
  before : List Char
  directive? : Option Directive
  after : List Char
deriving Repr, DecidableEq

/-- An argument as it is written. -/
def braced (argument : List Char) : List Char := '{' :: argument ++ ['}']

/-- A directive as it is written. -/
def Directive.written (directive : Directive) : List Char :=
  '[' :: directive.name ++ ']' :: directive.arguments.flatMap braced

/-- The characters of a mark. -/
def Found.written (found : Found) : List Char :=
  match found.directive? with
  | some directive => directive.written
  | none => ['[']

/-- The text up to the brace that closes the argument, and the text after that brace; `depth` counts
the braces that are open inside the argument. -/
def argument? : Nat → List Char → Option (List Char × List Char)
  | _, [] => none
  | depth, c :: rest =>
    if c = '{' then (argument? (depth + 1) rest).map fun (inner, after) => (c :: inner, after)
    else if c = '}' then
      match depth with
      | 0 => some ([], rest)
      | depth + 1 => (argument? depth rest).map fun (inner, after) => (c :: inner, after)
    else (argument? depth rest).map fun (inner, after) => (c :: inner, after)

theorem argument?_eq {depth : Nat} {text argument after : List Char}
    (h : argument? depth text = some (argument, after)) : text = argument ++ '}' :: after := by
  induction text generalizing depth argument with
  | nil => simp [argument?] at h
  | cons c rest ih =>
    have step {d : Nat} (m : (argument? d rest).map (fun p => (c :: p.1, p.2)) =
        some (argument, after)) : c :: rest = argument ++ '}' :: after := by
      obtain ⟨p, hp, e⟩ := Option.map_eq_some_iff.1 m
      cases e
      simp [ih hp]
    unfold argument? at h
    split at h
    · exact step h
    · split at h
      · next close =>
        split at h
        · cases h
          simp [close]
        · exact step h
      · exact step h

/-- The arguments that follow one another directly, and the text after them. A brace that is never
closed begins no argument. -/
def arguments : List Char → List (List Char) × List Char
  | [] => ([], [])
  | c :: rest =>
    if c = '{' then
      match h : argument? 0 rest with
      | some (argument, after) =>
        have shorter : after.length < rest.length + 1 := by
          have := congrArg List.length (argument?_eq h)
          simp only [List.length_append, List.length_cons] at this
          omega
        let others := arguments after
        (argument :: others.1, others.2)
      | none => ([], c :: rest)
    else ([], c :: rest)
termination_by text => text.length

theorem arguments_eq (text : List Char) :
    text = (arguments text).1.flatMap braced ++ (arguments text).2 := by
  fun_induction arguments text with
  | case1 => rfl
  | case2 rest argument after found _ others ih =>
    simp only [List.flatMap_cons, braced, List.append_assoc]
    rw [argument?_eq found]
    simp only [List.cons_append, List.nil_append, List.cons.injEq, true_and,
      List.append_cancel_left_eq]
    exact ih
  | case3 => rfl
  | case4 => rfl

/-- Whether the character is a bracket. -/
def isBracket (c : Char) : Bool := c == '[' || c == ']'

/-- The next mark of the text, if a bracket opens and another bracket follows it. -/
def find? (text : List Char) : Option Found :=
  match text.dropWhile (· != '[') with
  | [] => none
  | _ :: inner =>
    let before := text.takeWhile (· != '[')
    let name := inner.takeWhile (!isBracket ·)
    match inner.dropWhile (!isBracket ·) with
    | [] => none
    | bracket :: rest =>
      if bracket = ']' then
        some ⟨before, some ⟨name, (arguments rest).1⟩, (arguments rest).2⟩
      else some ⟨before ++ '[' :: name, none, rest⟩

/-- What a search stops at fails the test of the search. -/
private theorem head_dropWhile {p : Char → Bool} {text rest : List Char} {c : Char}
    (h : text.dropWhile p = c :: rest) : p c = false := by
  induction text with
  | nil => simp at h
  | cons d text ih =>
    by_cases pd : p d
    · exact ih (by simpa [pd] using h)
    · simp only [List.dropWhile_cons, pd] at h
      cases h
      simpa using pd

/-- Nothing of the text is lost: it is what stands before the mark, the mark, and what stands after
it. -/
theorem find?_written {text : List Char} {found : Found} (h : find? text = some found) :
    text = found.before ++ found.written ++ found.after := by
  unfold find? at h
  split at h
  · cases h
  next opening inner opens =>
    have isOpening : opening = '[' := by simpa using head_dropWhile opens
    have outer : text = text.takeWhile (· != '[') ++ '[' :: inner := by
      rw [isOpening] at opens
      rw [← opens, List.takeWhile_append_dropWhile]
    simp only at h
    split at h
    · cases h
    next bracket rest closes =>
      have parts : inner = inner.takeWhile (!isBracket ·) ++ bracket :: rest := by
        rw [← closes, List.takeWhile_append_dropWhile]
      split at h
      · next closing =>
        cases h
        rw [closing] at parts
        simp only [Found.written, Directive.written, List.append_assoc, List.cons_append]
        rw [← arguments_eq rest, ← parts]
        exact outer
      · next other =>
        cases h
        have isOther : bracket = '[' := by
          have := head_dropWhile closes
          simp only [isBracket, Bool.not_eq_false', Bool.or_eq_true, beq_iff_eq] at this
          exact this.resolve_right other
        rw [isOther] at parts
        simp only [Found.written, List.append_assoc, List.cons_append, List.nil_append]
        rw [← parts]
        exact outer

/-- An argument holds no more brackets than all the arguments as they are written. -/
theorem count_le_of_mem_arguments {arguments : List (List Char)} {argument : List Char}
    (h : argument ∈ arguments) :
    argument.count '[' ≤ (arguments.flatMap braced).count '[' := by
  induction arguments with
  | nil => simp at h
  | cons first more ih =>
    simp only [List.flatMap_cons, List.count_append]
    rcases List.mem_cons.1 h with rfl | h
    · simp [braced]
    · exact Nat.le_trans (ih h) (Nat.le_add_left ..)

/-- What stands after a mark holds fewer opening brackets than the text. -/
theorem count_after_lt {text : List Char} {found : Found} (h : find? text = some found) :
    found.after.count '[' < text.count '[' := by
  conv => rhs; rw [find?_written h]
  simp only [List.count_append]
  have : 0 < found.written.count '[' := by
    unfold Found.written
    split <;> simp [Directive.written]
  omega

/-- Putting an argument of a directive in its place leaves fewer opening brackets than the text had
before. -/
theorem count_argument_add_after_lt {text : List Char} {found : Found}
    (h : find? text = some found) {directive : Directive} (is : found.directive? = some directive)
    {argument : List Char} (mem : argument ∈ directive.arguments) :
    argument.count '[' + found.after.count '[' < text.count '[' := by
  conv => rhs; rw [find?_written h]
  have := count_le_of_mem_arguments mem
  simp only [Found.written, is, Directive.written, List.count_append, List.count_cons_self,
    List.cons_append, List.count_cons_of_ne (by decide : (']' : Char) ≠ '[')]
  omega

end Narrative.Markup
