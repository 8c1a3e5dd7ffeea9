/-
Module: Narrative.Proofs.Numeral.Whole
Purpose: Whole numbers, written and read again: a number that can be written is read back from its
  digits. A text without a minus sign is read as no number below zero.
Main exports: Numeral.readWhole?_of_writeWhole?, Numeral.nonneg_of_readWhole?
-/
import Mathlib.Data.List.TakeWhile
import Narrative.Numeral.Whole

namespace Narrative.Numeral

/-! ### Digits -/

theorem digitValue?_of_isDigit {c : Char} (isDigit : c.isDigit = true) :
    digitValue? c = some (c.toNat - '0'.toNat) := by
  have bound : c.toNat < 0x80 := by
    have := (Char.isDigit_iff_toNat.1 isDigit).2
    have : '9'.toNat < 0x80 := by decide
    omega
  rw [digitValue?, if_pos bound, if_pos isDigit]
  rfl

/-- Digits with nothing between them are read one by one. -/
theorem digits?_of_isDigit {cs : List Char} (some : cs ≠ [])
    (digits : ∀ c ∈ cs, c.isDigit = true) :
    digits? cs = .some (cs.map fun c => c.toNat - '0'.toNat) := by
  induction cs with
  | nil => exact absurd rfl some
  | cons c rest ih =>
      obtain ⟨first, others⟩ := List.forall_mem_cons.1 digits
      cases rest with
      | nil => simp [digits?, digitValue?_of_isDigit first]
      | cons d rest =>
          have later := ih (List.cons_ne_nil d rest) others
          rw [digits?, digitValue?_of_isDigit first, later]
          · rfl
          · simp
          · rintro _ ⟨⟩
            exact absurd (others '_' List.mem_cons_self) (by decide)

theorem ofDigits_map (cs : List Char) :
    ofDigits (cs.map fun c => c.toNat - '0'.toNat) = Nat.ofDigitChars 10 cs 0 := by
  rw [ofDigits, List.foldl_map]
  rfl

theorem isDigit_of_mem_decimal (n : Nat) : ∀ c ∈ Nat.toDigits 10 n, c.isDigit = true := fun _ =>
  Nat.isDigit_of_mem_toDigits (by decide) (by decide)

/-- The decimal digits of a number are read as the number. -/
theorem digits?_toDigits (n : Nat) :
    ∃ ds, digits? (Nat.toDigits 10 n) = some ds ∧ ofDigits ds = n ∧
      ds.length = (Nat.toDigits 10 n).length := by
  refine ⟨_, digits?_of_isDigit Nat.toDigits_ne_nil (isDigit_of_mem_decimal n), ?_,
    List.length_map _⟩
  rw [ofDigits_map, Nat.ofDigitChars_ten_toDigits]

/-! ### Signs and blanks -/

theorem trimNumeral_of_unblank {cs : List Char} (unblank : ∀ c ∈ cs, isNumeralBlank c = false) :
    trimNumeral cs = cs := by
  have keeps {text : List Char} (among : ∀ c ∈ text, c ∈ cs) :
      text.dropWhile isNumeralBlank = text := by
    rw [List.dropWhile_eq_self_iff]
    intro some
    simp [unblank _ (among _ (List.getElem_mem some))]
  rw [trimNumeral, keeps (fun _ => id), keeps (fun _ => List.mem_reverse.1), List.reverse_reverse]

theorem isNumeralBlank_of_isDigit {c : Char} (isDigit : c.isDigit = true) :
    isNumeralBlank c = false := by
  obtain ⟨low, high⟩ := Char.isDigit_iff_toNat.1 isDigit
  have : '0'.toNat = 0x30 := rfl
  have : '9'.toNat = 0x39 := rfl
  simp only [isNumeralBlank, Text.isBlank, Bool.and_eq_false_iff]
  left
  simp
  omega

/-- Digits with no sign before them are read with none. -/
theorem takeSign_of_isDigit {cs : List Char} (digits : ∀ c ∈ cs, c.isDigit = true) :
    takeSign cs = (false, cs) := by
  unfold takeSign
  split
  next rest => exact absurd (digits '+' List.mem_cons_self) (by decide)
  next rest => exact absurd (digits '-' List.mem_cons_self) (by decide)
  next => rfl

theorem trimNumeral_sublist (cs : List Char) : (trimNumeral cs).Sublist cs := by
  have right := (List.dropWhile_sublist isNumeralBlank
    (l := (cs.dropWhile isNumeralBlank).reverse)).reverse
  rw [List.reverse_reverse] at right
  exact right.trans (List.dropWhile_sublist _)

theorem takeSign_sublist (cs : List Char) : (takeSign cs).2.Sublist cs := by
  unfold takeSign
  split
  · exact List.sublist_cons_self _ _
  · exact List.sublist_cons_self _ _
  · exact List.Sublist.refl _

/-- Without a minus sign the sign is none. -/
theorem takeSign_trimNumeral_of_unsigned {cs : List Char} (unsigned : '-' ∉ cs) :
    (takeSign (trimNumeral cs)).1 = false := by
  unfold takeSign
  split
  next => rfl
  next rest minus =>
    exact absurd ((trimNumeral_sublist cs).subset (minus ▸ List.mem_cons_self)) unsigned
  next => rfl

/-! ### Reading -/

/-- What a text is read as: its digits, if they are not too many, under its sign. -/
theorem readWhole?_eq_some_iff {cs : List Char} {number : Int} :
    readWhole? cs = some number ↔
      ∃ ds, digits? (takeSign (trimNumeral cs)).2 = some ds ∧ ds.length ≤ maxDigits ∧
        number = if (takeSign (trimNumeral cs)).1 then -(ofDigits ds : Int) else ofDigits ds := by
  unfold readWhole? readWhole
  obtain ⟨negative, body⟩ := takeSign (trimNumeral cs)
  dsimp only
  cases digits? body with
  | none => simp [Except.toOption]
  | some ds =>
      by_cases long : ds.length > maxDigits
      · simp [if_pos long, Except.toOption, Nat.not_le.2 long]
      · simp [if_neg long, Except.toOption, Nat.not_lt.1 long, eq_comm]

/-- The minus sign if there is one, and the digits. -/
theorem toList_toString (number : Int) :
    (toString number).toList =
      if 0 ≤ number then Nat.toDigits 10 number.natAbs else '-' :: Nat.toDigits 10 number.natAbs := by
  rw [Int.toString_eq_repr, Int.repr_eq_if]
  split
  next positive =>
    rw [Nat.toList_repr]
    congr 1
    omega
  next negative =>
    rw [String.toList_append, Nat.toList_repr]
    have : (-number).toNat = number.natAbs := by omega
    rw [this]
    rfl

/-- A number is written with digits and a minus sign. -/
theorem isDigit_of_mem_writeWhole? {number : Int} {text : String}
    (written : writeWhole? number = some text) : ∀ c ∈ text.toList, c.isDigit = true ∨ c = '-' := by
  unfold writeWhole? at written
  split at written
  next =>
    cases written
    have isDigit := isDigit_of_mem_decimal number.natAbs
    intro c member
    rw [toList_toString] at member
    split at member
    next => exact .inl (isDigit c member)
    next =>
      rcases List.mem_cons.1 member with minus | digit
      · exact .inr minus
      · exact .inl (isDigit c digit)
  next => cases written

/-- A number that can be written is read back. -/
theorem readWhole?_of_writeWhole? {number : Int} {text : String}
    (written : writeWhole? number = some text) : readWhole? text.toList = some number := by
  unfold writeWhole? at written
  split at written
  next short =>
    cases written
    obtain ⟨ds, read, value, length⟩ := digits?_toDigits number.natAbs
    have isDigit := isDigit_of_mem_decimal number.natAbs
    have unblank : ∀ c ∈ Nat.toDigits 10 number.natAbs, isNumeralBlank c = false := fun c member =>
      isNumeralBlank_of_isDigit (isDigit c member)
    have short : ds.length ≤ maxDigits := by
      have some : 0 < maxDigits := by decide
      -- The bound stays a variable, so that no power of it gets evaluated.
      generalize maxDigits = most at short some ⊢
      rw [length]
      exact (Nat.length_toDigits_le_iff (by decide) some).2 short
    rw [readWhole?_eq_some_iff, toList_toString]
    refine ⟨ds, ?_⟩
    split
    next positive =>
      rw [trimNumeral_of_unblank unblank, takeSign_of_isDigit isDigit]
      refine ⟨read, short, ?_⟩
      simp only [Bool.false_eq_true, if_false]
      omega
    next negative =>
      rw [trimNumeral_of_unblank (List.forall_mem_cons.2 ⟨by decide, unblank⟩)]
      refine ⟨read, short, ?_⟩
      simp only [takeSign, if_true]
      omega
  next => cases written

/-- Without a minus sign no number below zero is read. -/
theorem nonneg_of_readWhole? {text : List Char} (unsigned : '-' ∉ text) {number : Int}
    (read : readWhole? text = some number) : 0 ≤ number := by
  obtain ⟨ds, _, _, rfl⟩ := readWhole?_eq_some_iff.1 read
  rw [takeSign_trimNumeral_of_unsigned unsigned]
  exact Int.natCast_nonneg _

end Narrative.Numeral
