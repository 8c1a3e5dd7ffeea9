/-
Module: Narrative.Proofs.Numeral.Duration
Purpose: Which numbers are durations, that is finite and not below zero, and which decimals are sure to
  be read as one: those without a minus sign, an exponent and a word, if they are not too long.
Main exports: Numeral.Binary64.isDuration, Numeral.Binary64.isDuration_ofQuotient,
  Numeral.IsPlain, Numeral.isDuration_of_isPlain
-/
import Mathlib.Algebra.Group.Nat.Defs
import Narrative.Numeral.Decimal
import Narrative.Proofs.Numeral.Whole

namespace Narrative.Numeral

namespace Binary64

/-- Whether the number is a time to wait: finite, and not below zero. Minus zero is not below zero. -/
def isDuration : Binary64 → Bool
  | .finite negative significand _ => !negative || significand == 0
  | .infinite _ | .nan => false

/-! ### Rounding -/

theorem floorLog_le (num den : Nat) : floorLog num den ≤ num.log2 := by
  unfold floorLog
  dsimp only
  split <;> omega

/-- A quotient whose numerator has at most a thousand bits is not beyond all numbers. -/
theorem isDuration_ofQuotient {num : Nat} (den : Nat) (small : num.log2 < 1000) :
    (ofQuotient false num den).isDuration = true := by
  have log_le := floorLog_le num den
  unfold ofQuotient
  generalize exponent_eq : max (floorLog num den - 52) (-1074) = exponent
  have within : exponent + 1 ≤ 971 := by omega
  dsimp only
  generalize (if exponent ≥ 0 then _ else _) = significand
  have finite {n : Nat} {e : Int} (low : e ≤ 971) :
      (if e > 971 then infinite false else finite false n e).isDuration = true := by
    rw [if_neg (by omega)]
    rfl
  split
  · exact finite within
  · exact finite (by omega)

/-- The greatest number of digits of which it is known that they do not go beyond all numbers. -/
def safeDigits : Nat := 240

theorem log2_lt_of_digits {n : Nat} (few : n < 10 ^ safeDigits) : n.log2 < 1000 := by
  obtain rfl | positive := Nat.eq_zero_or_pos n
  · decide
  · have bits : n.log2 < 4 * safeDigits := by
      rw [Nat.log2_lt (by omega)]
      calc n < 10 ^ safeDigits := few
        _ ≤ (2 ^ 4) ^ safeDigits := Nat.pow_le_pow_left (by decide) safeDigits
        _ = 2 ^ (4 * safeDigits) := (Nat.pow_mul 2 4 safeDigits).symm
    have limit : safeDigits = 240 := rfl
    omega

/-- A decimal of few digits, of which some may stand behind the point, is a duration. -/
theorem isDuration_ofDecimal {n : Nat} {exponent : Int} (few : n < 10 ^ safeDigits)
    (fraction : exponent ≤ 0) : (ofDecimal false n exponent).isDuration = true := by
  have digits : (Nat.toDigits 10 n).length ≤ safeDigits :=
    (Nat.length_toDigits_le_iff (by decide) (by decide)).2 few
  have limit : safeDigits = 240 := rfl
  unfold ofDecimal
  dsimp only
  split
  next => rfl
  next =>
    rw [if_neg (by omega)]
    split
    next =>
      have none : exponent.toNat = 0 := by omega
      rw [none, show n * tenTo 0 = n from Nat.mul_one n]
      exact isDuration_ofQuotient 1 (log2_lt_of_digits few)
    next => exact isDuration_ofQuotient _ (log2_lt_of_digits few)

end Binary64

/-! ### Digits -/

theorem digitValue?_le {c : Char} {d : Nat} (read : digitValue? c = some d) : d ≤ 9 := by
  unfold digitValue? at read
  split at read
  · split at read
    next isDigit =>
      cases read
      have high := (Char.isDigit_iff_toNat.1 isDigit).2
      have : '9'.toNat = 0x39 := rfl
      omega
    next => cases read
  · obtain ⟨base, found, rfl⟩ := Option.map_eq_some_iff.1 read
    have within := Array.find?_some found
    simp only [Bool.and_eq_true, decide_eq_true_eq] at within
    omega

/-- Digits are below ten, and there are no more of them than characters. -/
theorem digits?_bounds {cs : List Char} {ds : List Nat} (read : digits? cs = some ds) :
    ds.length ≤ cs.length ∧ ∀ d ∈ ds, d ≤ 9 := by
  fun_induction digits? cs generalizing ds with
  | case1 => cases read
  | case2 c =>
      obtain ⟨d, value, rfl⟩ := Option.map_eq_some_iff.1 read
      simpa using digitValue?_le value
  | case3 c rest ih =>
      obtain ⟨d, value, later⟩ := Option.bind_eq_some_iff.1 read
      obtain ⟨others, rest_read, same⟩ := Option.bind_eq_some_iff.1 later
      cases same
      obtain ⟨shorter, small⟩ := ih rest_read
      refine ⟨by simp only [List.length_cons]; omega, List.forall_mem_cons.2 ⟨digitValue?_le value, small⟩⟩
  | case4 c rest _ _ ih =>
      obtain ⟨d, value, later⟩ := Option.bind_eq_some_iff.1 read
      obtain ⟨others, rest_read, same⟩ := Option.bind_eq_some_iff.1 later
      cases same
      obtain ⟨shorter, small⟩ := ih rest_read
      refine ⟨by simp only [List.length_cons]; omega, List.forall_mem_cons.2 ⟨digitValue?_le value, small⟩⟩

theorem optionalDigits?_bounds {cs : List Char} {ds : List Nat}
    (read : optionalDigits? cs = some ds) : ds.length ≤ cs.length ∧ ∀ d ∈ ds, d ≤ 9 := by
  unfold optionalDigits? at read
  split at read
  · cases read
    simp
  · exact digits?_bounds read

theorem foldl_digits_lt {ds : List Nat} (small : ∀ d ∈ ds, d ≤ 9) (n : Nat) :
    ds.foldl (fun n d => 10 * n + d) n < (n + 1) * 10 ^ ds.length := by
  induction ds generalizing n with
  | nil => simp
  | cons d rest ih =>
      obtain ⟨first, others⟩ := List.forall_mem_cons.1 small
      calc rest.foldl (fun n d => 10 * n + d) (10 * n + d)
          < (10 * n + d + 1) * 10 ^ rest.length := ih others _
        _ ≤ ((n + 1) * 10) * 10 ^ rest.length := Nat.mul_le_mul_right _ (by omega)
        _ = (n + 1) * 10 ^ (d :: rest).length := by rw [List.length_cons, Nat.pow_succ', Nat.mul_assoc]

theorem ofDigits_lt {ds : List Nat} (small : ∀ d ∈ ds, d ≤ 9) : ofDigits ds < 10 ^ ds.length := by
  have bound := foldl_digits_lt small 0
  rwa [Nat.zero_add, Nat.one_mul] at bound

/-! ### Plain decimals -/

/-- A decimal with no minus sign and no letter, so without an exponent and no word, of no more
characters than digits are safe. -/
structure IsPlain (cs : List Char) : Prop where
  short : cs.length ≤ Binary64.safeDigits
  unsigned : '-' ∉ cs
  letterless : ∀ c ∈ cs, c.isAlpha = false

theorem toLower_of_not_isAlpha {c : Char} (other : c.isAlpha = false) : c.toLower = c := by
  have bounds : ¬ (c.val ≥ 'A'.val ∧ c.val ≤ 'Z'.val) := by
    intro upper
    have isUpper : c.isUpper = true := decide_eq_true upper
    have isAlpha : c.isAlpha = (c.isUpper || c.isLower) := rfl
    rw [isAlpha, isUpper] at other
    cases other
  exact dif_neg bounds

/-- Digits around a point, and no more, are a duration. -/
theorem isDuration_of_unsignedDecimal? {cs : List Char} {seconds : Binary64}
    (short : cs.length ≤ Binary64.safeDigits) (unmarked : ∀ c ∈ cs, c.isAlpha = false)
    (read : unsignedDecimal? false cs = some seconds) : seconds.isDuration = true := by
  have plain : ∀ c ∈ cs, (!(c == 'e' || c == 'E')) = true := by
    intro c member
    have other := unmarked c member
    simp only [Bool.not_eq_true', Bool.or_eq_false_iff, beq_eq_false_iff_ne]
    constructor <;> rintro rfl <;> exact absurd other (by decide)
  unfold unsignedDecimal? at read
  dsimp only at read
  rw [List.takeWhile_eq_self_iff.2 plain, List.dropWhile_eq_nil_iff.2 plain] at read
  obtain ⟨exponent, none, read⟩ := Option.bind_eq_some_iff.1 read
  cases none
  obtain ⟨whole, whole_read, read⟩ := Option.bind_eq_some_iff.1 read
  obtain ⟨fraction, fraction_read, read⟩ := Option.bind_eq_some_iff.1 read
  split at read
  · cases read
  cases read
  obtain ⟨whole_short, whole_small⟩ := optionalDigits?_bounds whole_read
  obtain ⟨fraction_short, fraction_small⟩ := optionalDigits?_bounds fraction_read
  have parts : cs.length = (cs.takeWhile (· != '.')).length + (cs.dropWhile (· != '.')).length := by
    rw [← List.length_append, List.takeWhile_append_dropWhile]
  have fewer : (whole ++ fraction).length ≤ Binary64.safeDigits := by
    rw [List.length_drop] at fraction_short
    rw [List.length_append]
    omega
  have small : ∀ d ∈ whole ++ fraction, d ≤ 9 := List.forall_mem_append.2 ⟨whole_small, fraction_small⟩
  refine Binary64.isDuration_ofDecimal ?_ (by omega)
  exact Nat.lt_of_lt_of_le (ofDigits_lt small) (Nat.pow_le_pow_right (by decide) fewer)

/-- If a plain decimal is read at all, it is read as a duration. -/
theorem isDuration_of_isPlain {cs : List Char} {seconds : Binary64} (plain : IsPlain cs)
    (read : readDecimal? cs = some seconds) : seconds.isDuration = true := by
  have within := (takeSign_sublist (trimNumeral cs)).trans (trimNumeral_sublist cs)
  have unsigned := takeSign_trimNumeral_of_unsigned plain.unsigned
  unfold readDecimal? at read
  generalize takeSign (trimNumeral cs) = signed at read within unsigned
  obtain ⟨negative, body⟩ := signed
  dsimp only at read within unsigned
  subst unsigned
  have letterless : ∀ c ∈ body, c.isAlpha = false := fun c member =>
    plain.letterless c (within.subset member)
  have wordless {word : String} (same : String.ofList (body.map Char.toLower) = word) :
      ∀ c ∈ word.toList, c.isAlpha = false := by
    rw [← same, String.toList_ofList,
      List.map_congr_left fun c member => toLower_of_not_isAlpha (letterless c member), List.map_id']
    exact letterless
  split at read
  next same => exact absurd (wordless same 'n' (by decide)) (by decide)
  next same => exact absurd (wordless same 'n' (by decide)) (by decide)
  next same => exact absurd (wordless same 'n' (by decide)) (by decide)
  next =>
    exact isDuration_of_unsignedDecimal? (within.length_le.trans plain.short) letterless read

end Narrative.Numeral
