/-
Module: Narrative.Proofs.Text.Utf8
Purpose: Reading text from bytes. Exactly the bytes of texts are read, each as the text that it is written
  from; other bytes are refused at the first place where no character begins.
Main exports: Text.bytesOf, Text.encodeUtf8, Text.decodeUtf8_eq_ok_iff, Text.strange_of_decodeUtf8
-/
import Mathlib.Data.List.Basic
import Mathlib.Tactic.SplitIfs
import Narrative.Text.Utf8

namespace Narrative.Text

/-- The bytes of a character. -/
def bytesOf (c : Char) : List Nat := (String.utf8EncodeChar c).map UInt8.toNat

/-- The bytes of a text. -/
def encodeUtf8 (text : List Char) : List Nat := text.flatMap bytesOf

@[simp] theorem encodeUtf8_nil : encodeUtf8 [] = [] := rfl

@[simp] theorem encodeUtf8_cons (c : Char) (text : List Char) :
    encodeUtf8 (c :: text) = bytesOf c ++ encodeUtf8 text := rfl

/-! ### The bytes of a character as numbers -/

theorem toNat_lt (c : Char) : c.toNat < 0x110000 := by
  have valid : c.toNat.isValidChar := c.valid
  simp only [Nat.isValidChar] at valid
  omega

theorem toNat_ofNat {code : Nat} (valid : code < 0xd800 ∨ 0xdfff < code ∧ code < 0x110000) :
    (Char.ofNat code).toNat = code := by
  have isValid : code.isValidChar := valid
  have made : Char.ofNat code = Char.ofNatAux code isValid := dif_pos isValid
  rw [made]
  rfl

theorem bytesOf_eq (c : Char) : bytesOf c =
    if c.toNat < 0x80 then [c.toNat]
    else if c.toNat < 0x800 then [0xc0 + c.toNat / 64, 0x80 + c.toNat % 64]
    else if c.toNat < 0x10000 then
      [0xe0 + c.toNat / 4096, 0x80 + c.toNat / 64 % 64, 0x80 + c.toNat % 64]
    else
      [0xf0 + c.toNat / 262144, 0x80 + c.toNat / 4096 % 64, 0x80 + c.toNat / 64 % 64,
        0x80 + c.toNat % 64] := by
  have bound := toNat_lt c
  have same : c.val.toNat = c.toNat := rfl
  unfold bytesOf String.utf8EncodeChar
  simp only [same]
  split_ifs <;>
    simp only [List.map_cons, List.map_nil, UInt8.toNat_ofNat', List.cons.injEq, and_true] <;> omega

/-! ### The first byte of a character, and those after it -/

section

variable {a b c d low high more seen code : Nat} {bytes rest : List Nat}

theorem leading?_two (first : 0xc2 ≤ a ∧ a < 0xe0) : leading? a = some (1, 0x80, 0xbf) := by
  simp [leading?, first]

theorem leading?_three (first : 0xe0 ≤ a ∧ a < 0xf0) :
    leading? a = some (2, if a = 0xe0 then 0xa0 else 0x80, if a = 0xed then 0x9f else 0xbf) := by
  grind [leading?]

theorem leading?_four (first : 0xf0 ≤ a ∧ a < 0xf5) :
    leading? a = some (3, if a = 0xf0 then 0x90 else 0x80, if a = 0xf4 then 0x8f else 0xbf) := by
  grind [leading?]

theorem within_three :
    ((if a = 0xe0 then 0xa0 else 0x80) ≤ b ∧ b ≤ if a = 0xed then 0x9f else 0xbf) ↔
      (0x80 ≤ b ∧ b ≤ 0xbf) ∧ (a = 0xe0 → 0xa0 ≤ b) ∧ (a = 0xed → b ≤ 0x9f) := by
  split_ifs <;> omega

theorem within_four :
    ((if a = 0xf0 then 0x90 else 0x80) ≤ b ∧ b ≤ if a = 0xf4 then 0x8f else 0xbf) ↔
      (0x80 ≤ b ∧ b ≤ 0xbf) ∧ (a = 0xf0 → 0x90 ≤ b) ∧ (a = 0xf4 → b ≤ 0x8f) := by
  split_ifs <;> omega

theorem leading?_eq_none : leading? a = none ↔ a < 0xc2 ∨ 0xf5 ≤ a := by
  grind [leading?]

theorem leadingBits_one : leadingBits 1 a = a % 32 := rfl

theorem leadingBits_two : leadingBits 2 a = a % 16 := rfl

theorem leadingBits_three : leadingBits 3 a = a % 8 := rfl

theorem following_succ_eq_ok {result : Nat × List Nat} :
    following low high (more + 1) seen code bytes = .ok result ↔
      ∃ byte rest, bytes = byte :: rest ∧ (low ≤ byte ∧ byte ≤ high) ∧
        following 0x80 0xbf more (seen + 1) (code * 64 + byte % 64) rest = .ok result := by
  cases bytes with
  | nil => simp [following]
  | cons byte rest =>
      rw [following]
      by_cases within : low ≤ byte ∧ byte ≤ high
      · simp [within]
      · simp [within]

theorem length_of_following {low high more seen code final : Nat} {bytes rest : List Nat}
    (follows : following low high more seen code bytes = .ok (final, rest)) :
    bytes.length = more + rest.length := by
  induction more generalizing low high seen code bytes with
  | zero =>
      cases follows
      rw [Nat.zero_add]
  | succ more ih =>
      obtain ⟨byte, others, rfl, _, follows⟩ := following_succ_eq_ok.1 follows
      rw [List.length_cons, ih follows]
      omega

/-- A byte and those after it are read as the character with a code, up to the rest. -/
def Begins (a : Nat) (bytes : List Nat) (code : Nat) (rest : List Nat) : Prop :=
  ∃ more low high, leading? a = some (more, low, high) ∧
    following low high more 1 (leadingBits more a) bytes = .ok (code, rest)

theorem range_of_begins (begins : Begins a bytes code rest) :
    (0xc2 ≤ a ∧ a < 0xe0) ∨ (0xe0 ≤ a ∧ a < 0xf0) ∨ (0xf0 ≤ a ∧ a < 0xf5) := by
  obtain ⟨more, low, high, leads, _⟩ := begins
  have some : leading? a ≠ none := by simp [leads]
  rw [ne_eq, leading?_eq_none] at some
  omega

theorem bytesOf_of_begins (begins : Begins a bytes code rest) :
    (Char.ofNat code).toNat = code ∧ a :: bytes = bytesOf (Char.ofNat code) ++ rest := by
  have ranges := range_of_begins begins
  obtain ⟨more, low, high, leads, follows⟩ := begins
  obtain first | first | first := ranges
  · rw [leading?_two first] at leads
    cases leads
    obtain ⟨b, rest, rfl, second, follows⟩ := following_succ_eq_ok.1 follows
    cases follows
    have same : (Char.ofNat (a % 32 * 64 + b % 64)).toNat = a % 32 * 64 + b % 64 :=
      toNat_ofNat (by omega)
    refine ⟨same, ?_⟩
    show _ = bytesOf (Char.ofNat (a % 32 * 64 + b % 64)) ++ _
    rw [bytesOf_eq, same, if_neg (by omega), if_pos (by omega)]
    simp only [List.cons_append, List.nil_append, List.cons.injEq, and_true]
    omega
  · rw [leading?_three first] at leads
    cases leads
    obtain ⟨b, rest, rfl, second, follows⟩ := following_succ_eq_ok.1 follows
    rw [within_three] at second
    obtain ⟨c, rest, rfl, third, follows⟩ := following_succ_eq_ok.1 follows
    cases follows
    have same : (Char.ofNat ((a % 16 * 64 + b % 64) * 64 + c % 64)).toNat =
        (a % 16 * 64 + b % 64) * 64 + c % 64 := toNat_ofNat (by omega)
    refine ⟨same, ?_⟩
    show _ = bytesOf (Char.ofNat ((a % 16 * 64 + b % 64) * 64 + c % 64)) ++ _
    rw [bytesOf_eq, same, if_neg (by omega), if_neg (by omega), if_pos (by omega)]
    simp only [List.cons_append, List.nil_append, List.cons.injEq, and_true]
    omega
  · rw [leading?_four first] at leads
    cases leads
    obtain ⟨b, rest, rfl, second, follows⟩ := following_succ_eq_ok.1 follows
    rw [within_four] at second
    obtain ⟨c, rest, rfl, third, follows⟩ := following_succ_eq_ok.1 follows
    obtain ⟨d, rest, rfl, fourth, follows⟩ := following_succ_eq_ok.1 follows
    cases follows
    have same : (Char.ofNat (((a % 8 * 64 + b % 64) * 64 + c % 64) * 64 + d % 64)).toNat =
        ((a % 8 * 64 + b % 64) * 64 + c % 64) * 64 + d % 64 := toNat_ofNat (by omega)
    refine ⟨same, ?_⟩
    show _ = bytesOf (Char.ofNat (((a % 8 * 64 + b % 64) * 64 + c % 64) * 64 + d % 64)) ++ _
    rw [bytesOf_eq, same, if_neg (by omega), if_neg (by omega), if_neg (by omega)]
    simp only [List.cons_append, List.nil_append, List.cons.injEq, and_true]
    omega

theorem begins_of_bytesOf {character : Char} (beyond : 0x80 ≤ a)
    (spelled : a :: bytes = bytesOf character ++ rest) : Begins a bytes character.toNat rest := by
  have bound := toNat_lt character
  have surrogate : ¬ (0xd800 ≤ character.toNat ∧ character.toNat ≤ 0xdfff) := by
    have valid : character.toNat.isValidChar := character.valid
    simp only [Nat.isValidChar] at valid
    omega
  rw [bytesOf_eq] at spelled
  split_ifs at spelled with one two three
  · simp only [List.cons_append, List.cons.injEq] at spelled
    omega
  · cases spelled
    refine ⟨_, _, _, leading?_two (by omega), following_succ_eq_ok.2 ⟨_, _, rfl, by omega, ?_⟩⟩
    simp only [following, leadingBits_one, Except.ok.injEq, Prod.mk.injEq]
    refine ⟨?_, rfl⟩
    omega
  · cases spelled
    refine ⟨_, _, _, leading?_three (by omega), following_succ_eq_ok.2 ⟨_, _, rfl, ?_,
      following_succ_eq_ok.2 ⟨_, _, rfl, by omega, ?_⟩⟩⟩
    · rw [within_three]
      omega
    · simp only [following, leadingBits_two, Except.ok.injEq, Prod.mk.injEq]
      refine ⟨?_, rfl⟩
      omega
  · cases spelled
    refine ⟨_, _, _, leading?_four (by omega), following_succ_eq_ok.2 ⟨_, _, rfl, ?_,
      following_succ_eq_ok.2 ⟨_, _, rfl, by omega, following_succ_eq_ok.2 ⟨_, _, rfl, by omega, ?_⟩⟩⟩⟩
    · rw [within_four]
      omega
    · simp only [following, leadingBits_three, Except.ok.injEq, Prod.mk.injEq]
      refine ⟨?_, rfl⟩
      omega

end

/-! ### Whole texts -/

variable {fuel position : Nat} {bytes : List Nat} {text : List Char} {fault : Utf8Fault}

theorem bytesOf_ne_nil (c : Char) : bytesOf c ≠ [] := by
  rw [bytesOf_eq]
  split_ifs <;> exact List.cons_ne_nil _ _

theorem length_bytesOf_pos (c : Char) : 0 < (bytesOf c).length :=
  List.length_pos_iff.2 (bytesOf_ne_nil c)

/-- A byte below the first that leads others is a character of its own. -/
theorem bytesOf_of_lt {c : Char} {byte : Nat} {bytes : List Nat} (ascii : byte < 0x80)
    (spelled : bytesOf c = byte :: bytes) : c.toNat = byte ∧ bytes = [] := by
  rw [bytesOf_eq] at spelled
  split_ifs at spelled
  · cases spelled
    exact ⟨rfl, rfl⟩
  all_goals
    obtain ⟨first, _⟩ := List.cons.inj spelled
    omega

theorem bytesOf_ofNat {byte : Nat} (ascii : byte < 0x80) : bytesOf (Char.ofNat byte) = [byte] := by
  have same : (Char.ofNat byte).toNat = byte := toNat_ofNat (by omega)
  rw [bytesOf_eq, same, if_pos ascii]

/-- A character at the front is read, and then what follows it. -/
theorem decodeFrom_append (c : Char) (rest : List Nat) :
    decodeFrom (fuel + 1) position (bytesOf c ++ rest) =
      (decodeFrom fuel (position + (bytesOf c).length) rest).map (c :: ·) := by
  obtain ⟨byte, bytes, spelled⟩ := List.exists_cons_of_ne_nil (bytesOf_ne_nil c)
  rw [spelled, List.cons_append, decodeFrom]
  by_cases ascii : byte < 0x80
  · obtain ⟨rfl, rfl⟩ := bytesOf_of_lt ascii spelled
    rw [if_pos ascii, Char.ofNat_toNat]
    rfl
  · have begins : Begins byte (bytes ++ rest) c.toNat rest :=
      begins_of_bytesOf (Nat.le_of_not_lt ascii) (by rw [spelled, List.cons_append])
    obtain ⟨more, low, high, leads, follows⟩ := begins
    have length : bytes.length = more := by
      have whole := length_of_following follows
      rw [List.length_append] at whole
      omega
    rw [if_neg ascii, leads]
    dsimp only
    rw [follows, List.length_cons, length]
    dsimp only
    rw [Char.ofNat_toNat]
    rfl

/-- No character is at the front of a byte and those after it. -/
def Strange (byte : Nat) (bytes : List Nat) : Prop :=
  ∀ c rest, byte :: bytes ≠ bytesOf c ++ rest

/-- Where no character is at the front, the bytes are refused there. -/
theorem decodeFrom_refuses {byte : Nat} (strange : Strange byte bytes) :
    ∃ count reason, decodeFrom (fuel + 1) position (byte :: bytes) =
      .error ⟨position, byte, count, reason⟩ := by
  have high : ¬ byte < 0x80 := by
    intro ascii
    exact strange (Char.ofNat byte) bytes (by rw [bytesOf_ofNat ascii]; rfl)
  rw [decodeFrom, if_neg high]
  cases leads : leading? byte with
  | none => exact ⟨_, _, rfl⟩
  | some bounds =>
      obtain ⟨more, low, high⟩ := bounds
      dsimp only
      cases follows : following low high more 1 (leadingBits more byte) bytes with
      | error fault => exact ⟨_, _, rfl⟩
      | ok result =>
          obtain ⟨code, rest⟩ := result
          exact absurd (bytesOf_of_begins ⟨more, low, high, leads, follows⟩).2 (strange _ rest)

/-- The bytes of a text are read as the text. -/
theorem decodeFrom_encodeUtf8 (enough : (encodeUtf8 text).length ≤ fuel) :
    decodeFrom fuel position (encodeUtf8 text) = .ok text := by
  induction text generalizing fuel position with
  | nil => cases fuel <;> rfl
  | cons c text ih =>
      rw [encodeUtf8_cons, List.length_append] at enough
      have some := length_bytesOf_pos c
      obtain ⟨fuel, rfl⟩ := Nat.exists_eq_succ_of_ne_zero (show fuel ≠ 0 by omega)
      rw [encodeUtf8_cons, decodeFrom_append, ih (by omega)]
      rfl

/-- Bytes are those of a text, which is read, or they are refused at the first place where no character
begins. -/
theorem decodeFrom_cases (position : Nat) (enough : bytes.length ≤ fuel) :
    (∃ text, bytes = encodeUtf8 text ∧ decodeFrom fuel position bytes = .ok text) ∨
      ∃ text byte rest count reason, bytes = encodeUtf8 text ++ byte :: rest ∧ Strange byte rest ∧
        decodeFrom fuel position bytes =
          .error ⟨position + (encodeUtf8 text).length, byte, count, reason⟩ := by
  induction fuel generalizing position bytes with
  | zero =>
      obtain rfl := List.length_eq_zero_iff.1 (Nat.le_zero.1 enough)
      exact .inl ⟨[], rfl, rfl⟩
  | succ fuel ih =>
      cases bytes with
      | nil => exact .inl ⟨[], rfl, rfl⟩
      | cons byte bytes =>
          by_cases strange : Strange byte bytes
          · obtain ⟨count, reason, refused⟩ := decodeFrom_refuses strange
            exact .inr ⟨[], byte, bytes, count, reason, rfl, strange, refused⟩
          · simp only [Strange, not_forall, not_not] at strange
            obtain ⟨c, rest, spelled⟩ := strange
            have shorter : rest.length ≤ fuel := by
              have some := length_bytesOf_pos c
              rw [spelled, List.length_append] at enough
              omega
            rw [spelled, decodeFrom_append]
            obtain ⟨text, rfl, read⟩ | ⟨text, byte, others, count, reason, rfl, strange, refused⟩ :=
              ih (position + (bytesOf c).length) shorter
            · exact .inl ⟨c :: text, rfl, by rw [read]; rfl⟩
            · refine .inr ⟨c :: text, byte, others, count, reason, ?_, strange, ?_⟩
              · rw [encodeUtf8_cons, List.append_assoc]
              · rw [refused, encodeUtf8_cons, List.length_append, Nat.add_assoc]
                rfl

/-- Exactly the bytes of a text are read as it. -/
theorem decodeUtf8_eq_ok_iff : decodeUtf8 bytes = .ok text ↔ bytes = encodeUtf8 text := by
  constructor
  · intro read
    obtain ⟨other, spelled, same⟩ | ⟨_, _, _, _, _, _, _, refused⟩ :=
      decodeFrom_cases 0 (Nat.le_refl bytes.length)
    · cases same.symm.trans read
      exact spelled
    · cases refused.symm.trans read
  · rintro rfl
    exact decodeFrom_encodeUtf8 (Nat.le_refl _)

/-- Bytes are refused at the first place where no character begins. -/
theorem strange_of_decodeUtf8 (refused : decodeUtf8 bytes = .error fault) :
    ∃ text rest, bytes = encodeUtf8 text ++ fault.byte :: rest ∧
      (encodeUtf8 text).length = fault.position ∧ Strange fault.byte rest := by
  obtain ⟨_, _, read⟩ | ⟨text, byte, rest, count, reason, spelled, strange, same⟩ :=
    decodeFrom_cases 0 (Nat.le_refl bytes.length)
  · cases read.symm.trans refused
  · cases same.symm.trans refused
    exact ⟨text, rest, spelled, (Nat.zero_add _).symm, strange⟩

end Narrative.Text
