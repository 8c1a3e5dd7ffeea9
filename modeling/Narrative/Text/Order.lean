/-
Module: Narrative.Text.Order
Purpose: The order of texts by the code points of their characters.
Main exports: comesBefore, precedes, precedes_irrefl, precedes_trans, eq_of_not_precedes
-/

namespace Narrative.Text

/-- Whether characters come before others: by code point where they differ first, and what has ended
before what goes on. -/
def comesBefore : List Char → List Char → Bool
  | _, [] => false
  | [], _ :: _ => true
  | a :: as, b :: bs => decide (a.toNat < b.toNat) || (decide (a = b) && comesBefore as bs)

/-- Whether a text comes before another one. -/
def precedes (s t : String) : Bool := comesBefore s.toList t.toList

theorem comesBefore_irrefl (cs : List Char) : comesBefore cs cs = false := by
  induction cs with
  | nil => rfl
  | cons c cs ih => simp [comesBefore, ih]

theorem comesBefore_trans {as bs cs : List Char} (h : comesBefore as bs = true)
    (h' : comesBefore bs cs = true) : comesBefore as cs = true := by
  induction as generalizing bs cs with
  | nil =>
    cases cs with
    | nil => cases bs <;> simp [comesBefore] at h'
    | cons c cs => rfl
  | cons a as ih =>
    cases bs with
    | nil => simp [comesBefore] at h
    | cons b bs =>
      cases cs with
      | nil => simp [comesBefore] at h'
      | cons c cs =>
        simp only [comesBefore, Bool.or_eq_true, Bool.and_eq_true, decide_eq_true_eq] at h h' ⊢
        rcases h with lt | ⟨rfl, rest⟩
        · rcases h' with lt' | ⟨rfl, _⟩
          · exact .inl (Nat.lt_trans lt lt')
          · exact .inl lt
        · rcases h' with lt' | ⟨rfl, rest'⟩
          · exact .inl lt'
          · exact .inr ⟨rfl, ih rest rest'⟩

theorem eq_of_not_comesBefore {as bs : List Char} (h : comesBefore as bs = false)
    (h' : comesBefore bs as = false) : as = bs := by
  induction as generalizing bs with
  | nil =>
    cases bs with
    | nil => rfl
    | cons b bs => simp [comesBefore] at h
  | cons a as ih =>
    cases bs with
    | nil => simp [comesBefore] at h'
    | cons b bs =>
      simp only [comesBefore, Bool.or_eq_false_iff, decide_eq_false_iff_not] at h h'
      have same : a = b := Char.ext (UInt32.toNat_inj.1 (Nat.le_antisymm
        (Nat.not_lt.1 h'.1) (Nat.not_lt.1 h.1)))
      subst same
      rw [ih (by simpa using h.2) (by simpa using h'.2)]

theorem precedes_irrefl (s : String) : precedes s s = false := comesBefore_irrefl _

theorem precedes_trans {s t u : String} (h : precedes s t = true) (h' : precedes t u = true) :
    precedes s u = true :=
  comesBefore_trans h h'

theorem eq_of_not_precedes {s t : String} (h : precedes s t = false)
    (h' : precedes t s = false) : s = t :=
  String.toList_inj.1 (eq_of_not_comesBefore h h')

end Narrative.Text
