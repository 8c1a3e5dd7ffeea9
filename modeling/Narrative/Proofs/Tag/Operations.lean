/-
Module: Narrative.Proofs.Tag.Operations
Purpose: Sets of tags and the finite sets that they stand for. Every operation does to the listing what
  it does to the finite set, and its flag says whether the finite set has changed; the listing has the
  members in the order of their code points, so it is the same after all operations that lead to one set.
Main exports: Text.codePoints, Text.precedes_iff, TagSet.members, Manipulation.onMembers,
  TagSet.members_apply, TagSet.Operation, TagSet.operateAll, TagSet.members_operateAll,
  TagSet.operations_refine
-/
import Mathlib.Data.Finset.Card
import Mathlib.Data.Finset.SymmDiff
import Narrative.Proofs.Tag.Listing

namespace Narrative

/-! ### The order of listings -/

namespace Text

/-- The code points of a text. -/
def codePoints (text : String) : List Nat := text.toList.map Char.toNat

theorem comesBefore_iff {as bs : List Char} :
    comesBefore as bs = true ↔ as.map Char.toNat < bs.map Char.toNat := by
  induction as generalizing bs with
  | nil => cases bs <;> simp [comesBefore]
  | cons a as ih =>
      cases bs with
      | nil => simp [comesBefore]
      | cons b bs =>
          simp only [comesBefore, Bool.or_eq_true, Bool.and_eq_true, decide_eq_true_eq, List.map_cons,
            List.cons_lt_cons_iff, Char.toNat_inj, ih]

/-- One text comes before another if its code points do, compared from the first on. -/
theorem precedes_iff {s t : String} : precedes s t = true ↔ codePoints s < codePoints t :=
  comesBefore_iff

end Text

namespace TagSet

variable {set : TagSet} {tag : String}

/-! ### Members -/

/-- The finite set that a set of tags stands for. -/
def members (set : TagSet) : Finset String := set.toList.toFinset

@[simp] theorem mem_members : tag ∈ set.members ↔ tag ∈ set := List.mem_toFinset

theorem members_inj {one other : TagSet} : one.members = other.members ↔ one = other := by
  constructor
  · intro same
    refine eq_of_mem_iff fun tag => ?_
    rw [← mem_members, same, mem_members]
  · rintro rfl
    rfl

theorem members_ofList (tags : List String) : (ofList tags).members = tags.toFinset := by
  ext tag
  rw [mem_members, mem_ofList, List.mem_toFinset]

/-- No member is listed twice. -/
theorem nodup_toList (set : TagSet) : set.toList.Nodup := by
  refine set.increasing.imp ?_
  rintro s _ less rfl
  simp [Text.precedes_irrefl] at less

theorem card_members (set : TagSet) : set.members.card = set.size :=
  List.toFinset_card_of_nodup set.nodup_toList

end TagSet

/-! ### One operation -/

/-- What a manipulation of a tag makes of a finite set: the tag joins it, leaves it, or does the one of
these that changes it. -/
def Manipulation.onMembers (tag : String) (members : Finset String) : Manipulation → Finset String
  | .add => insert tag members
  | .remove => members.erase tag
  | .invert => symmDiff members {tag}

namespace TagSet

variable {set : TagSet} {tag : String}

/-- A manipulation does to the members what it does to a finite set. -/
theorem members_apply (set : TagSet) (tag : String) (manipulation : Manipulation) :
    (set.apply tag manipulation).1.members = manipulation.onMembers tag set.members := by
  ext other
  cases manipulation <;> by_cases member : tag ∈ set <;> by_cases same : other = tag <;>
    simp [apply, add, remove, Manipulation.onMembers, Finset.mem_symmDiff, member, same]

/-- Its flag says whether the finite set has changed. -/
theorem flag_apply (set : TagSet) (tag : String) (manipulation : Manipulation) :
    (set.apply tag manipulation).2 =
      decide (manipulation.onMembers tag set.members ≠ set.members) := by
  cases manipulation <;> by_cases member : tag ∈ set <;>
    simp [apply, add, remove, Manipulation.onMembers, member]

/-- To toggle a tag twice is to do nothing. -/
theorem invert_invert (set : TagSet) (tag : String) :
    ((set.apply tag .invert).1.apply tag .invert).1 = set := by
  rw [← members_inj, members_apply, members_apply]
  exact symmDiff_symmDiff_cancel_right {tag} set.members

/-! ### Operations one after the other -/

/-- An operation on a set of tags. -/
inductive Operation where
  | add (tag : String)
  | discard (tag : String)
  | apply (tag : String) (manipulation : Manipulation)
deriving Repr, DecidableEq

/-- The set after an operation; the flag says whether it has changed. -/
def operate (set : TagSet) : Operation → TagSet × Bool
  | .add tag => set.add tag
  | .discard tag => set.remove tag
  | .apply tag manipulation => set.apply tag manipulation

/-- The set after operations, with the flag of each. -/
def operateAll : TagSet → List Operation → TagSet × List Bool
  | set, [] => (set, [])
  | set, operation :: rest =>
    let (next, changed) := set.operate operation
    let (last, flags) := next.operateAll rest
    (last, changed :: flags)

/-- What an operation makes of a finite set. -/
def Operation.onMembers (members : Finset String) : Operation → Finset String
  | .add tag => Insert.insert tag members
  | .discard tag => members.erase tag
  | .apply tag manipulation => manipulation.onMembers tag members

/-- Which of some operations change a finite set, one after the other. -/
def changes : Finset String → List Operation → List Bool
  | _, [] => []
  | members, operation :: rest =>
    decide (operation.onMembers members ≠ members) :: changes (operation.onMembers members) rest

theorem members_operate (set : TagSet) (operation : Operation) :
    (set.operate operation).1.members = operation.onMembers set.members := by
  cases operation with
  | add tag => exact members_apply set tag .add
  | discard tag => exact members_apply set tag .remove
  | apply tag manipulation => exact members_apply set tag manipulation

theorem flag_operate (set : TagSet) (operation : Operation) :
    (set.operate operation).2 = decide (operation.onMembers set.members ≠ set.members) := by
  cases operation with
  | add tag => exact flag_apply set tag .add
  | discard tag => exact flag_apply set tag .remove
  | apply tag manipulation => exact flag_apply set tag manipulation

/-- Operations do to the members, one after the other, what they do to a finite set. -/
theorem members_operateAll (set : TagSet) (operations : List Operation) :
    (set.operateAll operations).1.members = operations.foldl Operation.onMembers set.members := by
  induction operations generalizing set with
  | nil => rfl
  | cons operation rest ih =>
      rw [List.foldl_cons, ← members_operate]
      exact ih (set.operate operation).1

/-- Their flags say which of them have changed it. -/
theorem flags_operateAll (set : TagSet) (operations : List Operation) :
    (set.operateAll operations).2 = changes set.members operations := by
  induction operations generalizing set with
  | nil => rfl
  | cons operation rest ih =>
      rw [changes, ← flag_operate, ← members_operate, ← ih]
      rfl

/-- Whatever a set of tags begins with and whatever is done to it, it stands for the finite set that the
same operations lead to. It lists just the members, each once and in the order of their code points; its
size is their number; each operation has said whether it changed them; and to toggle a tag twice changes
nothing. Two sets are the same exactly if their listings are, and that is exactly if their members are,
however they came to them. -/
theorem operations_refine (initial : List String) (operations : List Operation) :
    let set := ((ofList initial).operateAll operations).1
    let members := operations.foldl Operation.onMembers initial.toFinset
    (∀ tag, tag ∈ set.toList ↔ tag ∈ members) ∧
    set.toList.Pairwise (fun s t => Text.codePoints s < Text.codePoints t) ∧ set.toList.Nodup ∧
    (∀ tag, tag ∈ set ↔ tag ∈ members) ∧ set.size = members.card ∧
    ((ofList initial).operateAll operations).2 = changes initial.toFinset operations ∧
    (∀ tag, ((set.apply tag .invert).1.apply tag .invert).1 = set) ∧
    ∀ otherInitial otherOperations,
      let other := ((ofList otherInitial).operateAll otherOperations).1
      (set = other ↔ set.toList = other.toList) ∧
      (set.toList = other.toList ↔
        members = otherOperations.foldl Operation.onMembers otherInitial.toFinset) := by
  intro set members
  have stands (initial : List String) (operations : List Operation) :
      ((ofList initial).operateAll operations).1.members =
        operations.foldl Operation.onMembers initial.toFinset := by
    rw [members_operateAll, members_ofList]
  have inside (tag : String) : tag ∈ set ↔ tag ∈ members := by
    rw [← mem_members]
    exact iff_of_eq (congrArg (tag ∈ ·) (stands initial operations))
  refine ⟨inside, set.increasing.imp Text.precedes_iff.1, set.nodup_toList, inside, ?_, ?_,
    set.invert_invert, ?_⟩
  · rw [← card_members]
    exact congrArg Finset.card (stands initial operations)
  · rw [flags_operateAll, members_ofList]
  · intro otherInitial otherOperations other
    have listing : set = other ↔ set.toList = other.toList := ⟨congrArg toList, ext⟩
    refine ⟨listing, ?_⟩
    rw [← listing, ← members_inj]
    exact iff_of_eq (congrArg₂ (· = ·) (stands initial operations) (stands otherInitial otherOperations))

/-- A set that began with a repetition, and in which a tag was toggled, added again and discarded. -/
example : ((ofList ["b", "a", "b"]).operateAll
      [.apply "c" .invert, .add "c", .discard "b", .discard "b"]).2 = [true, false, true, false] ∧
    ((ofList ["b", "a", "b"]).operateAll
      [.apply "c" .invert, .add "c", .discard "b", .discard "b"]).1.toList = ["a", "c"] := by
  decide +kernel

end TagSet

end Narrative
