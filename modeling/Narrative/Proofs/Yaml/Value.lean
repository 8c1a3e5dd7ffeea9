/-
Module: Narrative.Proofs.Yaml.Value
Purpose: What is in a document, and why a value in it cannot be written in a message: only because of a
  number that is too long. Collections that are within themselves are no reason.
Main exports: Yaml.Document.Holds, Yaml.Document.HasLongNumber, Yaml.Document.IsEndless,
  Yaml.Document.isEndless_of_chain, Yaml.Document.hasLongNumber_of_literal?
-/
import Narrative.Proofs.Outcome
import Narrative.Proofs.Rounds
import Narrative.Yaml.Value.Literal

namespace Narrative.Yaml

/-- The whole numbers in a scalar: a number, or the bytes. -/
def Scalar.numbers : Scalar → List Int
  | .int value => [value]
  | .bytes value => value.map Int.ofNat
  | _ => []

/-- The values in a collection, with the keys and the members. -/
def Collection.values : Collection → List Value
  | .list items => items
  | .pairs items => items.flatMap fun (first, second) => [first, second]
  | .mapping entries => entries.flatMap fun (key, value) => [.scalar key, value]
  | .set members => members.map .scalar

namespace Document

variable {document : Document} {number : Nat} {value : Value}

/-- The value is in the collection with a number. -/
def Holds (document : Document) (outer : Nat) (value : Value) : Prop :=
  value ∈ (document.collection outer).values

/-- A number in the document has too many digits to be written. -/
def HasLongNumber (document : Document) : Prop :=
  ∃ outer scalar, document.Holds outer (.scalar scalar) ∧
    ∃ number ∈ scalar.numbers, Numeral.tenTo Numeral.maxDigits ≤ number.natAbs

/-- The one collection is in the other. -/
def Within (document : Document) (inner outer : Nat) : Prop := document.Holds outer (.collection inner)

/-- Some collection is within itself, if only through others. -/
def IsEndless (document : Document) : Prop :=
  ∃ number, Relation.TransGen document.Within number number

section

variable {outer : Nat}

theorem holds_of_item {items : List Value} (found : document.collection outer = .list items)
    (member : value ∈ items) : document.Holds outer value := by
  rw [Holds, found]
  exact member

theorem holds_of_pair {items : List (Value × Value)} (found : document.collection outer = .pairs items)
    {pair : Value × Value} (member : pair ∈ items) :
    document.Holds outer pair.1 ∧ document.Holds outer pair.2 := by
  unfold Holds
  rw [found]
  exact ⟨List.mem_flatMap.2 ⟨pair, member, by simp⟩, List.mem_flatMap.2 ⟨pair, member, by simp⟩⟩

theorem holds_of_entry {entries : List (Scalar × Value)}
    (found : document.collection outer = .mapping entries) {entry : Scalar × Value}
    (member : entry ∈ entries) :
    document.Holds outer (.scalar entry.1) ∧ document.Holds outer entry.2 := by
  unfold Holds
  rw [found]
  exact ⟨List.mem_flatMap.2 ⟨entry, member, by simp⟩, List.mem_flatMap.2 ⟨entry, member, by simp⟩⟩

theorem holds_of_member {members : List Scalar} (found : document.collection outer = .set members)
    {scalar : Scalar} (member : scalar ∈ members) : document.Holds outer (.scalar scalar) := by
  rw [Holds, found]
  exact List.mem_map_of_mem member

end

/-- What has no place among the collections is an empty list. -/
theorem lt_size_of_collection (other : document.collection number ≠ .list []) :
    number < document.collections.size := by
  by_contra beyond
  have nothing : document.collections[number]? = none := Array.getElem?_eq_none (Nat.le_of_not_lt beyond)
  exact other (by rw [collection, nothing, Option.getD_none])

theorem lt_size_of_holds {outer : Nat} (holds : document.Holds outer value) :
    outer < document.collections.size := by
  apply lt_size_of_collection
  intro empty
  simp [Holds, empty, Collection.values] at holds

/-- Different numbers of collections are no more than the collections. -/
theorem length_le_size {around : List Nat} (different : around.Nodup)
    (known : ∀ number ∈ around, number < document.collections.size) :
    around.length ≤ document.collections.size := by
  have bounded := length_le_of_nodup different fun number member => List.mem_range.2 (known number member)
  rwa [List.length_range] at bounded

/-- Of collections that each are in the next, more than there are, one is within itself. -/
theorem isEndless_of_chain {around : List Nat} (chain : around.IsChain document.Within)
    (known : ∀ number ∈ around, number < document.collections.size)
    (deep : document.collections.size < around.length) : document.IsEndless := by
  by_contra ends
  have different := nodup_of_isChain chain fun number _ round => ends ⟨number, round⟩
  exact absurd (length_le_size different known) (Nat.not_le_of_lt deep)

end Document

/-! ### Values that cannot be written -/

theorem exists_of_listText? {items : List (Option String)} (unwritten : listText? items = none) :
    none ∈ items := by
  obtain ⟨item, member, rfl⟩ := exists_of_mapM_eq_none (Option.map_eq_none_iff.1 unwritten)
  exact member

theorem exists_of_mappingText? {entries : List (Option String × Option String)}
    (unwritten : mappingText? entries = none) :
    ∃ entry ∈ entries, entry.1 = none ∨ entry.2 = none := by
  obtain ⟨entry, member, failed⟩ := exists_of_mapM_eq_none (Option.map_eq_none_iff.1 unwritten)
  refine ⟨entry, member, ?_⟩
  obtain ⟨key, value⟩ := entry
  cases key <;> cases value <;> simp_all

theorem writeWhole?_eq_none {number : Int} :
    Numeral.writeWhole? number = none ↔ Numeral.tenTo Numeral.maxDigits ≤ number.natAbs := by
  unfold Numeral.writeWhole?
  split <;> simp_all

/-- A scalar cannot be written only if it is a number that is too long. -/
theorem Scalar.long_of_inWords? {scalar : Scalar} (unwritten : scalar.inWords? = none) :
    ∃ number ∈ scalar.numbers, Numeral.tenTo Numeral.maxDigits ≤ number.natAbs := by
  cases scalar with
  | int value => exact ⟨value, List.mem_singleton_self value, writeWhole?_eq_none.1 unwritten⟩
  | _ => cases unwritten

theorem Scalar.long_of_literal? {scalar : Scalar} (unwritten : scalar.literal? = none) :
    ∃ number ∈ scalar.numbers, Numeral.tenTo Numeral.maxDigits ≤ number.natAbs := by
  cases scalar with
  | int value => exact Scalar.long_of_inWords? unwritten
  | _ => cases unwritten

theorem mem_of_mem_writtenOrder {members : List Scalar} {scalar : Scalar}
    (member : scalar ∈ writtenOrder members) : scalar ∈ members := by
  unfold writtenOrder at member
  split at member
  next numbers whole =>
    obtain ⟨number, listed, rfl⟩ := List.mem_map.1 member
    obtain ⟨other, among, same⟩ := exists_of_mapM_eq_some whole number (List.mem_mergeSort.1 listed)
    cases other with
    | int value =>
        cases same
        exact among
    | _ => cases same
  next => exact member

namespace Document

variable {document : Document} {outer : Nat}

theorem hasLongNumber_of_setText? {members : List Scalar}
    (found : document.collection outer = .set members) (unwritten : setText? members = none) :
    document.HasLongNumber := by
  unfold setText? at unwritten
  split at unwritten
  · cases unwritten
  · obtain ⟨scalar, member, failed⟩ := exists_of_mapM_eq_none (Option.map_eq_none_iff.1 unwritten)
    have holds := holds_of_member found (mem_of_mem_writtenOrder member)
    exact ⟨outer, scalar, holds, Scalar.long_of_literal? failed⟩

/-- The induction is on the depth: no collection is looked into again inside itself, so the depth is
enough for all. -/
theorem hasLongNumber_of_literalIn? {depth : Nat} {around : List Nat} {value : Value}
    (holds : document.Holds outer value) (different : around.Nodup)
    (known : ∀ number ∈ around, number < document.collections.size)
    (enough : document.collections.size < depth + around.length)
    (unwritten : document.literalIn? depth around value = none) : document.HasLongNumber := by
  induction depth generalizing outer around value with
  | zero =>
      have bounded := length_le_size different known
      omega
  | succ depth ih =>
      cases value with
      | scalar value => exact ⟨outer, value, holds, Scalar.long_of_literal? unwritten⟩
      | collection number =>
          -- What is in the collection is looked at with the collection around it.
          have inside : ∀ value, document.Holds number value → number ∉ around →
              document.literalIn? depth (number :: around) value = none → document.HasLongNumber := by
            intro value holds fresh failed
            refine ih holds (List.nodup_cons.2 ⟨fresh, different⟩) ?_ ?_ failed
            · exact List.forall_mem_cons.2 ⟨lt_size_of_holds holds, known⟩
            · rw [List.length_cons]
              omega
          unfold literalIn? at unwritten
          dsimp only at unwritten
          split at unwritten
          next items found =>
            split at unwritten
            · cases unwritten
            next fresh =>
              obtain ⟨item, member, failed⟩ := List.mem_map.1 (exists_of_listText? unwritten)
              exact inside item (holds_of_item found member) (by simpa using fresh) failed
          next items found =>
            split at unwritten
            · cases unwritten
            next fresh =>
              have fresh : number ∉ around := by simpa using fresh
              obtain ⟨pair, member, failed⟩ := List.mem_map.1 (exists_of_listText? unwritten)
              obtain ⟨first, second⟩ := holds_of_pair found member
              cases written : document.literalIn? depth (number :: around) pair.1 with
              | none => exact inside pair.1 first fresh written
              | some text =>
                  refine inside pair.2 second fresh ?_
                  cases other : document.literalIn? depth (number :: around) pair.2 with
                  | none => rfl
                  | some _ => simp [written, other] at failed
          next entries found =>
            split at unwritten
            · cases unwritten
            next fresh =>
              obtain ⟨_, listed, failed⟩ := exists_of_mappingText? unwritten
              obtain ⟨entry, member, rfl⟩ := List.mem_map.1 listed
              obtain ⟨key, value⟩ := holds_of_entry found member
              obtain failed | failed := failed
              · exact ⟨number, entry.1, key, Scalar.long_of_literal? failed⟩
              · exact inside entry.2 value (by simpa using fresh) failed
          next members found => exact hasLongNumber_of_setText? found unwritten

/-- A value in a document cannot be written only if a number in the document is too long. -/
theorem hasLongNumber_of_literal? {value : Value} (holds : document.Holds outer value)
    (unwritten : document.literal? value = none) : document.HasLongNumber := by
  apply hasLongNumber_of_literalIn? holds List.nodup_nil (List.forall_mem_nil _) ?_ unwritten
  unfold depth
  omega

theorem hasLongNumber_of_inWords? {value : Value} (holds : document.Holds outer value)
    (unwritten : document.inWords? value = none) : document.HasLongNumber := by
  cases value with
  | scalar value => exact ⟨outer, value, holds, Scalar.long_of_inWords? unwritten⟩
  | collection number => exact hasLongNumber_of_literal? holds unwritten

end Document

end Narrative.Yaml
