/-
Module: Narrative.Proofs.World.Fields
Purpose: Reading the definition of a world from a document fails for reasons that lie in the document. A
  message cannot be written only if a number is too long, and a part has no end only if it is within
  itself.
Main exports: SchemaFault.Excused, Model.Careful, Model.Nested, Model.World.careful_ofFields
-/
import Narrative.Proofs.Outcome
import Narrative.Proofs.Yaml.Value
import Narrative.World.Load

namespace Narrative

open Yaml (Scalar Value Document)

/-- What the fault says of the document is so: a number is too long, or a collection is within itself. -/
structure SchemaFault.Excused (document : Document) (fault : SchemaFault) : Prop where
  long : fault = .unwritable → document.HasLongNumber
  within : fault = .endless → document.IsEndless

namespace SchemaFault

variable {document : Document} {fault : SchemaFault}

theorem Excused.under (excused : fault.Excused document) (field : String) :
    (fault.under field).Excused document := by
  cases fault with
  | unwritable => exact excused
  | endless => exact excused
  | notAPair position => exact excused
  | _ => exact ⟨nofun, nofun⟩

end SchemaFault

namespace Model

variable {α β : Type} {document : Document}

/-- From the document the reading gives only what it should, and its faults are excused. -/
structure Careful (document : Document) (Gives : α → Prop) (loading : Loading α) : Prop where
  gives : ∀ value, loading document = .ok value → Gives value
  excused : ∀ fault, loading document = .error fault → fault.Excused document

namespace Careful

variable {Gives : α → Prop} {Then : β → Prop}

theorem pure {value : α} (gives : Gives value) :
    Careful document Gives (Pure.pure value : Loading α) := by
  constructor
  · rintro _ ⟨⟩
    exact gives
  · rintro _ ⟨⟩

theorem throw {fault : SchemaFault} (excused : fault.Excused document) :
    Careful document Gives (MonadExcept.throw fault : Loading α) := by
  constructor
  · rintro _ ⟨⟩
  · rintro _ ⟨⟩
    exact excused

theorem bind {loading : Loading α} {next : α → Loading β} (first : Careful document Gives loading)
    (continues : ∀ value, Gives value → Careful document Then (next value)) :
    Careful document Then (loading >>= next) := by
  have run : (loading >>= next) document = loading document >>= fun value => next value document := rfl
  constructor
  · intro result done
    rw [run] at done
    obtain ⟨value, read, later⟩ := bind_eq_ok.1 done
    exact (continues value (first.gives value read)).gives result later
  · intro fault failed
    rw [run] at failed
    obtain failed | ⟨value, read, later⟩ := bind_eq_error.1 failed
    · exact first.excused fault failed
    · exact (continues value (first.gives value read)).excused fault later

/-- The document that is asked for is the one that is read. -/
theorem read_bind {next : Document → Loading α} (continues : Careful document Gives (next document)) :
    Careful document Gives (read >>= next) := ⟨continues.gives, continues.excused⟩

theorem imp {loading : Loading α} {Wider : α → Prop} (careful : Careful document Gives loading)
    (wider : ∀ value, Gives value → Wider value) : Careful document Wider loading :=
  ⟨fun value read => wider value (careful.gives value read), careful.excused⟩

theorem under {loading : Loading α} (careful : Careful document Gives loading) (field : String) :
    Careful document Gives (loading.under field) := by
  constructor
  · intro value read
    exact careful.gives value (mapError_eq_ok.1 read)
  · intro fault failed
    obtain ⟨inner, refused, rfl⟩ := mapError_eq_error.1 failed
    exact (careful.excused inner refused).under field

theorem mapM {step : β → Loading α} {entries : List β}
    (each : ∀ entry ∈ entries, Careful document Gives (step entry)) :
    Careful document (fun results => ∀ result ∈ results, Gives result) (entries.mapM step) := by
  induction entries with
  | nil => exact .pure (List.forall_mem_nil _)
  | cons entry rest ih =>
      obtain ⟨first, others⟩ := List.forall_mem_cons.1 each
      rw [List.mapM_cons]
      refine first.bind fun value gives => (ih others).bind fun values given => ?_
      exact .pure (List.forall_mem_cons.2 ⟨gives, given⟩)

end Careful

/-! ### Fields of a mapping in the document -/

section

variable {fields : Fields} {number : Nat} (found : document.collection number = .mapping fields)

include found

theorem holds_of_value? {name : String} {value : Value} (there : fields.value? name = some value) :
    document.Holds number value := by
  obtain ⟨before, after, rfl, _⟩ := List.lookup_eq_some_iff.1 there
  exact (Document.holds_of_entry found (List.mem_append_right before List.mem_cons_self)).2

omit found in
theorem careful_wrongType {Gives : α → Prop} {field expected : String} {value : Value}
    (holds : document.Holds number value) :
    Careful document Gives (Loading.wrongType field expected value : Loading α) := by
  unfold Loading.wrongType
  constructor
  · intro result refused
    split at refused <;> cases refused
  · intro fault refused
    split at refused
    · cases refused
      exact ⟨nofun, nofun⟩
    next unwritten =>
      cases refused
      exact ⟨fun _ => Document.hasLongNumber_of_inWords? holds unwritten, nofun⟩

theorem careful_checkKeys (names : List String) :
    Careful document (fun _ => True) (fields.checkKeys names) := by
  unfold Fields.checkKeys
  dsimp only
  split
  · exact .pure trivial
  · split
    · exact .throw ⟨nofun, nofun⟩
    next unwritten =>
      obtain ⟨key, member, failed⟩ := exists_of_mapM_eq_none unwritten
      obtain ⟨⟨key, value⟩, listed, rfl⟩ := List.mem_map.1 (List.mem_filter.1 member).1
      have holds := (Document.holds_of_entry found listed).1
      exact .throw ⟨fun _ => ⟨number, key, holds, Scalar.long_of_inWords? failed⟩, nofun⟩

theorem careful_requiredText (name : String) :
    Careful document (fun _ => True) (fields.requiredText name) := by
  unfold Fields.requiredText
  split
  · exact .pure trivial
  next there => exact careful_wrongType (holds_of_value? found there)
  · exact .throw ⟨nofun, nofun⟩

theorem careful_textOr (usual name : String) :
    Careful document (fun _ => True) (fields.textOr usual name) := by
  unfold Fields.textOr
  split
  · exact .pure trivial
  · exact .pure trivial
  next there => exact careful_wrongType (holds_of_value? found there)

theorem careful_text? (name : String) : Careful document (fun _ => True) (fields.text? name) := by
  unfold Fields.text?
  split
  · exact .pure trivial
  · exact .pure trivial
  · exact .pure trivial
  next there => exact careful_wrongType (holds_of_value? found there)

theorem careful_truth (name : String) : Careful document (fun _ => True) (fields.truth name) := by
  unfold Fields.truth
  split
  · exact .pure trivial
  · exact .pure trivial
  next there => exact careful_wrongType (holds_of_value? found there)

theorem careful_tally (name : String) :
    Careful document (fun tally => tally.written? = none → document.HasLongNumber)
      (fields.tally name) := by
  unfold Fields.tally
  split
  · exact .pure fun unwritten => absurd unwritten (by decide +kernel)
  next value there =>
    refine .pure fun unwritten => ⟨number, .int value, holds_of_value? found there, value, ?_, ?_⟩
    · exact List.mem_singleton_self value
    · exact Yaml.writeWhole?_eq_none.1 unwritten
  · exact .pure nofun
  next there => exact careful_wrongType (holds_of_value? found there)

omit found in
theorem careful_tags? (name : String) : Careful document (fun _ => True) (fields.tags? name) := by
  unfold Fields.tags?
  apply Careful.read_bind
  dsimp only
  split
  · exact .pure trivial
  · exact .pure trivial
  · exact .pure trivial
  · exact .throw ⟨nofun, nofun⟩
  · split
    · exact .pure trivial
    · split
      · exact .pure trivial
      · exact .throw ⟨nofun, nofun⟩
    · exact .throw ⟨nofun, nofun⟩

omit found in
theorem careful_correlation (name : String) :
    Careful document (fun _ => True) (fields.correlation name) := by
  unfold Fields.correlation
  split
  · exact .pure trivial
  · dsimp only
    split_ifs
    · exact .pure trivial
    · exact .pure trivial
    · apply Careful.read_bind
      split
      · exact .throw ⟨nofun, nofun⟩
      · exact .throw ⟨nofun, nofun⟩

end

/-! ### Lists of parts -/

/-- If the part cannot be written, a number in the document is too long. -/
def Writable (document : Document) (literal? : α → Option String) (part : α) : Prop :=
  literal? part = none → document.HasLongNumber

/-- What an item of a list is read as: a part that can be written, or a value that is in the list. -/
def Known (document : Document) (literal? : α → Option String) (outer : Nat) : α ⊕ Value → Prop :=
  Sum.elim (Writable document literal?) (document.Holds outer)

theorem careful_wrongText {Gives : α → Prop} {field expected typeName : String}
    {found? : Option String} (long : found? = none → document.HasLongNumber) :
    Careful document Gives (Loading.wrongText field expected typeName found? : Loading α) := by
  unfold Loading.wrongText
  split
  · exact .throw ⟨nofun, nofun⟩
  · exact .throw ⟨fun _ => long rfl, nofun⟩

theorem exists_of_mapping? {value : Value} {fields : Fields}
    (mapped : document.mapping? value = some fields) :
    ∃ number, value = .collection number ∧ document.collection number = .mapping fields := by
  cases value with
  | scalar value => cases mapped
  | collection number =>
      unfold Document.mapping? at mapped
      dsimp only at mapped
      split at mapped
      next entries found =>
        cases mapped
        exact ⟨number, rfl, found⟩
      next => cases mapped

/-- The parts in a list in the document are read with care if each mapping in it is. -/
theorem careful_partsOf {read : Fields → Loading α} {literal? : α → Option String} {name : String}
    {outer : Nat} {items : List Value} (holds : ∀ item ∈ items, document.Holds outer item)
    (each : ∀ inner fields, document.Within inner outer →
      document.collection inner = .mapping fields →
        Careful document (Writable document literal?) (read fields)) :
    Careful document (fun parts => ∀ part ∈ parts, Writable document literal? part)
      (Fields.partsOf read literal? name items) := by
  unfold Fields.partsOf
  apply Careful.read_bind
  refine Careful.bind (?readings : Careful document
    (fun readings => ∀ reading ∈ readings, Known document literal? outer reading) _) ?parts
  case readings =>
    apply Careful.mapM
    intro item member
    split
    next fields mapped =>
      obtain ⟨inner, rfl, found⟩ := exists_of_mapping? mapped
      have careful := (each inner fields (holds _ member) found).under name
      have run : (Sum.inl <$> (read fields).under name : Loading (α ⊕ Value)) =
          (read fields).under name >>= fun part => Pure.pure (Sum.inl part) := rfl
      rw [run]
      exact careful.bind fun part writable => .pure writable
    next => exact .pure (holds item member)
  case parts =>
    intro readings given
    split
    next parts all =>
      refine .pure fun part member => ?_
      obtain ⟨reading, listed, same⟩ := exists_of_mapM_eq_some all part member
      have known := given reading listed
      cases reading with
      | inl other =>
          cases same
          exact known
      | inr item => cases same
    next =>
      refine careful_wrongText fun unwritten => ?_
      obtain ⟨reading, listed, failed⟩ := List.mem_map.1 (Yaml.exists_of_listText? unwritten)
      have known := given reading listed
      cases reading with
      | inl part => exact known failed
      | inr item => exact Document.hasLongNumber_of_literal? known failed

/-- What is made of keys that are taken for pairs are keys and values that can be written, but for bytes
that are too long. -/
theorem careful_pairsOfKeys {outer : Nat} {keys : List Scalar} {position : Nat}
    (holds : ∀ key ∈ keys, document.Holds outer (.scalar key)) :
    Careful document (fun pairs => ∀ pair ∈ pairs,
      Writable document Scalar.literal? pair.1 ∧ Writable document document.literal? pair.2)
      (Fields.pairsOfKeys position keys) := by
  induction keys generalizing position with
  | nil => exact .pure (List.forall_mem_nil _)
  | cons key keys ih =>
      obtain ⟨first, others⟩ := List.forall_mem_cons.1 holds
      unfold Fields.pairsOfKeys
      dsimp only
      split
      next text =>
        split
        next entry made =>
          split at made
          next => 
            cases made
            refine (ih others).bind fun pairs given => .pure (List.forall_mem_cons.2 ⟨⟨?_, ?_⟩, given⟩)
            · nofun
            · nofun
          next => cases made
        next => exact .throw ⟨nofun, nofun⟩
      next bytes =>
        split
        next entry made =>
          split at made
          next a b =>
            cases made
            have long : ∀ byte ∈ [a, b], (Scalar.int byte).literal? = none → document.HasLongNumber :=
              fun byte member unwritten => ⟨outer, .bytes [a, b], first, byte,
                List.mem_map_of_mem member, Yaml.writeWhole?_eq_none.1 unwritten⟩
            refine (ih others).bind fun pairs given => .pure (List.forall_mem_cons.2 ⟨⟨?_, ?_⟩, given⟩)
            · exact long a (by simp)
            · exact long b (by simp)
          next => cases made
        next => exact .throw ⟨nofun, nofun⟩
      next => exact .throw ⟨nofun, nofun⟩

/-- What holds of the keys and the values of entries holds of them after another entry was put in. -/
theorem forall_putEntry {Key : Scalar → Prop} {Held : Value → Prop} {key : Scalar} {value : Value}
    (fits : Key key ∧ Held value) {entries : List (Scalar × Value)}
    (all : ∀ entry ∈ entries, Key entry.1 ∧ Held entry.2) :
    ∀ entry ∈ Yaml.putEntry key value entries, Key entry.1 ∧ Held entry.2 := by
  induction entries with
  | nil => exact List.forall_mem_singleton.2 fits
  | cons entry rest ih =>
      obtain ⟨first, others⟩ := List.forall_mem_cons.1 all
      unfold Yaml.putEntry
      split
      · exact List.forall_mem_cons.2 ⟨⟨first.1, fits.2⟩, others⟩
      · exact List.forall_mem_cons.2 ⟨first, ih others⟩

theorem forall_foldl_putEntry {Key : Scalar → Prop} {Held : Value → Prop}
    {pairs entries : List (Scalar × Value)} (fit : ∀ pair ∈ pairs, Key pair.1 ∧ Held pair.2)
    (all : ∀ entry ∈ entries, Key entry.1 ∧ Held entry.2) :
    ∀ entry ∈ pairs.foldl (fun made (key, value) => Yaml.putEntry key value made) entries,
      Key entry.1 ∧ Held entry.2 := by
  induction pairs generalizing entries with
  | nil => exact all
  | cons pair rest ih =>
      obtain ⟨first, others⟩ := List.forall_mem_cons.1 fit
      exact ih others (forall_putEntry first all)

/-- The parts in the list of a field are read with care if each mapping in it is. -/
theorem careful_listOf {fields : Fields} {number : Nat}
    (found : document.collection number = .mapping fields) {read : Fields → Loading α}
    {literal? : α → Option String}
    (each : ∀ inner list innerFields, document.Within inner list → document.Within list number →
      document.collection inner = .mapping innerFields →
        Careful document (Writable document literal?) (read innerFields)) (name : String) :
    Careful document (fun parts => ∀ part ∈ parts, Writable document literal? part)
      (fields.listOf read literal? name) := by
  unfold Fields.listOf
  apply Careful.read_bind
  split
  next => exact .pure (List.forall_mem_nil _)
  next value there => exact careful_wrongType (holds_of_value? found there)
  next list there =>
    have within : document.Within list number := holds_of_value? found there
    split
    next items listed =>
      exact careful_partsOf (fun _ => Document.holds_of_item listed)
        fun inner innerFields inside => each inner list innerFields inside within
    next => exact .pure (List.forall_mem_nil _)
    next entries listed =>
      have holds : ∀ key ∈ entries.map (·.1), document.Holds list (.scalar key) := by
        intro key member
        obtain ⟨⟨_, value⟩, among, rfl⟩ := List.mem_map.1 member
        exact (Document.holds_of_entry listed among).1
      refine (careful_pairsOfKeys holds).bind fun pairs given => ?_
      refine careful_wrongText fun unwritten => ?_
      obtain ⟨_, shown, failed⟩ := Yaml.exists_of_mappingText? unwritten
      obtain ⟨entry, member, rfl⟩ := List.mem_map.1 shown
      obtain ⟨key, value⟩ := forall_foldl_putEntry given (List.forall_mem_nil _) entry member
      exact failed.elim key value
    next => exact careful_wrongType within

/-! ### Parts that can be written -/

theorem hasLongNumber_of_recordText? {name : String} {texts : List (String × Option String)}
    (fields : ∀ field ∈ texts, Writable document Prod.snd field) (unwritten : recordText? name texts = none) :
    document.HasLongNumber := by
  obtain ⟨field, member, failed⟩ := exists_of_mapM_eq_none (Option.map_eq_none_iff.1 unwritten)
  refine fields field member ?_
  cases shown : field.2 with
  | none => rfl
  | some text => simp [shown] at failed

theorem writable_listText? {literal? : α → Option String} {parts : List α} {name : String}
    (all : ∀ part ∈ parts, Writable document literal? part) :
    Writable document Prod.snd (name, Yaml.listText? (parts.map literal?)) := by
  intro unwritten
  obtain ⟨part, member, failed⟩ := List.mem_map.1 (Yaml.exists_of_listText? unwritten)
  exact all part member failed

theorem descriptorLiterals_eq_map (descriptors : List Descriptor) :
    descriptorLiterals descriptors = descriptors.map (·.literal?) := by
  induction descriptors with
  | nil => rfl
  | cons descriptor rest ih => rw [descriptorLiterals, ih, List.map_cons]

theorem locationLiterals_eq_map (locations : List Location) :
    locationLiterals locations = locations.map (·.literal?) := by
  induction locations with
  | nil => rfl
  | cons location rest ih => rw [locationLiterals, ih, List.map_cons]

/-- The numbers of a passage are from the document. -/
def Passage.Fits (document : Document) (passage : Passage) : Prop :=
  ∀ field ∈ passage.fieldTexts, Writable document Prod.snd field

theorem writable_descriptors {descriptors : List Descriptor}
    (all : ∀ part ∈ descriptors, Writable document (·.literal?) part) :
    Writable document Prod.snd (descriptorsField descriptors) := by
  unfold descriptorsField
  rw [descriptorLiterals_eq_map]
  exact writable_listText? all

theorem careful_passage {fields : Fields} {number : Nat}
    (found : document.collection number = .mapping fields) :
    Careful document (Passage.Fits document) (Passage.ofFields fields) := by
  unfold Passage.ofFields
  refine (careful_text? found _).bind fun description? _ => ?_
  refine (careful_text? found _).bind fun requires? _ => ?_
  refine (careful_text? found _).bind fun impact? _ => ?_
  refine (careful_tally found _).bind fun limit long => ?_
  refine (careful_tally found _).bind fun evaluations longer => ?_
  refine .pure ?_
  simp only [Passage.Fits, Passage.fieldTexts, List.forall_mem_cons]
  exact ⟨nofun, nofun, nofun, long, longer, List.forall_mem_nil _⟩

/-! ### Parts within one another -/

/-- The mapping with a number has the fields, and it lies so deep in others that the depth which is left
is not enough only if one of them is within itself. -/
structure Nested (document : Document) (depth number : Nat) (fields : Fields) : Prop where
  found : document.collection number = .mapping fields
  deep : ∃ around, (number :: around).IsChain document.Within ∧
    (∀ other ∈ number :: around, other < document.collections.size) ∧
    document.collections.size < depth + (number :: around).length

namespace Nested

variable {depth number : Nat} {fields : Fields}

theorem isEndless (nested : Nested document 0 number fields) : document.IsEndless := by
  obtain ⟨around, chain, known, deep⟩ := nested.deep
  exact Document.isEndless_of_chain chain known (by omega)

theorem inner (nested : Nested document depth number fields) {less inner list : Nat}
    (fewer : depth ≤ less + 1) {innerFields : Fields} (inside : document.Within inner list)
    (within : document.Within list number) (found : document.collection inner = .mapping innerFields) :
    Nested document less inner innerFields := by
  obtain ⟨around, chain, known, deep⟩ := nested.deep
  refine ⟨found, list :: number :: around, ?_, ?_, ?_⟩
  · exact List.isChain_cons_cons.2 ⟨inside, List.isChain_cons_cons.2 ⟨within, chain⟩⟩
  · refine List.forall_mem_cons.2 ⟨?_, List.forall_mem_cons.2 ⟨?_, known⟩⟩
    · exact Document.lt_size_of_collection (by rw [found]; nofun)
    · exact Document.lt_size_of_holds inside
  · simp only [List.length_cons] at deep ⊢
    omega

end Nested

theorem careful_descriptor {depth number : Nat} {fields : Fields}
    (nested : Nested document depth number fields) :
    Careful document (Writable document (·.literal?)) (Descriptor.ofFields depth fields) := by
  induction depth generalizing number fields with
  | zero => exact .throw ⟨nofun, fun _ => nested.isEndless⟩
  | succ depth ih =>
      unfold Descriptor.ofFields
      refine (careful_checkKeys nested.found _).bind fun _ _ => ?_
      refine (careful_passage nested.found).bind fun passage fits => ?_
      refine (careful_correlation _).bind fun correlation _ => ?_
      refine (careful_listOf nested.found ?_ _).bind fun descriptors all => .pure ?_
      · intro inner list innerFields inside within found
        exact ih (nested.inner (Nat.le_refl _) inside within found)
      · intro unwritten
        unfold Descriptor.literal? at unwritten
        refine hasLongNumber_of_recordText? ?_ unwritten
        rw [descriptorLiterals_eq_map]
        refine List.forall_mem_append.2 ⟨fits, List.forall_mem_cons.2 ⟨nofun, ?_⟩⟩
        exact List.forall_mem_singleton.2 (writable_listText? all)

/-- The descriptors of a part are read with care. -/
theorem careful_descriptors {depth less number : Nat} {fields : Fields}
    (nested : Nested document depth number fields) (fewer : depth ≤ less + 1) :
    Careful document (fun parts => ∀ part ∈ parts, Writable document (·.literal?) part)
      (fields.listOf (Descriptor.ofFields less) (·.literal?) "descriptors") :=
  careful_listOf nested.found (fun _ _ _ inside within found =>
    careful_descriptor (nested.inner fewer inside within found)) _

theorem careful_interaction {depth number : Nat} {fields : Fields}
    (nested : Nested document depth number fields) :
    Careful document (Writable document (·.literal?)) (Interaction.ofFields depth fields) := by
  unfold Interaction.ofFields
  refine (careful_checkKeys nested.found _).bind fun _ _ => ?_
  refine (careful_requiredText nested.found _).bind fun name _ => ?_
  refine (careful_passage nested.found).bind fun passage fits => ?_
  refine (careful_descriptors nested (Nat.le_succ _)).bind fun descriptors all => .pure ?_
  refine hasLongNumber_of_recordText? (List.forall_mem_cons.2 ⟨nofun, ?_⟩)
  exact List.forall_mem_append.2 ⟨fits, List.forall_mem_singleton.2 (writable_descriptors all)⟩

theorem careful_combination {depth number : Nat} {fields : Fields}
    (nested : Nested document depth number fields) :
    Careful document (Writable document (·.literal?)) (Combination.ofFields depth fields) := by
  unfold Combination.ofFields
  refine (careful_checkKeys nested.found _).bind fun _ _ => ?_
  refine (careful_requiredText nested.found _).bind fun item _ => ?_
  refine (careful_passage nested.found).bind fun passage fits => ?_
  refine (careful_descriptors nested (Nat.le_succ _)).bind fun descriptors all => .pure ?_
  refine hasLongNumber_of_recordText? (List.forall_mem_cons.2 ⟨nofun, ?_⟩)
  exact List.forall_mem_append.2 ⟨fits, List.forall_mem_singleton.2 (writable_descriptors all)⟩

/-- The combinations of a part are read with care. -/
theorem careful_combinations {depth less number : Nat} {fields : Fields}
    (nested : Nested document depth number fields) (fewer : depth ≤ less + 1) :
    Careful document (fun parts => ∀ part ∈ parts, Writable document (·.literal?) part)
      (fields.listOf (Combination.ofFields less) (·.literal?) "combinations") :=
  careful_listOf nested.found (fun _ _ _ inside within found =>
    careful_combination (nested.inner fewer inside within found)) _

theorem careful_item {depth number : Nat} {fields : Fields}
    (nested : Nested document depth number fields) :
    Careful document (Writable document (·.literal?)) (Item.ofFields depth fields) := by
  unfold Item.ofFields
  refine (careful_checkKeys nested.found _).bind fun _ _ => ?_
  refine (careful_requiredText nested.found _).bind fun name _ => ?_
  refine (careful_text? nested.found _).bind fun key? _ => ?_
  refine (careful_tags? _).bind fun tags? _ => ?_
  refine (careful_passage nested.found).bind fun passage fits => ?_
  refine (careful_descriptors nested (Nat.le_succ _)).bind fun descriptors all => ?_
  refine (careful_combinations nested (Nat.le_succ _)).bind fun combinations every => .pure ?_
  refine hasLongNumber_of_recordText? ?_
  simp only [List.forall_mem_append, List.forall_mem_cons]
  exact ⟨⟨⟨nofun, nofun, nofun, List.forall_mem_nil _⟩, fits⟩, writable_descriptors all,
    writable_listText? every, List.forall_mem_nil _⟩

theorem careful_location {depth number : Nat} {fields : Fields}
    (nested : Nested document depth number fields) :
    Careful document (Writable document (·.literal?)) (Location.ofFields depth fields) := by
  induction depth generalizing number fields with
  | zero => exact .throw ⟨nofun, fun _ => nested.isEndless⟩
  | succ depth ih =>
      unfold Location.ofFields
      refine (careful_checkKeys nested.found _).bind fun _ _ => ?_
      refine (careful_requiredText nested.found _).bind fun name _ => ?_
      refine (careful_text? nested.found _).bind fun key? _ => ?_
      refine (careful_tags? _).bind fun tags? _ => ?_
      refine (careful_passage nested.found).bind fun passage fits => ?_
      refine (careful_truth nested.found _).bind fun disableExit _ => ?_
      refine (careful_descriptors nested (Nat.le_refl _)).bind fun descriptors all => ?_
      refine (careful_listOf nested.found ?_ _).bind fun locations places => ?_
      · intro inner list innerFields inside within found
        exact ih (nested.inner (Nat.le_refl _) inside within found)
      refine (careful_listOf nested.found ?_ _).bind fun interactions deeds => ?_
      · intro inner list innerFields inside within found
        exact careful_interaction (nested.inner (Nat.le_refl _) inside within found)
      refine (careful_combinations nested (Nat.le_refl _)).bind fun combinations every => .pure ?_
      intro unwritten
      unfold Location.literal? at unwritten
      refine hasLongNumber_of_recordText? ?_ unwritten
      rw [locationLiterals_eq_map]
      simp only [List.forall_mem_append, List.forall_mem_cons]
      exact ⟨⟨⟨nofun, nofun, nofun, List.forall_mem_nil _⟩, fits⟩, nofun, writable_descriptors all,
        writable_listText? places, writable_listText? deeds, writable_listText? every, List.forall_mem_nil _⟩

theorem careful_player {fields : Fields} {number : Nat}
    (found : document.collection number = .mapping fields) (name : String) :
    Careful document (fun _ => True) (fields.player name) := by
  unfold Fields.player
  split
  next => exact .pure trivial
  next value there =>
    apply Careful.read_bind
    split
    next inner mapped =>
      obtain ⟨_, rfl, within⟩ := exists_of_mapping? mapped
      apply Careful.under
      unfold Player.ofFields
      refine (careful_checkKeys within _).bind fun _ _ => ?_
      refine (careful_tags? _).bind fun tags? _ => ?_
      exact (careful_tags? _).bind fun inventory? _ => .pure trivial
    next => exact careful_wrongType (holds_of_value? found there)

/-- The definition of a world is read from a document with care. -/
theorem World.careful_ofFields {fields : Fields} (mapped : document.mapping? document.root = some fields) :
    Careful document (fun _ => True) (World.ofFields document.depth fields) := by
  obtain ⟨number, _, found⟩ := exists_of_mapping? mapped
  have known : number < document.collections.size :=
    Document.lt_size_of_collection (by rw [found]; nofun)
  have nested : Nested document document.depth number fields := by
    refine ⟨found, [], .singleton _, List.forall_mem_singleton.2 known, ?_⟩
    unfold Document.depth
    rw [List.length_singleton]
    omega
  unfold World.ofFields
  refine (careful_checkKeys found _).bind fun _ _ => ?_
  refine (careful_requiredText found _).bind fun start _ => ?_
  refine (careful_textOr found _ _).bind fun title _ => ?_
  refine (careful_player found _).bind fun player _ => ?_
  refine (careful_listOf found ?_ _).bind fun locations _ => ?_
  · intro inner list innerFields inside within found
    exact careful_location (nested.inner (Nat.le_succ _) inside within found)
  refine (careful_listOf found ?_ _).bind fun items _ => .pure trivial
  intro inner list innerFields inside within found
  exact careful_item (nested.inner (Nat.le_succ _) inside within found)

end Model

end Narrative
