/-
Module: Narrative.Proofs.Script
Purpose: Scripts that run inside one another: which script a line runs, why it may run none, and which
  scripts run inside that script. Where no script runs itself, not even through others, scripts run
  inside one another at most as deep as there are files.
Main exports: Scripts.Opens, Scripts.Fails, Scripts.Calls, Scripts.Descends, Scripts.Rounds,
  Scripts.length_le_of_descends, Scripts.WellKept, Scripts.causes_of_fails
-/
import Narrative.App
import Narrative.Proofs.Outcome
import Narrative.Proofs.Rounds
import Narrative.Proofs.Text.Parts

namespace Narrative

namespace Scripts

/-! ### The script that a line runs -/

/-- The line is a command to run a script, and there is one, with the text. -/
def Opens (scripts : Scripts) (line : String) (text : List Char) : Prop :=
  ∃ name file, DeveloperCommand.parse? line = some (.run [name]) ∧
    scripts.locate name = .ok (some file) ∧ scripts.read file = .ok (some text)

/-- The line is a command to run a script, and where the script should be or what is there is at fault. -/
def Fails (scripts : Scripts) (line : String) (fault : ScriptFault) : Prop :=
  ∃ name, DeveloperCommand.parse? line = some (.run [name]) ∧
    (scripts.locate name = .error fault ∨
      ∃ file, scripts.locate name = .ok (some file) ∧ scripts.read file = .error fault)

/-- A line of the script with the one text runs the script with the other. -/
def Calls (scripts : Scripts) (text inner : List Char) : Prop :=
  ∃ line ∈ scriptLines text, scripts.Opens line inner

/-- The first line of the script with the one text runs the script with the other. -/
def Begins (scripts : Scripts) (text inner : List Char) : Prop :=
  ∃ line rest, scriptLines text = line :: rest ∧ scripts.Opens line inner

/-- Scripts run inside one another: the line runs the first of them, a line of each but the last runs
the next, and the last has the other line. -/
inductive Descends (scripts : Scripts) : List (List Char) → String → String → Prop
  | here (line : String) : Descends scripts [] line line
  | into {texts : List (List Char)} {text : List Char} {line inner last : String}
      (opens : scripts.Opens line text) (among : inner ∈ scriptLines text)
      (descends : Descends scripts texts inner last) : Descends scripts (text :: texts) line last

/-- Among the scripts that run when the line does is one that runs itself, if only through others. -/
def Rounds (scripts : Scripts) (line : String) : Prop :=
  ∃ texts last text, scripts.Descends texts line last ∧ text ∈ texts ∧
    Relation.TransGen scripts.Calls text text

/-- The texts of the files. -/
def texts (scripts : Scripts) : List (List Char) :=
  scripts.files.filterMap fun (_, bytes) =>
    (Text.decodeUtf8 bytes).toOption.map Text.unifyLineEnds

variable {scripts : Scripts} {line last : String} {text : List Char} {texts : List (List Char)}

/-! ### Looking whether a line runs a script -/

/-- What a line finds if it is a command to run a script: no script, the text of one, or a fault. -/
def find (scripts : Scripts) (line : String) : Except ScriptFault (Option (List Char)) :=
  match DeveloperCommand.parse? line with
  | some (.run [name]) => do
    match ← scripts.locate name with
    | none => return none
    | some file => scripts.read file
  | _ => .ok none

theorem opens_iff : scripts.Opens line text ↔ scripts.find line = .ok (some text) := by
  constructor
  · rintro ⟨name, file, command, located, read⟩
    simp [find, command, located, read, bind, Except.bind]
  · intro found
    unfold find at found
    split at found
    next name command =>
      obtain ⟨file?, located, read⟩ := bind_eq_ok.1 found
      cases file? with
      | none => cases read
      | some file => exact ⟨name, file, command, located, read⟩
    next => cases found

theorem fails_iff {fault : ScriptFault} :
    scripts.Fails line fault ↔ scripts.find line = .error fault := by
  constructor
  · rintro ⟨name, command, unplaced | ⟨file, located, unread⟩⟩
    · simp [find, command, unplaced, bind, Except.bind]
    · simp [find, command, located, unread, bind, Except.bind]
  · intro failed
    unfold find at failed
    split at failed
    next name command =>
      refine ⟨name, command, ?_⟩
      obtain unplaced | ⟨file?, located, unread⟩ := bind_eq_error.1 failed
      · exact .inl unplaced
      · cases file? with
        | none => cases unread
        | some file => exact .inr ⟨file, located, unread⟩
    next => cases failed

/-! ### What is read is the text of a file -/

/-- What is found at the end of a way is a file, or there is a fault of three kinds. -/
theorem bytesAt_cases (scripts : Scripts) (here way : List String) :
    (∃ file ∈ scripts.files, scripts.bytesAt here way = .ok file.2) ∨
      scripts.bytesAt here way = .error .missing ∨ scripts.bytesAt here way = .error .folder ∨
      scripts.bytesAt here way = .error .nameTooLong := by
  induction way generalizing here with
  | nil =>
      unfold bytesAt
      split
      · exact .inr (.inr (.inl rfl))
      · split
        next parts bytes found => exact .inl ⟨_, List.mem_of_find?_eq_some found, rfl⟩
        next => exact .inr (.inl rfl)
  | cons part rest ih =>
      unfold bytesAt
      split
      · exact .inr (.inl rfl)
      split
      · exact .inr (.inr (.inr rfl))
      · exact ih _

theorem mem_texts_of_opens (opens : scripts.Opens line text) : text ∈ scripts.texts := by
  obtain ⟨name, file, _, _, read⟩ := opens
  unfold Scripts.read at read
  dsimp only at read
  split at read
  next => cases read
  next => cases read
  next bytes found =>
    split at read
    next => cases read
    next decoded is_text =>
      cases read
      split at found
      · cases found
      · obtain ⟨entry, member, reached⟩ | missing | folder | long :=
          scripts.bytesAt_cases [] file.full
        · rw [reached] at found
          cases found
          exact List.mem_filterMap.2 ⟨entry, member, by simp [is_text, Except.toOption]⟩
        · cases missing.symm.trans found
        · cases folder.symm.trans found
        · cases long.symm.trans found

theorem length_texts_le (scripts : Scripts) : scripts.texts.length ≤ scripts.files.length :=
  List.length_filterMap_le _ _

/-! ### Scripts inside one another -/

theorem Descends.mem_texts (descends : scripts.Descends texts line last) :
    ∀ text ∈ texts, text ∈ scripts.texts := by
  induction descends with
  | here => exact List.forall_mem_nil _
  | into opens _ _ ih => exact List.forall_mem_cons.2 ⟨mem_texts_of_opens opens, ih⟩

/-- Each of the scripts runs the next. -/
theorem Descends.isChain (descends : scripts.Descends texts line last) :
    texts.IsChain scripts.Calls := by
  induction descends with
  | here => exact .nil
  | into opens among descends ih =>
      cases descends with
      | here => exact .singleton _
      | into opened _ _ => exact .cons_cons ⟨_, among, opened⟩ ih

/-- Where no script runs itself, scripts do not run inside one another deeper than there are files. -/
theorem length_le_of_descends (noRound : ¬ scripts.Rounds line)
    (descends : scripts.Descends texts line last) : texts.length ≤ scripts.files.length := by
  have ends : ∀ text ∈ texts, ¬ Relation.TransGen scripts.Calls text text := fun text member round =>
    noRound ⟨texts, last, text, descends, member, round⟩
  calc texts.length ≤ scripts.texts.length :=
        length_le_of_isChain descends.isChain ends descends.mem_texts
    _ ≤ scripts.files.length := scripts.length_texts_le

/-! ### Why a script may not run -/

/-- A line that fails does not do so because scripts run too deep. -/
theorem not_fails_tooDeep : ¬ scripts.Fails line .tooDeep := by
  rintro ⟨name, _, unplaced | ⟨file, _, unread⟩⟩
  · unfold locate at unplaced
    dsimp only at unplaced
    split at unplaced
    · split at unplaced
      · cases unplaced
      · split at unplaced <;> cases unplaced
    · cases unplaced
  · unfold Scripts.read at unread
    dsimp only at unread
    split at unread
    · cases unread
    · cases unread
    · split at unread <;> cases unread

/-- A folder as it should be: it has a name, its path has no null character, and its files are texts. -/
structure WellKept (scripts : Scripts) : Prop where
  named : scripts.folder.parts ≠ []
  based : scripts.base ≠ []
  clear : ∀ part ∈ scripts.base, '\x00' ∉ part.toList
  readable : ∀ file ∈ scripts.files, ∃ text, Text.decodeUtf8 file.2 = .ok text

/-- The name is a path from the root that has no component. -/
def IsRoot (name : String) : Prop := (Path.parse name).isAbsolute = true ∧ (Path.parse name).parts = []

theorem mem_of_mem_splitOn {mark c : Char} {cs : List Char} :
    ∀ part ∈ cs.splitOn mark, c ∈ part → c ∈ cs := by
  induction cs with
  | nil => simp
  | cons d rest ih =>
      obtain ⟨first, others, split⟩ := List.exists_cons_of_ne_nil (List.splitOn_ne_nil mark rest)
      rw [split, List.forall_mem_cons] at ih
      rw [List.splitOn_cons_eq_if_modifyHead, split]
      obtain ⟨head, tail⟩ := ih
      by_cases same : d = mark
      · simp only [same, beq_self_eq_true, if_true, List.forall_mem_cons]
        exact ⟨by simp, fun member => List.mem_cons_of_mem _ (head member),
          fun part among member => List.mem_cons_of_mem _ (tail part among member)⟩
      · have other : (d == mark) = false := beq_eq_false_iff_ne.2 same
        simp only [other, Bool.false_eq_true, if_false, List.modifyHead_cons, List.forall_mem_cons]
        refine ⟨fun member => ?_, fun part among member => List.mem_cons_of_mem _ (tail part among member)⟩
        obtain rfl | inside := List.mem_cons.1 member
        · exact List.mem_cons_self
        · exact List.mem_cons_of_mem _ (head inside)

theorem mem_of_mem_parse {name part : String} (member : part ∈ (Path.parse name).parts) {c : Char}
    (inside : c ∈ part.toList) : c ∈ name.toList := by
  obtain ⟨among, _⟩ := List.mem_filter.1 member
  obtain ⟨piece, cut, rfl⟩ := List.mem_map.1 among
  rw [String.toList_ofList] at inside
  exact mem_of_mem_splitOn piece cut inside

theorem mem_of_mem_stem {name : List Char} {c : Char} (member : c ∈ Path.stem name) : c ∈ name := by
  unfold Path.stem at member
  dsimp only at member
  split at member
  · exact member
  · exact List.mem_of_mem_take member

/-- A path seen from a folder has no component only if it is one from the root without any. -/
theorem append_parts_eq_nil {folder : Path} (named : folder.parts ≠ []) {name : String} :
    (folder ++ Path.parse name).parts = [] ↔ IsRoot name := by
  show (folder.append (Path.parse name)).parts = [] ↔ _
  unfold Path.append IsRoot
  cases (Path.parse name).isAbsolute with
  | true => simp
  | false => simp [named]

theorem withSuffix?_eq_none {path : Path} {suffix : String} :
    path.withSuffix? suffix = none ↔ path.parts = [] := by
  simp [Path.withSuffix?]

/-- What a component of a path with another suffix has, a component had before, or the suffix has. -/
theorem mem_of_mem_withSuffix? {path changed : Path} {suffix : String}
    (suffixed : path.withSuffix? suffix = some changed) {part : String} (member : part ∈ changed.parts)
    {c : Char} (inside : c ∈ part.toList) :
    (∃ before ∈ path.parts, c ∈ before.toList) ∨ c ∈ suffix.toList := by
  obtain ⟨name, last, rfl⟩ := Option.map_eq_some_iff.1 suffixed
  obtain kept | new := List.mem_append.1 member
  · exact .inl ⟨part, (List.dropLast_sublist _).subset kept, inside⟩
  · rw [List.mem_singleton.1 new, String.toList_append, String.toList_ofList] at inside
    obtain stem | suffix := List.mem_append.1 inside
    · exact .inl ⟨name, List.mem_of_getLast? last, mem_of_mem_stem stem⟩
    · exact .inr suffix

/-- A name stands for no path only if it is nothing but the root, or has a null character. -/
theorem locate_eq_error (kept : scripts.WellKept) {name : String} {fault : ScriptFault}
    (failed : scripts.locate name = .error fault) :
    (∃ path, fault = .noName path) ∧ IsRoot name ∨
      fault = .nullCharacter ∧ '\x00' ∈ name.toList := by
  unfold locate at failed
  dsimp only at failed
  split at failed
  next path full shown suffixed =>
    split at failed
    next null =>
      cases failed
      obtain ⟨part, member, contains⟩ := List.any_eq_true.1 null
      have inside : '\x00' ∈ part.toList := by simpa using contains
      refine .inr ⟨rfl, ?_⟩
      obtain ⟨before, among, there⟩ | suffix := mem_of_mem_withSuffix? suffixed member inside
      · replace among : before ∈ ((Path.mk "/" scripts.base).append (Path.parse name)).parts := among
        unfold Path.append at among
        split at among
        · exact mem_of_mem_parse among there
        · obtain base | own := List.mem_append.1 among
          · exact absurd there (kept.clear before base)
          · exact mem_of_mem_parse own there
      · exact absurd suffix (by decide)
    next => split at failed <;> cases failed
  next missing =>
    cases failed
    refine .inl ⟨⟨_, rfl⟩, ?_⟩
    cases shown : (scripts.folder ++ Path.parse name).withSuffix? scriptSuffix with
    | none => exact (append_parts_eq_nil kept.named).1 (withSuffix?_eq_none.1 shown)
    | some path =>
        cases full : (Path.mk "/" scripts.base ++ Path.parse name).withSuffix? scriptSuffix with
        | none => exact (append_parts_eq_nil kept.based).1 (withSuffix?_eq_none.1 full)
        | some other => exact absurd full (missing path other shown)

/-- A line that is to run a script with a name that is nothing but the root fails. -/
theorem fails_of_isRoot (kept : scripts.WellKept) {name : String}
    (command : DeveloperCommand.parse? line = some (.run [name])) (root : IsRoot name) :
    ∃ path, scripts.Fails line (.noName path) := by
  have bare : (scripts.folder ++ Path.parse name).withSuffix? scriptSuffix = none :=
    withSuffix?_eq_none.2 ((append_parts_eq_nil kept.named).2 root)
  exact ⟨scripts.folder ++ Path.parse name, name, command, .inl (by simp [locate, bare])⟩

/-- In a folder as it should be a script that is there cannot be read only if it is a folder, or if a
name is too long. -/
theorem read_eq_error (kept : scripts.WellKept) {file : ScriptFile} {fault : ScriptFault}
    (failed : scripts.read file = .error fault) :
    fault = .unreadable file.path .folder ∨ fault = .unreadable file.path .nameTooLong := by
  unfold Scripts.read at failed
  dsimp only at failed
  split at failed
  next => cases failed
  next kind other found =>
    cases failed
    split at found
    · cases found
      exact .inr rfl
    · obtain ⟨_, _, reached⟩ | missing | folder | long := scripts.bytesAt_cases [] file.full
      · cases reached.symm.trans found
      · cases missing.symm.trans found
        exact absurd rfl other
      · cases folder.symm.trans found
        exact .inl rfl
      · cases long.symm.trans found
        exact .inr rfl
  next bytes found =>
    split at found
    · cases found
    · obtain ⟨entry, member, reached⟩ | missing | folder | long :=
        scripts.bytesAt_cases [] file.full
      · cases reached.symm.trans found
        obtain ⟨text, is_text⟩ := kept.readable entry member
        rw [is_text] at failed
        cases failed
      · cases missing.symm.trans found
      · cases folder.symm.trans found
      · cases long.symm.trans found

/-- The faults of a script that cannot be run, in a folder as it should be: its name is nothing but the
root or has a null character, it is a folder, or a name is too long. -/
theorem causes_of_fails (kept : scripts.WellKept) {fault : ScriptFault}
    (fails : scripts.Fails line fault) :
    ∃ name, DeveloperCommand.parse? line = some (.run [name]) ∧
      ((∃ path, fault = .noName path) ∧ IsRoot name ∨
        fault = .nullCharacter ∧ '\x00' ∈ name.toList ∨
        ∃ path, fault = .unreadable path .folder ∨ fault = .unreadable path .nameTooLong) := by
  obtain ⟨name, command, unplaced | ⟨file, _, unread⟩⟩ := fails
  · obtain root | null := locate_eq_error kept unplaced
    · exact ⟨name, command, .inl root⟩
    · exact ⟨name, command, .inr (.inl null)⟩
  · exact ⟨name, command, .inr (.inr ⟨file.path, read_eq_error kept unread⟩)⟩

end Scripts

end Narrative
