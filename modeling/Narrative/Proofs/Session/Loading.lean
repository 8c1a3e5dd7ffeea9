/-
Module: Narrative.Proofs.Session.Loading
Purpose: Files that no world can be loaded from. The player is told why, and the program ends with a code,
  unless the path has a null character, the bytes of the file are no text, or the readers of the text
  come upon something that they do not foresee.
Main exports: LoadError.Strays, Model.World.Accounted, Model.World.loading_accounted
-/
import Narrative.Proofs.Text.Utf8
import Narrative.Proofs.World.Fields
import Narrative.Session

namespace Narrative

open Yaml (Document)
open Text (encodeUtf8 unifyLineEnds)

/-- How loading a file fails without a report: the path has a null character, the bytes are no text, a
scalar in the text has the shape of a value and is none, the mappings of a scalar name one another
without end, a fault is about a number that is too long to be written, a collection is within itself, or
a key is none that a pair can be made of. -/
inductive LoadError.Strays (path : Path) (file : Except FileFault (List Nat)) : LoadError → Prop
  | path (null : '\x00' ∈ path.text.toList) : Strays path file .nullCharacter
  | bytes {bytes : List Nat} {fault : Text.Utf8Fault} (there : file = .ok bytes)
      (strange : ∀ text, bytes ≠ encodeUtf8 text) : Strays path file (.notText fault)
  | scalar {text : List Char} {fault : Yaml.ScalarFault} (there : file = .ok (encodeUtf8 text))
      (refused : Document.load (unifyLineEnds text) = .error (.scalar fault))
      (odd : ∀ message, fault ≠ .invalid message) :
      Strays path file (.document (.scalar fault) (unifyLineEnds text))
  | naming {text : List Char} (there : file = .ok (encodeUtf8 text))
      (refused : Document.load (unifyLineEnds text) = .error .endless) :
      Strays path file (.document .endless (unifyLineEnds text))
  | number {text : List Char} {document : Document} (there : file = .ok (encodeUtf8 text))
      (read : Document.load (unifyLineEnds text) = .ok document) (long : document.HasLongNumber) :
      Strays path file (.schema .unwritable)
  | part {text : List Char} {document : Document} (there : file = .ok (encodeUtf8 text))
      (read : Document.load (unifyLineEnds text) = .ok document) (within : document.IsEndless) :
      Strays path file (.schema .endless)
  | pair {text : List Char} {document : Document} {position : Nat} (there : file = .ok (encodeUtf8 text))
      (read : Document.load (unifyLineEnds text) = .ok document) :
      Strays path file (.schema (.notAPair position))

namespace Model.World

/-- What is known of loading a file that may be there or not.

A path with a null character is no path; a file that cannot be read is reported. Bytes that are no text
are refused at the first place where no character begins, and from a text the definition is read. Loading
that fails is reported, unless it strays. When a story cannot start the player is told why and the code
is that of a failure, unless loading strays: then the program breaks off and tells nothing. -/
structure Accounted (path : Path) (file : Except FileFault (List Nat)) : Prop where
  null : '\x00' ∈ path.text.toList → ofFile path file = .error .nullCharacter
  unreadable : '\x00' ∉ path.text.toList → ∀ fault, file = .error fault →
    ofFile path file = .error (.unreadable path fault)
  bytes : '\x00' ∉ path.text.toList → ∀ bytes, file = .ok bytes → (∀ text, bytes ≠ encodeUtf8 text) →
    ∃ fault, ofFile path file = .error (.notText fault) ∧
      ∃ text rest, bytes = encodeUtf8 text ++ fault.byte :: rest ∧
        (encodeUtf8 text).length = fault.position ∧ Text.Strange fault.byte rest
  text : '\x00' ∉ path.text.toList → ∀ text, file = .ok (encodeUtf8 text) →
    ofFile path file = parse (unifyLineEnds text)
  strays_iff : ∀ error, ofFile path file = .error error →
    (error.isReported = false ↔ error.Strays path file)
  answered : ∀ words options, Options.parse words = .ok options → options.world = path →
    ∀ load, load path = ofFile path file → ∀ scripts fault,
      App.ofLoaded path options.dev (scripts path) (load path) = .error fault → ∀ picks lines,
        (fault.isReported = true ∧ transcript words load scripts picks lines =
            ⟨[.print ("Cannot start: " ++ fault.message ++ "\n").toList], fault.records, .code 1⟩) ∨
          ∃ error, fault = .load error ∧ error.Strays path file ∧
            transcript words load scripts picks lines = ⟨[], [], .start fault⟩

variable {path : Path} {file : Except FileFault (List Nat)} {bytes : List Nat} {text : List Char}

theorem ofFile_null (null : '\x00' ∈ path.text.toList) :
    ofFile path file = .error .nullCharacter := by
  have contains : path.text.toList.contains '\x00' = true := List.contains_iff_mem.2 null
  unfold ofFile
  rw [if_pos contains]
  rfl

section

variable (clear : '\x00' ∉ path.text.toList)

include clear

theorem ofFile_clear : ofFile path file = (do
    let bytes ← file.mapError (.unreadable path)
    let text ← (Text.decodeUtf8 bytes).mapError .notText
    parse (unifyLineEnds text)) := by
  have lacks : ¬ path.text.toList.contains '\x00' = true := fun contains =>
    clear (List.contains_iff_mem.1 contains)
  unfold ofFile
  rw [if_neg lacks]

theorem ofFile_unreadable (fault : FileFault) :
    ofFile path (.error fault) = .error (.unreadable path fault) := by
  rw [ofFile_clear clear]
  rfl

theorem ofFile_text (text : List Char) :
    ofFile path (.ok (encodeUtf8 text)) = parse (unifyLineEnds text) := by
  have read : Text.decodeUtf8 (encodeUtf8 text) = .ok text := Text.decodeUtf8_eq_ok_iff.2 rfl
  rw [ofFile_clear clear]
  show ((Text.decodeUtf8 (encodeUtf8 text)).mapError LoadError.notText >>= fun text =>
    parse (unifyLineEnds text)) = _
  rw [read]
  rfl

theorem ofFile_bytes (strange : ∀ text, bytes ≠ encodeUtf8 text) :
    ∃ fault, Text.decodeUtf8 bytes = .error fault ∧ ofFile path (.ok bytes) = .error (.notText fault) := by
  cases read : Text.decodeUtf8 bytes with
  | ok text => exact absurd (Text.decodeUtf8_eq_ok_iff.1 read) (strange text)
  | error fault =>
      refine ⟨fault, rfl, ?_⟩
      rw [ofFile_clear clear]
      show ((Text.decodeUtf8 bytes).mapError LoadError.notText >>= fun text =>
        parse (unifyLineEnds text)) = _
      rw [read]
      rfl

end

/-- Reading the definition from a text fails because of the document, because it is no mapping, or because
of the definition in it. -/
theorem parse_eq_error {error : LoadError} (failed : parse text = .error error) :
    (∃ fault, Document.load text = .error fault ∧ error = .document fault text) ∨
      ∃ document, Document.load text = .ok document ∧
        (error = .notAMapping ∨ ∃ fields fault, document.mapping? document.root = some fields ∧
          ofFields document.depth fields document = .error fault ∧ error = .schema fault) := by
  unfold parse at failed
  obtain unread | ⟨document, read, refused⟩ := bind_eq_error.1 failed
  · obtain ⟨fault, refused, rfl⟩ := mapError_eq_error.1 unread
    exact .inl ⟨fault, refused, rfl⟩
  · refine .inr ⟨document, mapError_eq_ok.1 read, ?_⟩
    unfold ofDocument at refused
    split at refused
    next fields mapped =>
      obtain ⟨fault, unmade, rfl⟩ := mapError_eq_error.1 refused
      exact .inr ⟨fields, fault, mapped, unmade, rfl⟩
    next =>
      cases refused
      exact .inl rfl

/-- An error about a text that is not reported is one of those that stray. -/
theorem strays_of_parse {error : LoadError} (there : file = .ok (encodeUtf8 text))
    (failed : parse (unifyLineEnds text) = .error error) (untold : error.isReported = false) :
    error.Strays path file := by
  obtain ⟨fault, refused, rfl⟩ | ⟨document, read, rfl | ⟨fields, fault, mapped, made, rfl⟩⟩ :=
    parse_eq_error failed
  · cases fault with
    | unreadable code position => cases untold
    | misplaced complaint => cases untold
    | endless => exact .naming there refused
    | scalar fault =>
        refine .scalar there refused ?_
        rintro message rfl
        cases untold
  · cases untold
  · have excused := (Model.World.careful_ofFields mapped).excused fault made
    cases fault with
    | unwritable => exact .number there read (excused.long rfl)
    | endless => exact .part there read (excused.within rfl)
    | notAPair position => exact .pair there read
    | _ => cases untold

theorem isReported_of_strays {error : LoadError} (strays : error.Strays path file) :
    error.isReported = false := by
  cases strays with
  | @scalar text fault there refused odd =>
      cases fault with
      | invalid message => exact absurd rfl (odd message)
      | _ => rfl
  | _ => rfl

theorem strays_iff {error : LoadError} (failed : ofFile path file = .error error) :
    error.isReported = false ↔ error.Strays path file := by
  refine ⟨fun untold => ?_, isReported_of_strays⟩
  by_cases clear : '\x00' ∈ path.text.toList
  · rw [ofFile_null clear] at failed
    cases failed
    exact .path clear
  · cases file with
    | error fault =>
        rw [ofFile_unreadable clear] at failed
        cases failed
        cases untold
    | ok bytes =>
        by_cases spelled : ∃ text, bytes = encodeUtf8 text
        · obtain ⟨text, rfl⟩ := spelled
          rw [ofFile_text clear] at failed
          exact strays_of_parse rfl failed untold
        · have strange : ∀ text, bytes ≠ encodeUtf8 text := fun text same => spelled ⟨text, same⟩
          obtain ⟨fault, _, refused⟩ := ofFile_bytes clear strange
          cases refused.symm.trans failed
          exact .bytes rfl strange

/-- If the fault of an app is about loading, loading failed so. -/
theorem eq_error_of_ofLoaded {dev : Bool} {scripts : Scripts} {loaded : Except LoadError Model.World}
    {error : LoadError} (failed : App.ofLoaded path dev scripts loaded = .error (.load error)) :
    loaded = .error error := by
  obtain unloaded | ⟨model, _, unbuilt⟩ := bind_eq_error.1 failed
  · obtain ⟨cause, same, made⟩ := mapError_eq_error.1 unloaded
    cases made
    exact same
  · obtain ⟨_, _, other⟩ := mapError_eq_error.1 unbuilt
    cases other

/-- How a run ends that cannot start. -/
theorem transcript_of_fault {words : List String} {options : Options}
    (parsed : Options.parse words = .ok options) {load : Path → Except LoadError Model.World}
    {scripts : Path → Scripts} {fault : StartFault}
    (failed : App.ofLoaded options.world options.dev (scripts options.world) (load options.world) =
      .error fault) (picks : List Int) (lines : List String) :
    transcript words load scripts picks lines =
      if fault.isReported then
        ⟨[.print ("Cannot start: " ++ fault.message ++ "\n").toList], fault.records, .code 1⟩
      else ⟨[], fault.records, .start fault⟩ := by
  unfold transcript
  rw [parsed]
  dsimp only
  rw [failed]
  rfl

/-- Whatever the path is and whatever is found there, it is known how loading ends and what the player is
told. -/
theorem loading_accounted (path : Path) (file : Except FileFault (List Nat)) : Accounted path file where
  null := ofFile_null
  unreadable clear fault found := found ▸ ofFile_unreadable clear fault
  bytes clear bytes found strange := by
    obtain ⟨fault, refused, failed⟩ := ofFile_bytes clear strange
    exact ⟨fault, found ▸ failed, Text.strange_of_decodeUtf8 refused⟩
  text clear text found := found ▸ ofFile_text clear text
  strays_iff _ := strays_iff
  answered := by
    rintro words options parsed rfl load loads scripts fault failed picks lines
    rw [transcript_of_fault parsed failed]
    by_cases told : fault.isReported = true
    · exact .inl ⟨told, if_pos told⟩
    · have untold : fault.isReported = false := Bool.eq_false_iff.2 told
      cases fault with
      | build error => cases untold
      | load error =>
          have failed := loads.symm.trans (eq_error_of_ofLoaded failed)
          exact .inr ⟨error, rfl, (strays_iff failed).1 untold, if_neg told⟩

/-- A file that holds a single byte with which no character begins. -/
example : ofFile (Path.parse "world.yaml") (.ok [0xff]) = .error (.notText ⟨0, 0xff, 1, .start⟩) := rfl

end Model.World

end Narrative
