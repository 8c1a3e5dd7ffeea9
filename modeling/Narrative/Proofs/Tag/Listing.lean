/-
Module: Narrative.Proofs.Tag.Listing
Purpose: What a text that lists tags means. The search for a forgotten comma looks at the whole text,
  and the tags come from its parts; both see the same blanks, so the order of the tags, their
  repetition and the blanks around the commas do not matter.
Main exports: Gapped, hasGap_iff_gapped, TagText.parts, TagSet.parse_eq_ok_iff,
  TagSet.parse_eq_error_iff, TagSet.parse_listing
-/
import Mathlib.Data.List.Sort
import Narrative.Proofs.Tag

namespace Narrative

/-! ### The search for a forgotten comma -/

/-- A character of a tag: neither a blank nor a comma. -/
def OfTag (c : Char) : Prop := Text.isBlank c = false ∧ c ≠ ','

/-- Some blanks, or none, and then a character of a tag. -/
def Resumes (cs : List Char) : Prop :=
  ∃ blanks last after, cs = blanks ++ last :: after ∧ (∀ c ∈ blanks, Text.isBlank c = true) ∧ OfTag last

/-- Some blanks, at least one, and then a character of a tag. -/
def Breaks (cs : List Char) : Prop :=
  ∃ blank rest, cs = blank :: rest ∧ Text.isBlank blank = true ∧ Resumes rest

/-- Somewhere in the text there are blanks, at least one, between two characters of tags. -/
def Gapped (cs : List Char) : Prop :=
  ∃ before first rest, cs = before ++ first :: rest ∧ OfTag first ∧ Breaks rest

variable {c : Char} {rest : List Char}

theorem resumes_cons_iff : Resumes (c :: rest) ↔ OfTag c ∨ Text.isBlank c = true ∧ Resumes rest := by
  constructor
  · rintro ⟨blanks, last, after, split, blank, ofTag⟩
    obtain ⟨rfl, same⟩ | ⟨others, rfl, rfl⟩ := List.cons_eq_append_iff.1 split
    · cases same
      exact .inl ofTag
    · obtain ⟨first, blank⟩ := List.forall_mem_cons.1 blank
      exact .inr ⟨first, others, last, after, rfl, blank, ofTag⟩
  · rintro (ofTag | ⟨first, blanks, last, after, rfl, blank, ofTag⟩)
    · exact ⟨[], c, rest, rfl, List.forall_mem_nil _, ofTag⟩
    · exact ⟨c :: blanks, last, after, rfl, List.forall_mem_cons.2 ⟨first, blank⟩, ofTag⟩

theorem breaks_cons_iff : Breaks (c :: rest) ↔ Text.isBlank c = true ∧ Resumes rest := by
  simp [Breaks]

theorem gapped_cons_iff : Gapped (c :: rest) ↔ OfTag c ∧ Breaks rest ∨ Gapped rest := by
  constructor
  · rintro ⟨before, first, others, split, ofTag, breaks⟩
    obtain ⟨rfl, same⟩ | ⟨prior, rfl, rfl⟩ := List.cons_eq_append_iff.1 split
    · cases same
      exact .inl ⟨ofTag, breaks⟩
    · exact .inr ⟨prior, first, others, rfl, ofTag, breaks⟩
  · rintro (⟨ofTag, breaks⟩ | ⟨before, first, others, rfl, ofTag, breaks⟩)
    · exact ⟨[], c, rest, rfl, ofTag, breaks⟩
    · exact ⟨c :: before, first, others, rfl, ofTag, breaks⟩

/-- What closes a gap that is under way. -/
def TagBefore.Closed : TagBefore → List Char → Prop
  | .nothing, _ => False
  | .tag, cs => Breaks cs
  | .gap, cs => Resumes cs

/-- The scan of a text finds what lies in the text, or what closes the gap that was under way. -/
theorem hasGap_iff (before : TagBefore) (cs : List Char) :
    hasGap before cs = true ↔ before.Closed cs ∨ Gapped cs := by
  induction cs generalizing before with
  | nil => cases before <;> simp [hasGap, TagBefore.Closed, Resumes, Breaks, Gapped]
  | cons c rest ih =>
      by_cases comma : c = ','
      · subst comma
        have unblank : Text.isBlank ',' = false := by decide
        cases before <;> simp [hasGap, ih, TagBefore.Closed, gapped_cons_iff, breaks_cons_iff,
          resumes_cons_iff, OfTag, unblank]
      · cases blank : Text.isBlank c <;> cases before <;> simp [hasGap, comma, blank, ih,
          TagBefore.Closed, gapped_cons_iff, breaks_cons_iff, resumes_cons_iff, OfTag]

theorem hasGap_iff_gapped (cs : List Char) : hasGap .nothing cs = true ↔ Gapped cs := by
  rw [hasGap_iff, TagBefore.Closed, false_or]

/-! ### Parts -/

/-- There is a blank in the part. -/
def Broken (part : List Char) : Prop := ∃ c ∈ part, Text.isBlank c = true

instance (part : List Char) : Decidable (Broken part) :=
  List.decidableBEx (fun c => Text.isBlank c = true) part

/-- The parts of all texts that were written, in their order. -/
def TagText.parts (written : TagText) : List (List Char) := written.lines.flatMap Text.commaParts

theorem TagText.parts_line (text : String) : (line text).parts = Text.commaParts text := by
  simp [parts, lines]

/-- The texts between the commas of a line have the parts of the line. -/
theorem TagText.parts_split (text : String) :
    (entries ((text.toList.splitOn ',').map String.ofList)).parts = Text.commaParts text := by
  rw [parts, lines, List.flatMap_map, Text.commaParts, ← List.flatMap_pure_eq_map]
  refine List.flatMap_congr fun part among => ?_
  have whole : part.splitOn ',' = [part] := List.splitOn_eq_singleton (not_mem_of_mem_splitOn part among)
  simp [Text.commaParts, whole]

theorem TagText.parseLine_eq_error_iff {text : String} {error : CompileError} :
    parseLine text = .error error ↔
      (∃ part ∈ Text.commaParts text, Broken part) ∧ error = .invalidExpression text .blankInTag := by
  have broken : ((Text.commaParts text).any (·.any Text.isBlank)) = true ↔
      ∃ part ∈ Text.commaParts text, Broken part := by
    simp only [List.any_eq_true, Broken]
  rw [parseLine_eq, ← broken]
  split
  next found => simp [found, eq_comm]
  next tight => simp [tight]

theorem TagText.parseLine_eq_ok_iff {text : String} {tags : List String} :
    parseLine text = .ok tags ↔
      (∀ part ∈ Text.commaParts text, ¬ Broken part) ∧
        tags = ((Text.commaParts text).filter fun part => !part.isEmpty).map String.ofList := by
  have tight : ((Text.commaParts text).any (·.any Text.isBlank)) = false ↔
      ∀ part ∈ Text.commaParts text, ¬ Broken part := by
    simp [Broken]
  rw [parseLine_eq, ← tight]
  split
  next found => simp [found]
  next tight => simp [tight, eq_comm]

/-- A tag of a text is one of its parts, if it is not empty. -/
theorem TagText.mem_of_parseLine {text tag : String} {tags : List String}
    (read : parseLine text = .ok tags) :
    tag ∈ tags ↔ tag ≠ "" ∧ tag.toList ∈ Text.commaParts text := by
  rw [(parseLine_eq_ok_iff.1 read).2, List.mem_map]
  constructor
  · rintro ⟨part, kept, rfl⟩
    obtain ⟨among, filled⟩ := List.mem_filter.1 kept
    exact ⟨by simpa using filled, by rwa [String.toList_ofList]⟩
  · rintro ⟨filled, among⟩
    exact ⟨tag.toList, List.mem_filter.2 ⟨among, by simpa using filled⟩, String.ofList_toList⟩

/-- If all texts are read, no part has a blank, and the parts are the tags, but for the empty ones. -/
theorem TagText.of_mapM_parseLine {written : TagText} {lists : List (List String)}
    (each : written.lines.mapM parseLine = .ok lists) :
    (∀ part ∈ written.parts, ¬ Broken part) ∧
      ∀ tag : String, tag ∈ lists.flatten ↔ tag ≠ "" ∧ tag.toList ∈ written.parts := by
  have read := exists_result_of_mapM each
  constructor
  · intro part among
    obtain ⟨text, line, inside⟩ := List.mem_flatMap.1 among
    obtain ⟨tags, _, done⟩ := read text line
    exact (parseLine_eq_ok_iff.1 done).1 part inside
  · intro tag
    rw [List.mem_flatten, parts, List.mem_flatMap]
    constructor
    · rintro ⟨tags, listed, member⟩
      obtain ⟨text, line, done⟩ := exists_of_mapM each tags listed
      obtain ⟨filled, inside⟩ := (mem_of_parseLine done).1 member
      exact ⟨filled, text, line, inside⟩
    · rintro ⟨filled, text, line, inside⟩
      obtain ⟨tags, listed, done⟩ := read text line
      exact ⟨tags, listed, (mem_of_parseLine done).2 ⟨filled, inside⟩⟩

/-! ### Sets -/

namespace TagSet

/-- Sets with the same members are the same. -/
theorem eq_of_mem_iff {one other : TagSet} (same : ∀ tag, tag ∈ one ↔ tag ∈ other) : one = other := by
  have irrefl : Std.Irrefl fun s t => Text.precedes s t = true :=
    ⟨fun s => by simp [Text.precedes_irrefl]⟩
  have antisymm : Std.Antisymm fun s t => Text.precedes s t = true := ⟨fun s t less greater =>
    absurd (Text.precedes_trans less greater) (by simp [Text.precedes_irrefl])⟩
  exact ext (one.increasing.eq_of_mem_iff other.increasing same)

/-- What was written is refused for its first text with a blank in a part. -/
theorem parse_eq_error_iff {written : TagText} {error : CompileError} :
    parse (some written) = .error error ↔
      ∃ before text after, written.lines = before ++ text :: after ∧
        (∀ earlier ∈ before, ∀ part ∈ Text.commaParts earlier, ¬ Broken part) ∧
        (∃ part ∈ Text.commaParts text, Broken part) ∧ error = .invalidExpression text .blankInTag := by
  have fine (text : String) : (∃ tags, TagText.parseLine text = .ok tags) ↔
      ∀ part ∈ Text.commaParts text, ¬ Broken part := by
    simp [TagText.parseLine_eq_ok_iff]
  simp only [parse, bind_eq_error, pure, Except.pure, reduceCtorEq, and_false, exists_false, or_false,
    mapM_eq_error, fine, TagText.parseLine_eq_error_iff]

/-- Otherwise its parts are the members, but for the empty ones. -/
theorem parse_eq_ok_iff {written : TagText} {tags : TagSet} :
    parse (some written) = .ok tags ↔
      (∀ part ∈ written.parts, ¬ Broken part) ∧
        ∀ tag : String, tag ∈ tags ↔ tag ≠ "" ∧ tag.toList ∈ written.parts := by
  constructor
  · intro read
    obtain ⟨lists, each, same⟩ := bind_eq_ok.1 read
    cases same
    simpa only [mem_ofList] using TagText.of_mapM_parseLine each
  · rintro ⟨tight, members⟩
    cases outcome : parse (some written) with
    | error error =>
        obtain ⟨before, text, after, split, _, ⟨part, inside, broken⟩, _⟩ := parse_eq_error_iff.1 outcome
        have line : text ∈ written.lines := by simp [split]
        exact absurd broken (tight part (List.mem_flatMap.2 ⟨text, line, inside⟩))
    | ok other =>
        obtain ⟨lists, each, same⟩ := bind_eq_ok.1 outcome
        cases same
        have read := (TagText.of_mapM_parseLine each).2
        rw [eq_of_mem_iff fun tag => (mem_ofList.trans (read tag)).trans (members tag).symm]

/-- Only the parts count, and of these only which there are: not their order, not how often they are
there, and not the empty ones. -/
theorem parse_eq_of_parts {one other : TagText}
    (same : ∀ part, part ≠ [] → (part ∈ one.parts ↔ part ∈ other.parts)) :
    (parse (some one)).toOption = (parse (some other)).toOption := by
  have tight (one other : TagText)
      (covered : ∀ part, part ≠ [] → part ∈ other.parts → part ∈ one.parts)
      (unbroken : ∀ part ∈ one.parts, ¬ Broken part) : ∀ part ∈ other.parts, ¬ Broken part := by
    rintro part among ⟨c, inside, blank⟩
    have kept := covered part (List.ne_nil_of_mem inside) among
    exact unbroken part kept ⟨c, inside, blank⟩
  have members (tag : String) : tag ≠ "" ∧ tag.toList ∈ one.parts ↔ tag ≠ "" ∧ tag.toList ∈ other.parts :=
    and_congr_right fun filled => same tag.toList (by simpa using filled)
  refine toOption_eq_of_ok_iff fun tags => ?_
  simp only [parse_eq_ok_iff, members]
  refine and_congr_left fun _ => ⟨?_, ?_⟩
  · exact tight one other fun part filled => (same part filled).2
  · exact tight other one fun part filled => (same part filled).1

theorem parse_line (text : String) : parse (some (.line text)) = (TagText.parseLine text).map ofList := by
  rw [parse, TagText.lines, List.mapM_cons]
  cases TagText.parseLine text with
  | error => rfl
  | ok tags => simp [bind, Except.bind, pure, Except.pure, Except.map]

/-- A list of texts is refused as the first of them that is refused by itself, -/
theorem parse_entries_eq_error_iff {texts : List String} {error : CompileError} :
    parse (some (.entries texts)) = .error error ↔
      ∃ before text after, texts = before ++ text :: after ∧
        (∀ earlier ∈ before, ∃ tags, parse (some (.line earlier)) = .ok tags) ∧
        parse (some (.line text)) = .error error := by
  simp only [parse_line, map_eq_error, map_eq_ok]
  simp only [parse, TagText.lines, bind_eq_error, mapM_eq_error, pure, Except.pure, reduceCtorEq,
    and_false, exists_false, or_false]
  simp

/-- and has otherwise the tags of each of them. -/
theorem parse_entries_eq_ok_iff {texts : List String} {tags : TagSet} :
    parse (some (.entries texts)) = .ok tags ↔
      ∃ sets : List TagSet, texts.map (fun text => parse (some (.line text))) = sets.map .ok ∧
        ∀ tag, tag ∈ tags ↔ ∃ set ∈ sets, tag ∈ set := by
  have union (tags : TagSet) (read : parse (some (.entries texts)) = .ok tags) :
      ∃ sets : List TagSet, texts.map (fun text => parse (some (.line text))) = sets.map .ok ∧
        ∀ tag, tag ∈ tags ↔ ∃ set ∈ sets, tag ∈ set := by
    obtain ⟨lists, each, same⟩ := bind_eq_ok.1 read
    cases same
    refine ⟨lists.map ofList, ?_, fun tag => by simp [mem_ofList]⟩
    have lines : texts.map TagText.parseLine = lists.map .ok := mapM_eq_ok.1 each
    calc texts.map (fun text => parse (some (.line text)))
        = (texts.map TagText.parseLine).map (·.map ofList) := by simp [parse_line]
      _ = (lists.map ofList).map .ok := by simp [lines, Except.map]
  refine ⟨union tags, ?_⟩
  rintro ⟨sets, each, members⟩
  cases outcome : parse (some (.entries texts)) with
  | error error =>
      obtain ⟨before, text, after, split, _, failed⟩ := parse_entries_eq_error_iff.1 outcome
      have among : Except.error error ∈ sets.map Except.ok := by
        rw [← each, split, ← failed]
        exact List.mem_map_of_mem (by simp)
      simp at among
  | ok other =>
      obtain ⟨found, again, others⟩ := union other outcome
      have same : found = sets := List.map_injective_iff.2 (fun _ _ => Except.ok.inj) (again.symm.trans each)
      subst same
      rw [eq_of_mem_iff fun tag => (others tag).trans (members tag).symm]

/-- The listing of a set that was read, with a comma and a blank between the tags, is read as this
set. -/
theorem parse_intercalate {written : Option TagText} {tags : TagSet} (read : parse written = .ok tags) :
    parse (some (.line (", ".intercalate tags.toList))) = .ok tags := by
  have each := isTag_of_parse read
  rw [parse_eq_ok_iff, TagText.parts_line]
  by_cases none : tags.toList = []
  · have blank : Text.commaParts (", ".intercalate tags.toList) = [[]] := by rw [none]; rfl
    rw [blank]
    refine ⟨by simp [Broken], fun tag => ?_⟩
    show tag ∈ tags.toList ↔ _
    simp [none]
  · have listed : Text.commaParts (", ".intercalate tags.toList) = tags.toList.map String.toList := by
      have blank : ∀ c ∈ [' '], Text.isBlank c = true := List.forall_mem_singleton.2 rfl
      rw [Text.commaParts_intercalate (show ", ".toList = ',' :: [' '] from rfl) blank none
        fun tag member => (each tag member).1.single]
      exact List.map_congr_left fun tag member => Text.trim_of_unblank (each tag member).2
    rw [listed]
    constructor
    · refine List.forall_mem_map.2 ?_
      rintro tag member ⟨c, inside, blank⟩
      simp [(each tag member).2 c inside] at blank
    · intro tag
      rw [List.mem_map_of_injective fun _ _ => String.toList_injective]
      exact ⟨fun member => ⟨(each tag member).1.filled, member⟩, And.right⟩

/-- What a text that lists tags means. It is refused just if there is a blank in one of its parts, which
is just if the text has blanks between two characters of tags; otherwise its tags are its parts, but for
the empty ones. A list of texts is refused as the first of them that is refused, and has otherwise the
tags of each of them. So the order of the parts, their repetition and the blanks around them do not
matter, a text is read as the texts between its commas are, and the listing of a set is read as the
set. -/
theorem parse_listing :
    (∀ text : String,
      (∀ error, parse (some (.line text)) = .error error ↔
        (∃ part ∈ Text.commaParts text, Broken part) ∧ error = .invalidExpression text .blankInTag) ∧
      ((∃ part ∈ Text.commaParts text, Broken part) ↔ Gapped text.toList) ∧
      ∀ tags, parse (some (.line text)) = .ok tags ↔
        (∀ part ∈ Text.commaParts text, ¬ Broken part) ∧
          ∀ tag : String, tag ∈ tags ↔ tag ≠ "" ∧ tag.toList ∈ Text.commaParts text) ∧
    (∀ texts : List String,
      (∀ error, parse (some (.entries texts)) = .error error ↔
        ∃ before text after, texts = before ++ text :: after ∧
          (∀ earlier ∈ before, ∃ tags, parse (some (.line earlier)) = .ok tags) ∧
          parse (some (.line text)) = .error error) ∧
      ∀ tags, parse (some (.entries texts)) = .ok tags ↔
        ∃ sets : List TagSet, texts.map (fun text => parse (some (.line text))) = sets.map .ok ∧
          ∀ tag, tag ∈ tags ↔ ∃ set ∈ sets, tag ∈ set) ∧
    (∀ one other : TagText, (∀ part, part ≠ [] → (part ∈ one.parts ↔ part ∈ other.parts)) →
      (parse (some one)).toOption = (parse (some other)).toOption) ∧
    (∀ text : String, (parse (some (.line text))).toOption =
      (parse (some (.entries ((text.toList.splitOn ',').map String.ofList)))).toOption) ∧
    ∀ written tags, parse written = .ok tags →
      parse (some (.line (", ".intercalate tags.toList))) = .ok tags := by
  refine ⟨fun text => ⟨fun error => ?_, ?_, fun tags => ?_⟩, fun texts => ⟨fun error => ?_, fun tags => ?_⟩,
    fun one other => parse_eq_of_parts, fun text => ?_, fun written tags => parse_intercalate⟩
  · rw [parse_line, map_eq_error, TagText.parseLine_eq_error_iff]
  · rw [← hasGap_iff_gapped, hasGap_commaParts]
    simp only [List.any_eq_true, Broken]
  · rw [parse_eq_ok_iff, TagText.parts_line]
  · exact parse_entries_eq_error_iff
  · exact parse_entries_eq_ok_iff
  · exact parse_eq_of_parts fun part _ => by rw [TagText.parts_line, TagText.parts_split]

/-- Blanks around the commas, an empty part and a repetition: the set is that of the plain list. A tag in
two words is refused, alone and in a list. -/
theorem parse_listing_spaced :
    parse (some (.line " b ,a,, b")) = .ok (ofList ["a", "b"]) ∧
    parse (some (.entries ["a", "b"])) = .ok (ofList ["a", "b"]) ∧
    (parse (some (.line " b ,a,, b"))).toOption = (parse (some (.entries ["a", "b"]))).toOption ∧
    parse (some (.line "a, b")) = .ok (ofList ["a", "b"]) ∧
    parse (some (.line "a, lamp lit")) = .error (.invalidExpression "a, lamp lit" .blankInTag) ∧
    parse (some (.entries ["a", "lamp lit", "b c"])) =
      .error (.invalidExpression "lamp lit" .blankInTag) := by
  obtain ⟨single, several, unordered, _, listing⟩ := parse_listing
  have read : parse (some (.line " b ,a,, b")) = .ok (ofList ["a", "b"]) := rfl
  have broken : ∃ part ∈ Text.commaParts "lamp lit", Broken part := by decide
  have alone := ((single "lamp lit").1 _).2 ⟨broken, rfl⟩
  refine ⟨read, rfl, unordered _ _ fun part filled => ?_, listing _ _ read, ?_, ?_⟩
  · have parts : (TagText.line " b ,a,, b").parts = [['b'], ['a'], [], ['b']] := rfl
    have plain : (TagText.entries ["a", "b"]).parts = [['a'], ['b']] := rfl
    rw [parts, plain]
    grind
  · exact ((single "a, lamp lit").1 _).2 ⟨by decide, rfl⟩
  · have first : ∀ earlier ∈ ["a"], ∃ tags, parse (some (.line earlier)) = .ok tags := by
      simpa using ⟨ofList ["a"], rfl⟩
    exact ((several ["a", "lamp lit", "b c"]).1 _).2 ⟨["a"], _, ["b c"], rfl, first, alone⟩

end TagSet

end Narrative
