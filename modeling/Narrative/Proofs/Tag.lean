/-
Module: Narrative.Proofs.Tag
Purpose: What a text that lists tags can bring into a set: texts that are not empty, with neither a
  comma nor a blank in them.
Main exports: IsTag, Unbroken, hasGap_commaParts, TagText.parseLine_eq, TagSet.mem_ofList,
  TagSet.mem_apply, TagSet.isTag_of_parse
-/
import Narrative.Proofs.Outcome
import Narrative.Proofs.Text.Parts
import Narrative.Tag

namespace Narrative

/-! ### Texts that can be tags -/

/-- The text is not empty, and has no comma, which would end it in a list. -/
structure IsTag (tag : String) : Prop where
  filled : tag ≠ ""
  single : ',' ∉ tag.toList

/-- The text has no blank. -/
def Unbroken (tag : String) : Prop := ∀ c ∈ tag.toList, Text.isBlank c = false

instance (tag : String) : Decidable (Unbroken tag) :=
  List.decidableBAll (fun c => Text.isBlank c = false) tag.toList

/-! ### Gaps -/

variable {part : List Char}

theorem hasGap_gap (whole : ',' ∉ part) : hasGap .gap part = part.any fun c => !Text.isBlank c := by
  induction part with
  | nil => rfl
  | cons c rest ih =>
      obtain ⟨other, whole⟩ := not_or.1 (mt List.mem_cons.2 whole)
      cases blank : Text.isBlank c <;> simp [hasGap, Ne.symm other, blank, ih whole]

/-- After a tag there is a gap if something other than a blank comes after the next blank. -/
theorem hasGap_tag (whole : ',' ∉ part) : hasGap .tag part =
    (part.dropWhile fun c => !Text.isBlank c).any fun c => !Text.isBlank c := by
  induction part with
  | nil => rfl
  | cons c rest ih =>
      obtain ⟨other, whole⟩ := not_or.1 (mt List.mem_cons.2 whole)
      cases blank : Text.isBlank c with
      | false => simp [hasGap, Ne.symm other, blank, ih whole]
      | true => simp [hasGap, Ne.symm other, blank, hasGap_gap whole]

theorem hasGap_nothing (whole : ',' ∉ part) :
    hasGap .nothing part = hasGap .tag (Text.trimLeft part) := by
  induction part with
  | nil => rfl
  | cons c rest ih =>
      obtain ⟨other, whole⟩ := not_or.1 (mt List.mem_cons.2 whole)
      cases blank : Text.isBlank c with
      | false => simp [hasGap, Text.trimLeft, Ne.symm other, blank]
      | true => simpa [hasGap, Text.trimLeft, Ne.symm other, blank] using ih whole

/-- A blank that stays when the end of a text is trimmed has something other than a blank after it. -/
theorem any_trimRight (cs : List Char) : (Text.trimRight cs).any Text.isBlank =
    (cs.dropWhile fun c => !Text.isBlank c).any fun c => !Text.isBlank c := by
  induction cs with
  | nil => rfl
  | cons c rest ih =>
      rw [Text.trimRight_cons]
      cases blank : Text.isBlank c with
      | false => simp [blank, ih]
      | true => cases blanks : rest.all Text.isBlank <;> simp [blank, blanks, List.any_eq_not_all_not]

/-- A part has a gap if there is a blank in it other than those around it. -/
theorem hasGap_part (whole : ',' ∉ part) :
    hasGap .nothing part = (Text.trim part).any Text.isBlank := by
  have inner : ',' ∉ Text.trimLeft part := fun comma => whole ((List.dropWhile_sublist _).mem comma)
  rw [hasGap_nothing whole, hasGap_tag inner, Text.trim, any_trimRight]

/-- A character other than a comma closes a gap, or all that follows is read after something else. -/
theorem hasGap_cons_cases (before : TagBefore) {c : Char} (other : c ≠ ',') :
    (∀ rest, hasGap before (c :: rest) = true) ∨
      ∃ next, ∀ rest, hasGap before (c :: rest) = hasGap next rest := by
  cases blank : Text.isBlank c with
  | true =>
      refine .inr ?_
      cases before with
      | nothing => exact ⟨.nothing, fun rest => by simp [hasGap, other, blank]⟩
      | tag | gap => exact ⟨.gap, fun rest => by simp [hasGap, other, blank]⟩
  | false =>
      cases before with
      | gap => exact .inl fun rest => by simp [hasGap, other, blank]
      | nothing | tag => exact .inr ⟨.tag, fun rest => by simp [hasGap, other, blank]⟩

/-- A gap in a text lies in one of its parts. What was read before the text counts for the first. -/
theorem hasGap_splitOn (before : TagBefore) (cs : List Char) :
    ∃ first others, cs.splitOn ',' = first :: others ∧
      hasGap before cs = (hasGap before first || others.any (hasGap .nothing)) := by
  induction cs generalizing before with
  | nil => exact ⟨[], [], by simp, by cases before <;> rfl⟩
  | cons c rest ih =>
      rw [List.splitOn_cons_eq_if_modifyHead]
      by_cases comma : c = ','
      · subst comma
        obtain ⟨first, others, split, gaps⟩ := ih .nothing
        refine ⟨[], first :: others, by simp [split], ?_⟩
        cases before <;> simpa [hasGap] using gaps
      · rcases hasGap_cons_cases before comma with gap | ⟨next, reads⟩
        · obtain ⟨first, others, split, _⟩ := ih before
          exact ⟨c :: first, others, by simp [split, comma], by simp [gap]⟩
        · obtain ⟨first, others, split, gaps⟩ := ih next
          exact ⟨c :: first, others, by simp [split, comma], by rw [reads, reads, gaps]⟩

/-- A text has a gap if there is a blank in one of its parts. -/
theorem hasGap_commaParts (text : String) :
    hasGap .nothing text.toList = (Text.commaParts text).any (·.any Text.isBlank) := by
  obtain ⟨first, others, split, gaps⟩ := hasGap_splitOn .nothing text.toList
  rw [gaps, Text.commaParts, List.any_map, ← List.any_cons, ← split, Bool.eq_iff_iff,
    List.any_eq_true, List.any_eq_true]
  refine exists_congr fun part => and_congr_right fun among => ?_
  rw [hasGap_part (not_mem_of_mem_splitOn part among)]
  rfl

/-- A text that lists tags is refused if there is a blank in one of its parts; otherwise its parts are
the tags, but those that are empty. -/
theorem TagText.parseLine_eq (text : String) :
    parseLine text =
      if (Text.commaParts text).any (·.any Text.isBlank) then
        .error (.invalidExpression text .blankInTag)
      else .ok (((Text.commaParts text).filter fun part => !part.isEmpty).map String.ofList) := by
  rw [parseLine, hasGap_commaParts]
  rfl

/-! ### Sets of tags -/

theorem TagSet.mem_ofList {tags : List String} {tag : String} : tag ∈ ofList tags ↔ tag ∈ tags := by
  have grown (set : TagSet) : tag ∈ tags.foldl insert set ↔ tag ∈ set ∨ tag ∈ tags := by
    induction tags generalizing set with
    | nil => simp
    | cons first rest ih =>
        rw [List.foldl_cons, ih, mem_insert, List.mem_cons, or_comm (a := tag = first), or_assoc]
  rw [ofList, grown]
  exact or_iff_right List.not_mem_nil

theorem TagText.isTag_of_parseLine {text : String} {tags : List String}
    (read : parseLine text = .ok tags) : ∀ tag ∈ tags, IsTag tag ∧ Unbroken tag := by
  rw [parseLine_eq] at read
  split at read
  next => cases read
  next tight =>
    cases read
    intro tag member
    obtain ⟨part, kept, rfl⟩ := List.mem_map.1 member
    obtain ⟨among, filled⟩ := List.mem_filter.1 kept
    refine ⟨⟨by simpa using filled, ?_⟩, ?_⟩
    · rw [String.toList_ofList]
      exact Text.not_mem_of_mem_commaParts part among
    · intro c inside
      rw [String.toList_ofList] at inside
      simp only [List.any_eq_true, not_exists, not_and, Bool.not_eq_true] at tight
      exact tight part among c inside

/-- Every tag of a set that was read is one, without blanks. -/
theorem TagSet.isTag_of_parse {written : Option TagText} {tags : TagSet}
    (read : parse written = .ok tags) : ∀ tag ∈ tags, IsTag tag ∧ Unbroken tag := by
  cases written with
  | none =>
      cases read
      intro tag member
      cases member
  | some text =>
      obtain ⟨lines, each, same⟩ := bind_eq_ok.1 read
      cases same
      intro tag member
      obtain ⟨line, among, inside⟩ := List.mem_flatten.1 (mem_ofList.1 member)
      exact forall_of_mapM (fun _ _ => TagText.isTag_of_parseLine) each line among tag inside

/-- A manipulation brings no tag into a set but its own, and it does not bring that one by removing it. -/
theorem TagSet.mem_apply {tags changed : TagSet} {tag : String} {manipulation : Manipulation}
    {moved : Bool} (applied : tags.apply tag manipulation = (changed, moved)) :
    ∀ other ∈ changed, other ∈ tags ∨ (other = tag ∧ manipulation ≠ .remove) := by
  intro other member
  cases manipulation with
  | add =>
      simp only [apply, add] at applied
      split at applied <;> cases applied
      · exact .inl member
      · exact (mem_insert.1 member).symm.imp_right fun same => ⟨same, by decide⟩
  | remove =>
      simp only [apply, remove] at applied
      split at applied <;> cases applied
      · exact .inl (mem_erase.1 member).1
      · exact .inl member
  | invert =>
      simp only [apply, add, remove] at applied
      split at applied <;> cases applied
      · exact .inl (mem_erase.1 member).1
      · exact (mem_insert.1 member).symm.imp_right fun same => ⟨same, by decide⟩

end Narrative
