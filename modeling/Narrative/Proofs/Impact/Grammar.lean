/-
Module: Narrative.Proofs.Impact.Grammar
Purpose: Which texts are lists of impacts, what is wrong with the others, and that a list of impacts
  that was read is written as it was.
Main exports: Reference.Spelled, Reference.parse_isOk_iff, Impact.Spelled, Impact.parse_isOk_iff,
  Impact.Refused, Impact.parse_eq_error_iff, Impact.lists_spelled
-/
import Narrative.Proofs.Impact

namespace Narrative

/-! ### References -/

/-- The texts of references: a word, or two with a point between them. -/
inductive Reference.Spelled : List Char → Prop
  | own {property : List Char} (word : IsWord property) : Spelled property
  | qualified {element property : List Char} (first : IsWord element) (second : IsWord property) :
    Spelled (element ++ '.' :: property)

theorem Reference.Spelled.filled {cs : List Char} (spelled : Spelled cs) : cs ≠ [] := by
  cases spelled with
  | own word => exact word.filled
  | qualified => simp

/-- The texts that are read as references are those of the grammar. -/
theorem Reference.parse_isOk_iff (cs : List Char) :
    (∃ reference, parse (String.ofList cs) = .ok reference) ↔ Spelled cs := by
  simp only [parse_eq_ok_iff, String.toList_ofList]
  constructor
  · rintro ⟨reference, written⟩
    cases written with
    | own word => exact .own word
    | qualified first second => exact .qualified first second
  · intro spelled
    cases spelled with
    | own word => exact ⟨_, .own word⟩
    | qualified first second => exact ⟨_, .qualified first second⟩

/-! ### One impact -/

namespace Impact

/-- The texts of impacts. -/
inductive Spelled : List Char → Prop
  | manipulate (manipulation : Manipulation) {argument : List Char}
      (reference : Reference.Spelled argument) : Spelled (manipulation.sign :: argument)
  | focus {key : List Char} (word : IsWord key) : Spelled ('>' :: key)
  | event {argument : List Char} (reference : Reference.Spelled argument) : Spelled ('#' :: argument)

/-- What is wrong with a text without blanks around it that is not that of an impact. -/
inductive Refused : List Char → CompileError → Prop
  | short {part : List Char} (few : part.length < 2) :
    Refused part (.invalidExpression (String.ofList part) .notEnoughArguments)
  | target {key : List Char} (point : '.' ∈ key) :
    Refused ('>' :: key) (.invalidExpression (String.ofList ('>' :: key)) .targetNotPlain)
  | sign {sign : Char} {argument : List Char} (filled : argument ≠ [])
      (unknown : sign ∉ ['+', '-', '!', '>', '#']) :
    Refused (sign :: argument)
      (.invalidExpression (String.ofList (sign :: argument)) (.unknownSign sign))
  | reference {sign : Char} {argument : List Char} (filled : argument ≠ [])
      (known : sign ∈ ['+', '-', '!', '#']) (bad : ¬ Reference.Spelled argument) :
    Refused (sign :: argument) (.malformedReference (String.ofList argument))

/-- The reference in an impact. -/
def reference? : Impact → Option Reference
  | .manipulate _ reference | .event reference => some reference
  | .focus _ => none

theorem few_iff {argument : List Char} : argument.length + 1 < 2 ↔ argument = [] := by
  cases argument <;> simp

/-- No text is both that of an impact and refused. -/
theorem Spelled.not_refused {cs : List Char} {error : CompileError} (spelled : Spelled cs) :
    ¬ Refused cs error := by
  intro refused
  cases refused with
  | short few =>
      cases spelled with
      | manipulate _ reference | event reference =>
          exact reference.filled (few_iff.1 few)
      | focus word => exact word.filled (few_iff.1 few)
  | target point =>
      generalize text : '>' :: _ = cs at spelled
      cases spelled with
      | manipulate manipulation => cases manipulation <;> cases text
      | focus word =>
          cases text
          exact word.whole point
      | event => cases text
  | sign _ unknown =>
      cases spelled with
      | manipulate manipulation => cases manipulation <;> simp [Manipulation.sign] at unknown
      | focus | event => simp at unknown
  | reference _ known bad =>
      cases spelled with
      | manipulate _ reference | event reference => exact bad reference
      | focus => simp at known

/-- There is one thing wrong with a text. -/
theorem Refused.unique {cs : List Char} {error other : CompileError} (refused : Refused cs error)
    (again : Refused cs other) : error = other := by
  cases refused <;> cases again <;> grind [few_iff]

theorem parse_trim (cs : List Char) : parse (Text.trim cs) = parse cs := by
  unfold parse
  rw [Text.trim_trim]

/-- The outcome is that which the grammar has for the text. -/
def Decides (cs : List Char) (outcome : Except CompileError Impact) : Prop :=
  (∃ impact, outcome = .ok impact ∧ Spelled cs) ∨ ∃ error, outcome = .error error ∧ Refused cs error

/-- After a sign that takes a reference, the reference decides. -/
theorem decides_reference {sign : Char} {argument : List Char} (filled : argument ≠ [])
    (known : sign ∈ ['+', '-', '!', '#'])
    (spelled : Reference.Spelled argument → Spelled (sign :: argument)) (make : Reference → Impact) :
    Decides (sign :: argument) ((Reference.parse (String.ofList argument)).map make) := by
  cases outcome : Reference.parse (String.ofList argument) with
  | ok reference => exact .inl ⟨_, rfl, spelled ((Reference.parse_isOk_iff argument).1 ⟨_, outcome⟩)⟩
  | error error =>
      have bad : ¬ Reference.Spelled argument := by
        rw [← Reference.parse_isOk_iff, outcome]
        rintro ⟨_, impossible⟩
        cases impossible
      rw [Reference.parse_error outcome]
      exact .inr ⟨_, rfl, .reference filled known bad⟩

/-- A text is read or refused as the grammar has it for what is between the blanks around it. -/
theorem decides_parse (cs : List Char) : Decides (Text.trim cs) (parse cs) := by
  obtain ⟨few, failed⟩ | ⟨sign, argument, trimmed, filled, reads⟩ := parse_cases cs
  · exact .inr ⟨_, failed, .short few⟩
  · rw [trimmed, reads]
    obtain ⟨manipulation, rfl⟩ | rfl | rfl | unknown := sign_cases sign
    · rw [ofSign_manipulate]
      exact decides_reference filled (by cases manipulation <;> decide) (.manipulate manipulation) _
    · rw [ofSign_focus]
      split
      next point => exact .inr ⟨_, rfl, .target point⟩
      next whole => exact .inl ⟨_, rfl, .focus ⟨filled, whole⟩⟩
    · rw [ofSign_event]
      exact decides_reference filled (by decide) .event _
    · exact .inr ⟨_, ofSign_unknown _ _ unknown, .sign filled unknown⟩

theorem parse_isOk_iff (cs : List Char) :
    (∃ impact, parse cs = .ok impact) ↔ Spelled (Text.trim cs) := by
  obtain ⟨impact, read, spelled⟩ | ⟨error, failed, refused⟩ := decides_parse cs
  · simp [read, spelled]
  · simp only [failed, reduceCtorEq, exists_false, false_iff]
    exact fun spelled => spelled.not_refused refused

theorem parse_eq_error_iff {cs : List Char} {error : CompileError} :
    parse cs = .error error ↔ Refused (Text.trim cs) error := by
  obtain ⟨impact, read, spelled⟩ | ⟨other, failed, refused⟩ := decides_parse cs
  · simp [read, spelled.not_refused]
  · rw [failed, Except.error.injEq]
    exact ⟨fun same => same ▸ refused, refused.unique⟩

/-- The reference of an impact that was read is read from its own text. -/
theorem reference_of_parse {cs : List Char} {impact : Impact} {reference : Reference}
    (read : parse cs = .ok impact) (has : impact.reference? = some reference) :
    Reference.parse reference.text = .ok reference := by
  have written := written_of_parse read
  generalize Text.trim cs = part at written
  cases written with
  | manipulate _ done | event done =>
      cases has
      exact Reference.parse_text done
  | focus => cases has

/-! ### Lists of impacts -/

theorem parseList_some (expression : String) :
    parseList (some expression) = (Text.commaParts expression).mapM parse := by
  rw [Text.commaParts, List.mapM_map]
  exact congrArg (List.mapM · _) (funext fun part => (parse_trim part).symm)

variable {expression : String} {impacts : List Impact}

theorem parseList_eq_error_iff {error : CompileError} :
    parseList (some expression) = .error error ↔
      ∃ before part after, Text.commaParts expression = before ++ part :: after ∧
        (∀ earlier ∈ before, Spelled earlier) ∧ Refused part error := by
  rw [parseList_some, mapM_eq_error]
  refine exists_congr fun before => exists_congr fun part => exists_congr fun after =>
    and_congr_right fun split => ?_
  have trimmed (other : List Char) (among : other ∈ before ++ part :: after) : Text.trim other = other :=
    Text.trim_of_mem_commaParts other (split ▸ among)
  refine and_congr (forall₂_congr fun earlier among => ?_) ?_
  · rw [parse_isOk_iff, trimmed earlier (List.mem_append_left _ among)]
  · rw [parse_eq_error_iff, trimmed part (by simp)]

theorem parseList_isOk_iff :
    (∃ impacts, parseList (some expression) = .ok impacts) ↔
      ∀ part ∈ Text.commaParts expression, Spelled part := by
  constructor
  · rintro ⟨impacts, read⟩ part among
    rw [parseList_some] at read
    obtain ⟨impact, _, done⟩ := exists_result_of_mapM read part among
    rw [← Text.trim_of_mem_commaParts part among]
    exact (parse_isOk_iff part).1 ⟨impact, done⟩
  · intro spelled
    cases outcome : parseList (some expression) with
    | ok impacts => exact ⟨impacts, rfl⟩
    | error error =>
        obtain ⟨before, part, after, split, _, refused⟩ := parseList_eq_error_iff.1 outcome
        exact absurd refused (spelled part (by simp [split])).not_refused

/-- The texts of the impacts are the parts between the commas. -/
theorem parts_of_parseList (read : parseList (some expression) = .ok impacts) :
    impacts.map text = (Text.commaParts expression).map String.ofList := by
  rw [texts_of_parseList read, Text.commaParts, List.map_map]
  rfl

/-- What was read is read again from its texts with commas between them. -/
theorem parseList_intercalate (read : parseList (some expression) = .ok impacts) :
    parseList (some (",".intercalate (impacts.map text))) = .ok impacts := by
  have same : Text.commaParts (",".intercalate (impacts.map text)) = Text.commaParts expression := by
    rw [Text.commaParts_intercalate (show ",".toList = ',' :: [] from rfl) (List.forall_mem_nil _)]
    · rw [parts_of_parseList read, List.map_map]
      calc (Text.commaParts expression).map _
          = (Text.commaParts expression).map id :=
            List.map_congr_left fun part among => by
              simpa using Text.trim_of_mem_commaParts part among
        _ = Text.commaParts expression := List.map_id _
    · rw [parts_of_parseList read]
      simp [Text.commaParts, List.splitOn_ne_nil]
    · rw [parts_of_parseList read]
      refine List.forall_mem_map.2 fun part among => ?_
      rw [String.toList_ofList]
      exact Text.not_mem_of_mem_commaParts part among
  rw [parseList_some, same, ← parseList_some, read]

/-- Which texts are lists of impacts, and what they mean. Every part between the commas has to be that of
an impact, without the blanks around it; otherwise the first part that is not decides what is wrong. If
all are, the parts are the texts of the impacts, in their order; the references are read from their own
texts and from no other; and the impacts are read again from their texts with commas between them. -/
theorem lists_spelled (expression : String) :
    ((∃ impacts, parseList (some expression) = .ok impacts) ↔
      ∀ part ∈ Text.commaParts expression, Spelled part) ∧
    (∀ error, parseList (some expression) = .error error ↔
      ∃ before part after, Text.commaParts expression = before ++ part :: after ∧
        (∀ earlier ∈ before, Spelled earlier) ∧ Refused part error) ∧
    ∀ impacts, parseList (some expression) = .ok impacts →
      impacts.map text = (Text.commaParts expression).map String.ofList ∧
      (∀ impact ∈ impacts, ∀ reference, impact.reference? = some reference →
        Reference.parse reference.text = .ok reference ∧
        ∀ written, Reference.parse written = .ok reference → reference.text = written) ∧
      parseList (some (",".intercalate (impacts.map text))) = .ok impacts := by
  refine ⟨parseList_isOk_iff, fun error => parseList_eq_error_iff, fun impacts read =>
    ⟨parts_of_parseList read, ?_, parseList_intercalate read⟩⟩
  intro impact member reference has
  rw [parseList_some] at read
  obtain ⟨part, _, done⟩ := exists_of_mapM read impact member
  exact ⟨reference_of_parse done has, fun written => Reference.text_of_parse⟩

/-- Blanks around the parts, a sign within a reference, and an element in capitals, which is kept. The
list with a part that is refused in the middle fails for this part, though a later one is refused too. -/
theorem lists_spelled_mixed :
    parseList (some " +lit ,!Player.#x, >cellar") =
      .ok [.manipulate .add (.own "lit"), .manipulate .invert (.player "Player" "#x"), .focus "cellar"] ∧
    parseList (some "+lit,!Player.#x,>cellar") =
      .ok [.manipulate .add (.own "lit"), .manipulate .invert (.player "Player" "#x"), .focus "cellar"] ∧
    parseList (some "#bell, -a..b ,>") = .error (.malformedReference "a..b") := by
  have read : parseList (some " +lit ,!Player.#x, >cellar") =
      .ok [.manipulate .add (.own "lit"), .manipulate .invert (.player "Player" "#x"), .focus "cellar"] := rfl
  have bell : Spelled "#bell".toList := .event (.own ⟨by decide, by decide⟩)
  have bad : ¬ Reference.Spelled "a..b".toList := by
    rw [← Reference.parse_isOk_iff]
    rintro ⟨reference, impossible⟩
    cases impossible
  have refused : Refused "-a..b".toList (.malformedReference "a..b") :=
    .reference (by decide) (by decide) bad
  refine ⟨read, ((lists_spelled _).2.2 _ read).2.2, ((lists_spelled _).2.1 _).2 ?_⟩
  exact ⟨["#bell".toList], "-a..b".toList, [['>']], rfl, by simpa using bell, refused⟩

end Impact

end Narrative
