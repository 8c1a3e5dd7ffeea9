/-
Module: Narrative.Proofs.Requirement.Placement
Purpose: What the reading of requirements accepts. The texts of the grammar are those that are
  accepted and in which every token stands in its place: an operand where an operand is due, and an
  operator or a closing bracket where an operand has ended. The reading itself only matches brackets
  and counts operands.
Main exports: Turn, inPlace, Formula.steps_of_ofSteps, Step.operands_of_arrange, Reads.inPlace_append,
  complete_of_arrange, error_of_parse, reads_of_parse
-/
import Narrative.Proofs.Requirement.Precedence

namespace Narrative

/-! ### What is accepted

The steps that build a formula are the steps of that formula, and the operands among them are the
atoms of the text in their order. -/

/-- The steps of formulas on a stack, the last formula first. -/
def Formula.stackSteps (stack : List Formula) : List Step := stack.reverse.flatMap Formula.steps

/-- One push adds its step to the steps that the stack stands for. -/
theorem Formula.steps_of_push {expression : String} {step : Step} {stack next : List Formula}
    (pushed : push expression step stack = .ok next)
    (readable : ∀ formula ∈ stack, formula.Readable) :
    stackSteps next = stackSteps stack ++ [step] ∧ ∀ formula ∈ next, formula.Readable := by
  unfold push at pushed
  split at pushed
  · next text =>
      cases read : Reference.parse (String.ofList text) with
      | error error =>
          rw [read] at pushed
          cases pushed
      | ok reference =>
          rw [read] at pushed
          cases pushed
          have head := (readable_fact reference).2 (Reference.parse_text read)
          refine ⟨?_, List.forall_mem_cons.2 ⟨head, readable⟩⟩
          simp [stackSteps, steps, Reference.text_of_parse read]
  · cases pushed
    obtain ⟨operand, others⟩ := List.forall_mem_cons.1 readable
    exact ⟨by simp [stackSteps, steps], List.forall_mem_cons.2 ⟨operand, others⟩⟩
  · cases pushed
    obtain ⟨right, readable⟩ := List.forall_mem_cons.1 readable
    obtain ⟨left, others⟩ := List.forall_mem_cons.1 readable
    refine ⟨by simp [stackSteps, steps], List.forall_mem_cons.2 ⟨?_, others⟩⟩
    exact (readable_and _ _).2 ⟨left, right⟩
  · cases pushed
    obtain ⟨right, readable⟩ := List.forall_mem_cons.1 readable
    obtain ⟨left, others⟩ := List.forall_mem_cons.1 readable
    refine ⟨by simp [stackSteps, steps], List.forall_mem_cons.2 ⟨?_, others⟩⟩
    exact (readable_or _ _).2 ⟨left, right⟩
  · cases pushed

/-- What an accepted run of steps leaves on the stack was built from the stack before and the
steps. -/
theorem Formula.steps_of_foldlM {expression : String} {steps : List Step}
    {stack result : List Formula}
    (built : steps.foldlM (fun stack step => push expression step stack) stack = .ok result)
    (readable : ∀ formula ∈ stack, formula.Readable) :
    stackSteps result = stackSteps stack ++ steps ∧ ∀ formula ∈ result, formula.Readable := by
  induction steps generalizing stack with
  | nil =>
      cases built
      exact ⟨by simp, readable⟩
  | cons step rest ih =>
      rw [List.foldlM_cons] at built
      cases pushed : push expression step stack with
      | error error =>
          rw [pushed] at built
          cases built
      | ok next =>
          rw [pushed] at built
          obtain ⟨one, readable⟩ := steps_of_push pushed readable
          obtain ⟨whole, read⟩ := ih built readable
          exact ⟨by rw [whole, one, List.append_assoc]; rfl, read⟩

/-- A formula is built from its own steps only. -/
theorem Formula.steps_of_ofSteps {expression : String} {steps : List Step} {formula : Formula}
    (built : ofSteps expression steps = .ok formula) : steps = formula.steps ∧ formula.Readable := by
  unfold ofSteps at built
  cases run : steps.foldlM (fun stack step => push expression step stack) [] with
  | error error =>
      rw [run] at built
      cases built
  | ok result =>
      rw [run] at built
      obtain ⟨whole, readable⟩ := steps_of_foldlM run (by simp)
      rcases result with _ | ⟨only, _ | ⟨_, _⟩⟩
      · cases built
      · cases built
        exact ⟨by simpa [stackSteps] using whole.symm, readable formula List.mem_cons_self⟩
      · cases built

namespace Step

/-- The texts of the operands among steps. -/
def operands (steps : List Step) : List (List Char) :=
  steps.filterMap fun
    | .operand text => some text
    | .operator _ => none

theorem operands_append (steps more : List Step) :
    operands (steps ++ more) = operands steps ++ operands more :=
  List.filterMap_append

theorem mem_operands {text : List Char} {steps : List Step} :
    text ∈ operands steps ↔ .operand text ∈ steps := by
  rw [operands, List.mem_filterMap]
  constructor
  · rintro ⟨step, mem, shown⟩
    cases step with
    | operand other =>
        cases shown
        exact mem
    | operator op => cases shown
  · intro mem
    exact ⟨_, mem, rfl⟩

/-- Operators are no operands. -/
theorem operands_applied (ops : List Operator) : operands (applied ops) = [] := by
  simp [operands, applied]

theorem operands_release (op : Operator) (stack : List Waiting) :
    operands (release op stack).1 = [] := by
  obtain ⟨ops, released, _⟩ := exists_released op stack
  rw [released, operands_applied]

theorem operands_close? {stack below : List Waiting} {steps : List Step}
    (closed : close? stack = some (steps, below)) : operands steps = [] := by
  obtain ⟨ops, rfl, _⟩ := exists_closed closed
  exact operands_applied ops

theorem operands_finish? {stack : List Waiting} {steps : List Step}
    (finished : finish? stack = some steps) : operands steps = [] := by
  obtain ⟨ops, rfl, _⟩ := exists_finished finished
  exact operands_applied ops

end Step

/-- The texts of the atoms among tokens. -/
def Token.atoms (tokens : List Token) : List (List Char) :=
  tokens.filterMap fun
    | .atom text => some text
    | _ => none

theorem Token.mem_atoms {text : List Char} {tokens : List Token} :
    text ∈ Token.atoms tokens ↔ .atom text ∈ tokens := by
  rw [Token.atoms, List.mem_filterMap]
  constructor
  · rintro ⟨token, mem, shown⟩
    cases token with
    | atom other =>
        cases shown
        exact mem
    | operator op => cases shown
    | opening => cases shown
    | closing => cases shown
  · intro mem
    exact ⟨_, mem, rfl⟩

namespace Step

/-- An accepted arrangement after some steps. -/
theorem ok_of_map_append {result : Except MissingBracket (List Step)} {first steps : List Step}
    (mapped : result.map (first ++ ·) = .ok steps) :
    ∃ rest, result = .ok rest ∧ steps = first ++ rest := by
  cases result with
  | error missing => cases mapped
  | ok rest =>
      cases mapped
      exact ⟨rest, rfl, rfl⟩

/-- Postfix order keeps the operands and their order. -/
theorem operands_of_arrange {stack : List Waiting} {tokens : List Token} {steps : List Step}
    (arranged : arrange stack tokens = .ok steps) : operands steps = Token.atoms tokens := by
  induction tokens generalizing stack steps with
  | nil =>
      unfold arrange at arranged
      split at arranged
      · next finished =>
          cases arranged
          exact operands_finish? finished
      · cases arranged
  | cons token rest ih =>
      cases token with
      | atom text =>
          rw [arrange_atom] at arranged
          obtain ⟨others, inner, rfl⟩ := ok_of_map_append arranged
          rw [operands_append, ih inner]
          rfl
      | operator op =>
          rw [arrange_operator rfl] at arranged
          obtain ⟨others, inner, rfl⟩ := ok_of_map_append arranged
          rw [operands_append, ih inner, operands_release]
          rfl
      | opening =>
          rw [arrange] at arranged
          rw [ih arranged]
          rfl
      | closing =>
          cases closed : close? stack with
          | none =>
              rw [arrange, closed] at arranged
              cases arranged
          | some found =>
              rw [arrange_closing closed] at arranged
              obtain ⟨others, inner, rfl⟩ := ok_of_map_append arranged
              rw [operands_append, ih inner, operands_close? closed]
              rfl

end Step

/-! ### Tokens in their place -/

/-- What is due next in a requirement: an operand, or an operator after an operand. -/
inductive Turn where
  | operand
  | operator
deriving Repr, DecidableEq

/-- Whether every token stands in its place: atoms, negations and opening brackets where an operand
is due, and the other tokens where an operand has ended, as it has to at the end. -/
def inPlace : Turn → List Token → Bool
  | .operand, .atom _ :: rest => inPlace .operator rest
  | .operand, .operator .not :: rest => inPlace .operand rest
  | .operand, .opening :: rest => inPlace .operand rest
  | .operand, _ => false
  | .operator, [] => true
  | .operator, .operator .and :: rest => inPlace .operand rest
  | .operator, .operator .or :: rest => inPlace .operand rest
  | .operator, .closing :: rest => inPlace .operator rest
  | .operator, _ => false

/-- After a phrase an operator is due. -/
theorem Reads.inPlace_append {rank : Rank} {tokens : List Token} {formula : Formula}
    (reads : Reads rank tokens formula) (rest : List Token) :
    inPlace .operand (tokens ++ rest) = inPlace .operator rest := by
  induction reads generalizing rest with
  | fact => rfl
  | not _ ih => exact ih rest
  | group _ ih =>
      rw [bracketed, List.cons_append, List.append_assoc, inPlace, ih]
      rfl
  | ofFactor _ ih => exact ih rest
  | ofProduct _ ih => exact ih rest
  | and _ _ first second | or _ _ first second =>
      rw [List.append_assoc, first, List.cons_append, inPlace, second]

/-! ### Tokens in their place with matching brackets are a derivation

The tokens before a point are, for each open bracket, a part that awaits an operand, and then the
current part. The brackets that are open are those on the stack. -/

/-- A part that an operand completes to a sum. -/
def Awaits (part : List Token) : Prop :=
  ∀ tokens formula, Reads .factor tokens formula → ∃ whole, Reads .sum (part ++ tokens) whole

/-- A part that is a sum. -/
def Complete (part : List Token) : Prop := ∃ formula, Reads .sum part formula

/-- What has to hold of the current part, by what is due next. -/
def Turn.Holds : Turn → List Token → Prop
  | .operand => Awaits
  | .operator => Complete

/-- Tokens inside open brackets, with the parts before the brackets, the innermost first. -/
def enclosed : List (List Token) → List Token → List Token
  | [], tokens => tokens
  | part :: parts, tokens => enclosed parts (part ++ .opening :: tokens)

/-- The empty part awaits an operand. -/
theorem awaits_nil : Awaits [] := fun _ formula reads => ⟨formula, reads.sum_of_factor⟩

theorem Awaits.not {part : List Token} (awaits : Awaits part) :
    Awaits (part ++ [.operator .not]) := by
  intro tokens formula reads
  rw [List.append_assoc]
  exact awaits _ _ (.not reads)

theorem Complete.or {part : List Token} (complete : Complete part) :
    Awaits (part ++ [.operator .or]) := by
  intro tokens formula reads
  obtain ⟨left, before⟩ := complete
  rw [List.append_assoc]
  exact ⟨_, .or before (.ofFactor reads)⟩

/-- A conjunction takes the last product of a sum as its left side. -/
theorem Complete.and {part : List Token} (complete : Complete part) :
    Awaits (part ++ [.operator .and]) := by
  intro tokens formula reads
  obtain ⟨whole, before⟩ := complete
  rw [List.append_assoc, List.singleton_append]
  cases before with
  | ofProduct inner => exact ⟨_, .ofProduct (.and inner reads)⟩
  | or first second =>
      rw [List.append_assoc]
      exact ⟨_, .or first (.and second reads)⟩

theorem Awaits.atom {part : List Token} (awaits : Awaits part) {text : List Char}
    (isText : AtomText text) {reference : Reference}
    (read : Reference.parse (String.ofList text) = .ok reference) :
    Complete (part ++ [.atom text]) :=
  awaits _ _ (.fact isText read)

theorem Awaits.group {part inner : List Token} (awaits : Awaits part) (complete : Complete inner) :
    Complete (part ++ bracketed inner) := by
  obtain ⟨formula, reads⟩ := complete
  exact awaits _ _ (.group reads)

namespace Step

/-- The number of brackets that are open on a stack. -/
def openings (stack : List Waiting) : Nat := stack.count .opening

theorem openings_opening (stack : List Waiting) :
    openings (.opening :: stack) = openings stack + 1 :=
  List.count_cons_self

theorem openings_waiting (ops : List Operator) (stack : List Waiting) :
    openings (waiting ops ++ stack) = openings stack := by
  simp [openings, waiting, List.count_eq_zero]

theorem openings_release (op : Operator) (stack : List Waiting) :
    openings (release op stack).2 = openings stack := by
  obtain ⟨ops, _, parts⟩ := exists_released op stack
  conv => rhs; rw [parts, openings_waiting]

theorem openings_close? {stack below : List Waiting} {steps : List Step}
    (closed : close? stack = some (steps, below)) : openings stack = openings below + 1 := by
  obtain ⟨ops, _, rfl⟩ := exists_closed closed
  rw [openings_waiting, openings_opening]

theorem openings_finish? {stack : List Waiting} {steps : List Step}
    (finished : finish? stack = some steps) : openings stack = 0 := by
  obtain ⟨ops, _, rfl⟩ := exists_finished finished
  have same := openings_waiting ops []
  rw [List.append_nil] at same
  exact same

end Step

open Step

/-- After an operator in its place an operand is due. -/
theorem Turn.Holds.awaits_operator {turn : Turn} {current rest : List Token} {op : Operator}
    (holds : turn.Holds current) (placed : inPlace turn (.operator op :: rest) = true) :
    Awaits (current ++ [.operator op]) ∧ inPlace .operand rest = true := by
  cases turn with
  | operand =>
      cases op with
      | not => exact ⟨holds.not, placed⟩
      | and => cases placed
      | or => cases placed
  | operator =>
      cases op with
      | not => cases placed
      | and => exact ⟨holds.and, placed⟩
      | or => exact ⟨holds.or, placed⟩

/-- Tokens in their place whose brackets match complete what is before them to a derivation. -/
theorem complete_of_arrange {stack : List Waiting} {tokens : List Token} {steps : List Step}
    (arranged : arrange stack tokens = .ok steps) (turn : Turn) (parts : List (List Token))
    (current : List Token) (level : parts.length = openings stack)
    (await : ∀ part ∈ parts, Awaits part) (holds : turn.Holds current)
    (placed : inPlace turn tokens = true)
    (atoms : ∀ text, .atom text ∈ tokens →
      AtomText text ∧ ∃ reference, Reference.parse (String.ofList text) = .ok reference) :
    Complete (enclosed parts (current ++ tokens)) := by
  induction tokens generalizing stack steps turn parts current with
  | nil =>
      cases turn with
      | operand => cases placed
      | operator =>
          unfold arrange at arranged
          split at arranged
          · next finished =>
              rw [openings_finish? finished] at level
              rw [List.eq_nil_of_length_eq_zero level, List.append_nil]
              exact holds
          · cases arranged
  | cons token rest ih =>
      have others : ∀ text, .atom text ∈ rest →
          AtomText text ∧ ∃ reference, Reference.parse (String.ofList text) = .ok reference :=
        fun text mem => atoms text (List.mem_cons_of_mem _ mem)
      have assoc : current ++ token :: rest = (current ++ [token]) ++ rest := by simp
      cases token with
      | atom text =>
          cases turn with
          | operator => cases placed
          | operand =>
              rw [arrange_atom] at arranged
              obtain ⟨_, inner, _⟩ := ok_of_map_append arranged
              obtain ⟨isText, reference, read⟩ := atoms text List.mem_cons_self
              rw [assoc]
              exact ih inner .operator parts _ level await (holds.atom isText read) placed others
      | operator op =>
          rw [arrange_operator rfl] at arranged
          obtain ⟨_, inner, _⟩ := ok_of_map_append arranged
          have same : parts.length = openings (.operator op :: (release op stack).2) := by
            simpa [openings, level] using (openings_release op stack).symm
          obtain ⟨awaits, later⟩ := holds.awaits_operator placed
          rw [assoc]
          exact ih inner .operand parts _ same await awaits later others
      | opening =>
          cases turn with
          | operator => cases placed
          | operand =>
              rw [arrange] at arranged
              refine ih arranged .operand (current :: parts) [] ?_ ?_ awaits_nil placed others
              · simp [openings, level]
              · intro part mem
                rcases List.mem_cons.1 mem with rfl | mem
                · exact holds
                · exact await part mem
      | closing =>
          cases turn with
          | operand => cases placed
          | operator =>
              cases closed : close? stack with
              | none =>
                  rw [arrange, closed] at arranged
                  cases arranged
              | some found =>
                  rw [arrange_closing closed] at arranged
                  obtain ⟨_, inner, _⟩ := ok_of_map_append arranged
                  rw [openings_close? closed] at level
                  cases parts with
                  | nil => cases level
                  | cons part parts =>
                      have group := (await part List.mem_cons_self).group holds
                      have below := ih inner .operator parts (part ++ bracketed current)
                        (by simpa using level)
                        (fun other mem => await other (List.mem_cons_of_mem part mem)) group placed
                        others
                      simpa [enclosed, bracketed] using below

/-! ### What is refused -/

/-- What can be wrong with a requirement: an operand or an operator too few, a bracket without its
partner, or an atom that is no reference. -/
def Requirement.Refusal (text : String) (error : CompileError) : Prop :=
  (∃ reason, error = .invalidExpression text reason) ∨
    (∃ missing, error = .unbalanced text missing) ∨
    ∃ atom, .atom atom ∈ Token.ofText text.toList ∧
      error = .malformedReference (String.ofList atom)

/-- A push fails for want of an operand or at an atom that is no reference. -/
theorem Formula.error_of_push {expression : String} {step : Step} {stack : List Formula}
    {error : CompileError} (failed : push expression step stack = .error error) :
    (∃ reason, error = .invalidExpression expression reason) ∨
      ∃ text, step = .operand text ∧ Reference.parse (String.ofList text) = .error error := by
  unfold push at failed
  split at failed
  · next text =>
      right
      refine ⟨text, rfl, ?_⟩
      cases read : Reference.parse (String.ofList text) with
      | error other =>
          rw [read] at failed
          cases failed
          rfl
      | ok reference =>
          rw [read] at failed
          cases failed
  · cases failed
  · cases failed
  · cases failed
  · cases failed
    exact .inl ⟨_, rfl⟩

theorem Formula.error_of_foldlM {expression : String} {steps : List Step} {stack : List Formula}
    {error : CompileError}
    (failed : steps.foldlM (fun stack step => push expression step stack) stack = .error error) :
    (∃ reason, error = .invalidExpression expression reason) ∨
      ∃ text, text ∈ Step.operands steps ∧ Reference.parse (String.ofList text) = .error error := by
  induction steps generalizing stack with
  | nil => cases failed
  | cons step rest ih =>
      rw [List.foldlM_cons] at failed
      cases pushed : push expression step stack with
      | error other =>
          rw [pushed] at failed
          cases failed
          rcases error_of_push pushed with invalid | ⟨text, rfl, malformed⟩
          · exact .inl invalid
          · exact .inr ⟨text, List.mem_cons_self, malformed⟩
      | ok next =>
          rw [pushed] at failed
          rcases ih failed with invalid | ⟨text, mem, malformed⟩
          · exact .inl invalid
          · refine .inr ⟨text, ?_, malformed⟩
            rw [Step.mem_operands] at mem ⊢
            exact List.mem_cons_of_mem step mem

/-- A reading fails for its brackets, for an operand or an operator too few, or at an atom that is no
reference. -/
theorem error_of_parse {text : String} {error : CompileError}
    (failed : Requirement.parse text = .error error) :
    (∃ missing, ofTokens (Token.ofText text.toList) = .error missing ∧
        error = .unbalanced text missing) ∨
      (∃ reason, error = .invalidExpression text reason) ∨
      ∃ atom, .atom atom ∈ Token.ofText text.toList ∧
        Reference.parse (String.ofList atom) = .error error := by
  unfold Requirement.parse at failed
  split at failed
  · next missing unmatched =>
      cases failed
      exact .inl ⟨missing, unmatched, rfl⟩
  · next steps arranged =>
      unfold Formula.ofSteps at failed
      cases run : steps.foldlM (fun stack step => Formula.push text step stack) [] with
      | error other =>
          rw [run] at failed
          cases failed
          rcases Formula.error_of_foldlM run with invalid | ⟨atom, mem, malformed⟩
          · exact .inr (.inl invalid)
          · rw [operands_of_arrange arranged, Token.mem_atoms] at mem
            exact .inr (.inr ⟨atom, mem, malformed⟩)
      | ok result =>
          rw [run] at failed
          rcases result with _ | ⟨only, _ | ⟨_, _⟩⟩
          · cases failed
            exact .inr (.inl ⟨_, rfl⟩)
          · cases failed
          · cases failed
            exact .inr (.inl ⟨_, rfl⟩)

/-- Every error of a reading says what is wrong. -/
theorem refusal_of_parse {text : String} {error : CompileError}
    (failed : Requirement.parse text = .error error) : Requirement.Refusal text error := by
  obtain ⟨missing, _, unbalanced⟩ | invalid | ⟨atom, mem, malformed⟩ := error_of_parse failed
  · exact .inr (.inl ⟨missing, unbalanced⟩)
  · exact .inl invalid
  · exact .inr (.inr ⟨atom, mem, Reference.parse_error malformed⟩)

/-! ### The grammar among what is accepted -/

/-- A text is read as a formula just if its brackets match and its tokens in postfix order are the
steps of the formula. -/
theorem parse_eq_ok_iff {text : String} {requirement : Requirement} :
    Requirement.parse text = .ok requirement ↔
      requirement.text = text ∧ ofTokens (Token.ofText text.toList) = .ok requirement.formula.steps ∧
        requirement.formula.Readable := by
  constructor
  · intro parsed
    unfold Requirement.parse at parsed
    split at parsed
    · cases parsed
    · next steps arranged =>
        cases built : Formula.ofSteps text steps with
        | error other =>
            rw [built] at parsed
            cases parsed
        | ok formula =>
            rw [built] at parsed
            cases parsed
            obtain ⟨same, readable⟩ := Formula.steps_of_ofSteps built
            exact ⟨rfl, by rw [arranged, same], readable⟩
  · rintro ⟨rfl, arranged, readable⟩
    rw [Requirement.parse, arranged]
    simp only [Formula.ofSteps_steps _ readable]
    rfl

/-- The operands of a formula are its references from left to right. -/
theorem Formula.operands_steps (formula : Formula) :
    Step.operands formula.steps = formula.references.map (·.text.toList) := by
  induction formula with
  | fact reference => rfl
  | not operand ih =>
      rw [steps, operands_append, ih, references]
      exact List.append_nil _
  | and left right first second | or left right first second =>
      rw [steps, operands_append, operands_append, first, second, references, List.map_append]
      exact List.append_nil _

/-- The atoms of an accepted text are references. -/
theorem atom_of_parse {text : String} {requirement : Requirement}
    (parsed : Requirement.parse text = .ok requirement) {atom : List Char}
    (mem : .atom atom ∈ Token.ofText text.toList) :
    ∃ reference, Reference.parse (String.ofList atom) = .ok reference := by
  obtain ⟨_, arranged, readable⟩ := parse_eq_ok_iff.1 parsed
  rw [← Token.mem_atoms, ← operands_of_arrange arranged, Formula.operands_steps,
    List.mem_map] at mem
  obtain ⟨reference, named, rfl⟩ := mem
  rw [String.ofList_toList]
  exact ⟨reference, readable reference named⟩

/-- An accepted text whose tokens are in their place is a derivation of its formula. -/
theorem reads_of_parse {text : String} {requirement : Requirement}
    (parsed : Requirement.parse text = .ok requirement)
    (placed : inPlace .operand (Token.ofText text.toList) = true) :
    Reads .sum (Token.ofText text.toList) requirement.formula := by
  obtain ⟨_, arranged, _⟩ := parse_eq_ok_iff.1 parsed
  obtain ⟨formula, reads⟩ := complete_of_arrange arranged .operand [] [] rfl (by simp) awaits_nil
    placed fun text mem =>
      ⟨Token.atomText_of_mem (Token.lexed_ofText _) mem, atom_of_parse parsed mem⟩
  have again := reads.parse_eq rfl
  rw [parsed] at again
  cases again
  exact reads

/-- The accepted texts are those whose brackets match and whose tokens in postfix order are the
steps of a formula. Such a text is a derivation of the grammar just if its tokens are in their
place, and then its formula is the tree of the derivation. A refused text is no derivation, and the
error says what is wrong with it. -/
theorem accepted_reads_iff (text : String) :
    (∀ requirement, Requirement.parse text = .ok requirement ↔
      requirement.text = text ∧
        Step.ofTokens (Token.ofText text.toList) = .ok requirement.formula.steps ∧
        requirement.formula.Readable) ∧
    (∀ requirement, Requirement.parse text = .ok requirement →
      ∀ formula, Reads .sum (Token.ofText text.toList) formula ↔
        inPlace .operand (Token.ofText text.toList) = true ∧ formula = requirement.formula) ∧
    ∀ error, Requirement.parse text = .error error →
      Requirement.Refusal text error ∧ ∀ formula, ¬ Reads .sum (Token.ofText text.toList) formula := by
  refine ⟨fun requirement => parse_eq_ok_iff, ?_, ?_⟩
  · intro requirement parsed formula
    constructor
    · intro reads
      have again := reads.parse_eq rfl
      rw [parsed] at again
      cases again
      exact ⟨by simpa [inPlace] using reads.inPlace_append [], rfl⟩
    · rintro ⟨placed, rfl⟩
      exact reads_of_parse parsed placed
  · intro error failed
    refine ⟨refusal_of_parse failed, ?_⟩
    intro formula reads
    have again := reads.parse_eq rfl
    rw [failed] at again
    cases again

/-- A negation after its operand and operators beside groups are accepted out of their place, a
negation without an operand is refused. -/
theorem accepted_reads_iff_misplaced :
    Requirement.parse "a!" = .ok ⟨"a!", .not (.fact (.own "a"))⟩ ∧
    (∀ formula, ¬ Reads .sum (Token.ofText "a!".toList) formula) ∧
    Requirement.parse "(a)(b)*" = .ok ⟨"(a)(b)*", .and (.fact (.own "a")) (.fact (.own "b"))⟩ ∧
    (∀ formula, ¬ Reads .sum (Token.ofText "(a)(b)*".toList) formula) ∧
    Requirement.parse "!" = .error (.invalidExpression "!" .missingOperand) ∧
    Requirement.Refusal "!" (.invalidExpression "!" .missingOperand) := by
  refine ⟨rfl, ?_, rfl, ?_, rfl, ?_⟩
  · intro formula reads
    exact absurd (((accepted_reads_iff "a!").2.1 _ rfl formula).1 reads).1 (by decide)
  · intro formula reads
    exact absurd (((accepted_reads_iff "(a)(b)*").2.1 _ rfl formula).1 reads).1 (by decide)
  · exact ((accepted_reads_iff "!").2.2 _ rfl).1

end Narrative
