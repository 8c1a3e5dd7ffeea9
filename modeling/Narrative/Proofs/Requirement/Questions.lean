/-
Module: Narrative.Proofs.Requirement.Questions
Purpose: What a requirement asks. Reading it keeps its atoms in their order and one node for each of
  its operators, whatever their places. Evaluating it puts its references as questions, all of them in
  their order, whatever the answers, until one of them raises.
Main exports: Step.count_operator_of_arrange, Formula.operators, Formula.value,
  Formula.evaluate_eq_mapM, Interview, interview_mapM, questions_complete
-/
import Mathlib.Data.List.Count
import Narrative.Proofs.Outcome
import Narrative.Proofs.Requirement.Placement

namespace Narrative

/-! ### The operators of a formula

Every operator that waits is applied at some point, and no other one is. -/

namespace Step

@[simp] theorem count_applied (op : Operator) (ops : List Operator) :
    (applied ops).count (.operator op) = ops.count op :=
  List.count_map_of_injective ops _ (fun _ _ same => Step.operator.inj same) op

@[simp] theorem count_waiting (op : Operator) (ops : List Operator) :
    (waiting ops).count (.operator op) = ops.count op :=
  List.count_map_of_injective ops _ (fun _ _ same => Waiting.operator.inj same) op

/-- Postfix order has every operator of the tokens, and those that waited before. -/
theorem count_operator_of_arrange (op : Operator) {stack : List Waiting} {tokens : List Token}
    {steps : List Step} (arranged : arrange stack tokens = .ok steps) :
    steps.count (.operator op) = stack.count (.operator op) + tokens.count (.operator op) := by
  induction tokens generalizing stack steps with
  | nil =>
      unfold arrange at arranged
      split at arranged
      · next finished =>
          cases arranged
          obtain ⟨ops, rfl, rfl⟩ := exists_finished finished
          simp
      · cases arranged
  | cons token rest ih =>
      cases token with
      | atom text =>
          rw [arrange_atom] at arranged
          obtain ⟨others, inner, rfl⟩ := ok_of_map_append arranged
          simp [ih inner]
      | operator other =>
          rw [arrange_operator rfl] at arranged
          obtain ⟨others, inner, rfl⟩ := ok_of_map_append arranged
          obtain ⟨ops, released, parts⟩ := exists_released other stack
          have stacked := congrArg (List.count (.operator op)) parts
          rw [List.count_append, count_waiting] at stacked
          rw [List.count_append, ih inner, released, count_applied, stacked]
          simp only [List.count_cons, beq_iff_eq, Waiting.operator.injEq, Token.operator.injEq]
          omega
      | opening =>
          rw [arrange] at arranged
          simp [ih arranged]
      | closing =>
          cases closed : close? stack with
          | none =>
              rw [arrange, closed] at arranged
              cases arranged
          | some found =>
              rw [arrange_closing closed] at arranged
              obtain ⟨others, inner, rfl⟩ := ok_of_map_append arranged
              obtain ⟨ops, applied_eq, parts⟩ := exists_closed closed
              rw [List.count_append, ih inner, applied_eq, parts]
              simp
              omega

end Step

namespace Formula

/-- The operators of a formula, one for each of its nodes. -/
def operators : Formula → List Operator
  | .fact _ => []
  | .not operand => .not :: operand.operators
  | .and left right => .and :: (left.operators ++ right.operators)
  | .or left right => .or :: (left.operators ++ right.operators)

theorem count_operator_steps (op : Operator) (formula : Formula) :
    formula.steps.count (.operator op) = formula.operators.count op := by
  induction formula with
  | fact reference => simp [steps, operators]
  | not operand ih => simp [steps, operators, ih, List.count_cons]
  | and left right first second | or left right first second =>
      simp [steps, operators, first, second, List.count_cons, Nat.add_assoc]

/-- Reading the references of a readable formula again gives them back. -/
theorem map_parse_operands {formula : Formula} (readable : formula.Readable) :
    (Step.operands formula.steps).map (fun atom => Reference.parse (String.ofList atom)) =
      formula.references.map .ok := by
  rw [operands_steps, List.map_map]
  apply List.map_congr_left
  intro reference member
  simp only [Function.comp_apply, String.ofList_toList]
  exact readable reference member

/-! ### The value of a formula under answers -/

/-- The value of a formula when its references, from left to right, have been answered. The same
reference may be answered differently at its different places. -/
def value : Formula → List Bool → Bool
  | .fact _, answers => answers.headD false
  | .not operand, answers => !operand.value answers
  | .and left right, answers =>
    left.value (answers.take left.references.length) &&
      right.value (answers.drop left.references.length)
  | .or left right, answers =>
    left.value (answers.take left.references.length) ||
      right.value (answers.drop left.references.length)

/-- What is done with the answers of a list has to agree only on as many answers as the list has
entries. -/
theorem bind_mapM_congr {m : Type → Type} [Monad m] [LawfulMonad m] {ask : Reference → m Bool}
    {references : List Reference} {next other : List Bool → m Bool}
    (same : ∀ answers : List Bool, answers.length = references.length → next answers = other answers) :
    references.mapM ask >>= next = references.mapM ask >>= other := by
  induction references generalizing next other with
  | nil => simpa using same [] rfl
  | cons reference rest ih =>
      simp only [List.mapM_cons, bind_assoc, pure_bind]
      refine bind_congr fun answer => ih fun answers length => ?_
      exact same (answer :: answers) (by rw [List.length_cons, List.length_cons, length])

/-- The evaluation of a conjunction or a disjunction puts all its questions before it looks at the
answers. -/
theorem bind_answers_append {m : Type → Type} [Monad m] [LawfulMonad m] (ask : Reference → m Bool)
    (left right : Formula) (combine : Bool → Bool → Bool) :
    (left.references.mapM ask >>= fun l => right.references.mapM ask >>= fun r =>
        pure (combine (left.value l) (right.value r))) =
      (left.references ++ right.references).mapM ask >>= fun answers =>
        pure (combine (left.value (answers.take left.references.length))
          (right.value (answers.drop left.references.length))) := by
  simp only [List.mapM_append, bind_assoc, pure_bind]
  refine bind_mapM_congr fun answers length => ?_
  simp only [← length, List.take_left, List.drop_left]

/-- Evaluating a formula puts its references as questions, each of them once and in their order, and
gives the value under the answers. -/
theorem evaluate_eq_mapM {m : Type → Type} [Monad m] [LawfulMonad m] (ask : Reference → m Bool)
    (formula : Formula) :
    formula.evaluate ask =
      formula.references.mapM ask >>= fun answers => pure (formula.value answers) := by
  induction formula with
  | fact reference => simp [evaluate, references, value]
  | not operand ih => simp [evaluate, references, value, ih]
  | and left right first second =>
      rw [evaluate, first, second]
      simp only [bind_assoc, pure_bind]
      exact bind_answers_append ask left right (· && ·)
  | or left right first second =>
      rw [evaluate, first, second]
      simp only [bind_assoc, pure_bind]
      exact bind_answers_append ask left right (· || ·)

end Formula

/-! ### Questions to a predicate that may change its state or raise -/

variable {ε σ : Type}

/-- Questions put one after the other, each in the state that the one before it left. The first that
raises is the last. -/
inductive Interview (ask : Reference → ExceptT ε (StateM σ) Bool) :
    List Reference → σ → Except ε (List Bool) → σ → Prop
  | done (state : σ) : Interview ask [] state (.ok []) state
  | raises {reference : Reference} {later : List Reference} {before after : σ} {error : ε}
      (asked : (ask reference).run.run before = (.error error, after)) :
      Interview ask (reference :: later) before (.error error) after
  | answers {reference : Reference} {later : List Reference} {before between after : σ} {answer : Bool}
      {outcome : Except ε (List Bool)}
      (asked : (ask reference).run.run before = (.ok answer, between))
      (others : Interview ask later between outcome after) :
      Interview ask (reference :: later) before (outcome.map (answer :: ·)) after

/-- Asking for all references is an interview. -/
theorem interview_mapM (ask : Reference → ExceptT ε (StateM σ) Bool) (references : List Reference)
    (before : σ) :
    ∃ outcome after, Interview ask references before outcome after ∧
      (references.mapM ask).run.run before = (outcome, after) := by
  induction references generalizing before with
  | nil => exact ⟨_, _, .done before, rfl⟩
  | cons reference later ih =>
      rw [List.mapM_cons, run_run_bind]
      cases asked : (ask reference).run.run before with
      | mk first between =>
          cases first with
          | error error => exact ⟨_, _, .raises asked, rfl⟩
          | ok answer =>
              obtain ⟨outcome, after, others, run⟩ := ih between
              refine ⟨_, _, .answers asked others, ?_⟩
              simp only [run_run_bind, run]
              cases outcome <;> rfl

/-- What an accepted requirement asks. Its references are the atoms of its text, read as references, in
their order and with repetitions, and its formula has a node for each operator of the text. Evaluating it
puts exactly these references as questions, once for each place and in their order, whatever the answers.
The first question that raises ends it, with the exception and the state of that question; if none
raises, the result is the value of the formula under the answers. -/
theorem questions_complete {text : String} {requirement : Requirement}
    (parsed : Requirement.parse text = .ok requirement) :
    (Token.atoms (Token.ofText text.toList)).map (fun atom => Reference.parse (String.ofList atom)) =
      requirement.references.map .ok ∧
    (∀ op, requirement.formula.operators.count op =
      (Token.ofText text.toList).count (.operator op)) ∧
    (∀ (m : Type → Type) [Monad m] [LawfulMonad m] (ask : Reference → m Bool),
      requirement.evaluate ask =
        requirement.references.mapM ask >>= fun answers => pure (requirement.formula.value answers)) ∧
    ∀ (ε σ : Type) (ask : Reference → ExceptT ε (StateM σ) Bool) (before : σ), ∃ outcome after,
      Interview ask requirement.references before outcome after ∧
        (requirement.evaluate ask).run.run before = (outcome.map requirement.formula.value, after) := by
  obtain ⟨_, arranged, readable⟩ := parse_eq_ok_iff.1 parsed
  refine ⟨?_, ?_, ?_, ?_⟩
  · rw [← Step.operands_of_arrange arranged]
    exact Formula.map_parse_operands readable
  · intro op
    rw [← Formula.count_operator_steps, Step.count_operator_of_arrange op arranged, List.count_nil,
      Nat.zero_add]
  · intro m _ _ ask
    exact Formula.evaluate_eq_mapM ask requirement.formula
  · intro ε σ ask before
    obtain ⟨outcome, after, interview, run⟩ := interview_mapM ask requirement.references before
    refine ⟨outcome, after, interview, ?_⟩
    rw [Requirement.evaluate, Formula.evaluate_eq_mapM, run_run_bind]
    rw [Requirement.references] at run
    rw [run]
    cases outcome <;> rfl

/-- A predicate that notes its questions and raises at one of them. -/
def notes (reference : Reference) : ExceptT String (StateM (List String)) Bool := do
  modify (· ++ [reference.text])
  if reference = .own "b" then throw "unknown" else return false

/-- A text with a negation after its operand: the second of its three questions raises, and the third is
not put. -/
theorem questions_complete_notes :
    Requirement.parse "a!*b+a" = .ok ⟨"a!*b+a",
      .or (.and (.not (.fact (.own "a"))) (.fact (.own "b"))) (.fact (.own "a"))⟩ ∧
    (∃ outcome after, Interview notes [.own "a", .own "b", .own "a"] [] outcome after ∧
      outcome = .error "unknown" ∧ after = ["a", "b"]) ∧
    (Token.ofText "a!*b+a".toList).count (.operator .not) = 1 := by
  have parsed : Requirement.parse "a!*b+a" = .ok ⟨"a!*b+a",
      .or (.and (.not (.fact (.own "a"))) (.fact (.own "b"))) (.fact (.own "a"))⟩ := rfl
  obtain ⟨_, counts, _, interviews⟩ := questions_complete parsed
  obtain ⟨outcome, after, interview, run⟩ := interviews _ _ notes []
  refine ⟨parsed, ⟨outcome, after, interview, ?_⟩, (counts .not).symm⟩
  have ended : Except.error "unknown" = outcome.map _ ∧ ["a", "b"] = after := Prod.mk.inj run
  exact ⟨map_eq_error.1 ended.1.symm, ended.2.symm⟩

end Narrative
