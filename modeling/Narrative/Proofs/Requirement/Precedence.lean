/-
Module: Narrative.Proofs.Requirement.Precedence
Purpose: Every text that spells a derivation of the grammar is read, and its tree is that of the
  derivation. The operators that wait on the stack are, at each point, those of the phrases that are
  still open; the induction is on the derivation.
Main exports: Formula.steps, Step.exists_released, Step.exists_closed, Step.exists_finished,
  Reads.arranges, Formula.ofSteps_steps, Reads.parse_eq, parse_spelling
-/
import Narrative.Proofs.Requirement.Grammar
import Narrative.Requirement.Basic

namespace Narrative

/-- The steps that build a formula: each operator comes after its operands. -/
def Formula.steps : Formula → List Step
  | .fact reference => [.operand reference.text.toList]
  | .not operand => operand.steps ++ [.operator .not]
  | .and left right => left.steps ++ right.steps ++ [.operator .and]
  | .or left right => left.steps ++ right.steps ++ [.operator .or]

/-! ### Building a formula from its steps -/

/-- The steps of a formula put it on the stack and leave the rest of the stack alone. -/
theorem Formula.foldlM_push_steps {formula : Formula} (expression : String)
    (readable : formula.Readable) (stack : List Formula) :
    formula.steps.foldlM (fun stack step => push expression step stack) stack =
      .ok (formula :: stack) := by
  induction formula generalizing stack with
  | fact reference =>
      have read := (readable_fact reference).1 readable
      simp only [steps, List.foldlM_cons, List.foldlM_nil, push, String.ofList_toList, read]
      rfl
  | not operand ih =>
      rw [steps, List.foldlM_append, ih readable]
      rfl
  | and left right first second =>
      obtain ⟨before, after⟩ := (readable_and left right).1 readable
      rw [steps, List.foldlM_append, List.foldlM_append, first before]
      simp only [bind, Except.bind]
      rw [second after]
      rfl
  | or left right first second =>
      obtain ⟨before, after⟩ := (readable_or left right).1 readable
      rw [steps, List.foldlM_append, List.foldlM_append, first before]
      simp only [bind, Except.bind]
      rw [second after]
      rfl

/-- The steps of a formula build that formula. -/
theorem Formula.ofSteps_steps {formula : Formula} (expression : String)
    (readable : formula.Readable) : ofSteps expression formula.steps = .ok formula := by
  rw [ofSteps, foldlM_push_steps expression readable]
  rfl

/-! ### Operators that wait

While a phrase is read, its operators wait on top of the stack that was there before. A phrase of a
rank leaves operators of that rank or of a tighter one. -/

namespace Step

/-- Operators as they wait on the stack. -/
def waiting (ops : List Operator) : List Waiting := ops.map .operator

/-- Operators as they are applied. -/
def applied (ops : List Operator) : List Step := ops.map .operator

/-- Whether an operator can be left waiting at the end of a phrase of a rank. -/
def Waits : Rank → Operator → Prop
  | .factor, op => op = .not
  | .product, op => op ≠ .or
  | .sum, _ => True

/-- Whether a phrase of a rank can begin on a stack: nothing on top of it is applied by an operator
of the phrase. -/
def Settled : Rank → List Waiting → Prop
  | .factor, _ => True
  | .product, stack => release .and stack = ([], stack)
  | .sum, stack => release .or stack = ([], stack)

theorem waits_product_of_factor (op : Operator) (waits : Waits .factor op) : Waits .product op := by
  have same : op = .not := waits
  rw [same]
  exact Operator.noConfusion

/-- What a product leaves waiting yields to the next sign of the product. -/
theorem yieldsTo_and_of_waits (op : Operator) (waits : Waits .product op) :
    op.yieldsTo .and = true := by
  cases op with
  | not => rfl
  | and => rfl
  | or => exact absurd rfl waits

/-- A new operator applies those that wait on top and yield to it, and leaves the settled stack
below them. -/
theorem release_waiting {new : Operator} {ops : List Operator} {stack : List Waiting}
    (yield : ∀ op ∈ ops, op.yieldsTo new = true) (settled : release new stack = ([], stack)) :
    release new (waiting ops ++ stack) = (applied ops, stack) := by
  induction ops with
  | nil => exact settled
  | cons op rest ih =>
      have others := ih fun other mem => yield other (List.mem_cons_of_mem op mem)
      simp only [waiting, List.map_cons, List.cons_append, release,
        yield op List.mem_cons_self, if_true]
      rw [waiting] at others
      rw [others]
      rfl

/-- A negation begins on any stack. -/
theorem release_not (stack : List Waiting) : release .not stack = ([], stack) := by
  cases stack with
  | nil => rfl
  | cons top rest =>
      cases top with
      | operator op => cases op <;> rfl
      | opening => rfl

/-- Where a sum can begin, a product can. -/
theorem settled_product_of_sum {stack : List Waiting} (settled : Settled .sum stack) :
    Settled .product stack := by
  cases stack with
  | nil => rfl
  | cons top rest =>
      cases top with
      | operator op => cases op <;> simp [Settled, release, Operator.yieldsTo] at settled
      | opening => rfl

theorem close?_waiting (ops : List Operator) (stack : List Waiting) :
    close? (waiting ops ++ .opening :: stack) = some (applied ops, stack) := by
  induction ops with
  | nil => rfl
  | cons op rest ih =>
      simp only [waiting, List.map_cons, List.cons_append, close?]
      rw [waiting] at ih
      rw [ih]
      rfl

theorem finish?_waiting (ops : List Operator) : finish? (waiting ops) = some (applied ops) := by
  induction ops with
  | nil => rfl
  | cons op rest ih =>
      simp only [waiting, List.map_cons, finish?]
      rw [waiting] at ih
      rw [ih]
      rfl

/-- What is released are the operators on top of the stack. -/
theorem exists_released (op : Operator) (stack : List Waiting) :
    ∃ ops, (release op stack).1 = applied ops ∧ stack = waiting ops ++ (release op stack).2 := by
  fun_induction release op stack with
  | case1 other stack yields steps rest released ih =>
      rw [released] at ih
      obtain ⟨ops, rfl, rfl⟩ := ih
      exact ⟨other :: ops, rfl, rfl⟩
  | case2 => exact ⟨[], rfl, rfl⟩
  | case3 => exact ⟨[], rfl, rfl⟩

/-- A closing bracket applies the operators down to the opening one. -/
theorem exists_closed {stack below : List Waiting} {steps : List Step}
    (closed : close? stack = some (steps, below)) :
    ∃ ops, steps = applied ops ∧ stack = waiting ops ++ .opening :: below := by
  induction stack generalizing steps with
  | nil => cases closed
  | cons top rest ih =>
      cases top with
      | opening =>
          cases closed
          exact ⟨[], rfl, rfl⟩
      | operator op =>
          rw [close?] at closed
          cases inner : close? rest with
          | none =>
              rw [inner] at closed
              cases closed
          | some found =>
              rw [inner] at closed
              cases closed
              obtain ⟨ops, same, rfl⟩ := ih inner
              exact ⟨op :: ops, by rw [same]; rfl, rfl⟩

/-- At the end all that waits are operators, and they are applied. -/
theorem exists_finished {stack : List Waiting} {steps : List Step}
    (finished : finish? stack = some steps) : ∃ ops, steps = applied ops ∧ stack = waiting ops := by
  induction stack generalizing steps with
  | nil =>
      cases finished
      exact ⟨[], rfl, rfl⟩
  | cons top rest ih =>
      cases top with
      | opening => cases finished
      | operator op =>
          rw [finish?] at finished
          obtain ⟨others, inner, rfl⟩ := Option.map_eq_some_iff.1 finished
          obtain ⟨ops, rfl, rfl⟩ := ih inner
          exact ⟨op :: ops, rfl, rfl⟩

/-! ### What is done with each token -/

theorem arrange_atom (stack : List Waiting) (text : List Char) (rest : List Token) :
    arrange stack (.atom text :: rest) = (arrange stack rest).map ([.operand text] ++ ·) := by
  rw [arrange]
  cases arrange stack rest <;> rfl

/-- An operator applies what yields to it and then waits itself. -/
theorem arrange_operator {op : Operator} {stack below : List Waiting} {steps : List Step}
    (released : release op stack = (steps, below)) (rest : List Token) :
    arrange stack (.operator op :: rest) =
      (arrange (.operator op :: below) rest).map (steps ++ ·) := by
  rw [arrange, released]
  simp only
  cases arrange (.operator op :: below) rest <;> rfl

theorem arrange_closing {stack below : List Waiting} {steps : List Step}
    (closed : close? stack = some (steps, below)) (rest : List Token) :
    arrange stack (.closing :: rest) = (arrange below rest).map (steps ++ ·) := by
  rw [arrange, closed]
  simp only
  cases arrange below rest <;> rfl

theorem map_append_append (steps more : List Step) (result : Except MissingBracket (List Step)) :
    (result.map (more ++ ·)).map (steps ++ ·) = result.map (steps ++ more ++ ·) := by
  cases result with
  | error missing => rfl
  | ok rest => simp [Except.map]

/-! ### What is done with a phrase -/

/-- Reading the tokens of a phrase gives steps and leaves operators waiting, which together are the
steps of its tree. What follows the phrase is read on that stack. -/
def Arranges (rank : Rank) (tokens : List Token) (formula : Formula) : Prop :=
  ∀ stack, Settled rank stack → ∃ steps ops,
    steps ++ applied ops = formula.steps ∧ (∀ op ∈ ops, Waits rank op) ∧
    ∀ rest, arrange stack (tokens ++ rest) =
      (arrange (waiting ops ++ stack) rest).map (steps ++ ·)

/-- A phrase may stand where a wider one may, if it can begin there and what it leaves waiting may
wait. -/
theorem Arranges.widen {inner outer : Rank} {tokens : List Token} {formula : Formula}
    (phrase : Arranges inner tokens formula)
    (begins : ∀ stack, Settled outer stack → Settled inner stack)
    (waits : ∀ op, Waits inner op → Waits outer op) : Arranges outer tokens formula := by
  intro stack settled
  obtain ⟨steps, ops, whole, loose, simulated⟩ := phrase stack (begins stack settled)
  exact ⟨steps, ops, whole, fun op mem => waits op (loose op mem), simulated⟩

/-- Two phrases with an operator between them: the operator applies what the first left waiting, and
waits below what the second leaves. -/
theorem Arranges.join {op : Operator} {inner outer : Rank} {left right : List Token}
    {first second whole : Formula} (before : Arranges outer left first)
    (after : Arranges inner right second)
    (steps_eq : whole.steps = first.steps ++ second.steps ++ [.operator op])
    (settled : ∀ stack, Settled outer stack → release op stack = ([], stack))
    (begins : ∀ stack, Settled inner (.operator op :: stack))
    (yields : ∀ other, Waits outer other → other.yieldsTo op = true)
    (waits : ∀ other, Waits inner other → Waits outer other) (own : Waits outer op) :
    Arranges outer (left ++ .operator op :: right) whole := by
  intro stack free
  obtain ⟨steps, ops, parts, loose, simulated⟩ := before stack free
  obtain ⟨steps', ops', parts', tight, simulated'⟩ := after (.operator op :: stack) (begins stack)
  refine ⟨steps ++ applied ops ++ steps', ops' ++ [op], ?_, ?_, ?_⟩
  · simp [steps_eq, ← parts, ← parts', applied]
  · intro other mem
    rcases List.mem_append.1 mem with mem | mem
    · exact waits other (tight other mem)
    · rw [List.mem_singleton.1 mem]
      exact own
  · intro rest
    have released := release_waiting (fun other mem => yields other (loose other mem))
      (settled stack free)
    rw [List.append_assoc, simulated, List.cons_append, arrange_operator released, simulated',
      map_append_append, map_append_append]
    simp [waiting]

end Step

open Step

theorem Reads.arranges {rank : Rank} {tokens : List Token} {formula : Formula}
    (reads : Reads rank tokens formula) : Arranges rank tokens formula := by
  induction reads with
  | @fact text reference _ read =>
      intro stack _
      have same : reference.text.toList = text := by
        rw [Reference.text_of_parse read, String.toList_ofList]
      refine ⟨[.operand text], [], ?_, by simp, ?_⟩
      · rw [Formula.steps, same]
        rfl
      · intro rest
        exact arrange_atom stack text rest
  | not _ ih =>
      intro stack _
      obtain ⟨steps, ops, whole, tight, simulated⟩ := ih (.operator .not :: stack) trivial
      refine ⟨steps, ops ++ [.not], ?_, ?_, ?_⟩
      · simp [Formula.steps, ← whole, applied]
      · intro op mem
        rcases List.mem_append.1 mem with mem | mem
        · exact tight op mem
        · exact List.mem_singleton.1 mem
      · intro rest
        rw [List.cons_append, arrange_operator (release_not stack), simulated rest,
          map_append_append]
        simp [waiting]
  | group _ ih =>
      intro stack _
      obtain ⟨steps, ops, whole, _, simulated⟩ := ih (.opening :: stack) rfl
      refine ⟨steps ++ applied ops, [], by simpa [applied] using whole, by simp, ?_⟩
      intro rest
      rw [bracketed, List.cons_append, List.append_assoc, arrange, simulated, List.singleton_append,
        arrange_closing (close?_waiting ops stack), map_append_append]
      rfl
  | ofFactor _ ih =>
      apply ih.widen
      · intro stack _
        trivial
      · exact waits_product_of_factor
  | and _ _ first second =>
      apply first.join second rfl
      · intro stack settled
        exact settled
      · intro stack
        trivial
      · exact yieldsTo_and_of_waits
      · exact waits_product_of_factor
      · exact Operator.noConfusion
  | ofProduct _ ih =>
      apply ih.widen
      · intro stack
        exact settled_product_of_sum
      · intro op _
        trivial
  | or _ _ first second =>
      apply first.join second rfl
      · intro stack settled
        exact settled
      · intro stack
        rfl
      · intro op _
        cases op <;> rfl
      · intro op _
        trivial
      · trivial

/-- The tokens of a sum in postfix order are the steps of its tree. -/
theorem Reads.ofTokens_eq {tokens : List Token} {formula : Formula}
    (reads : Reads .sum tokens formula) : ofTokens tokens = .ok formula.steps := by
  obtain ⟨steps, ops, whole, _, simulated⟩ := reads.arranges [] rfl
  have finished := simulated []
  rw [List.append_nil, List.append_nil, arrange, finish?_waiting] at finished
  rw [ofTokens, finished, ← whole]
  rfl

/-- A text that spells a derivation, apart from blanks, is read as the tree of the derivation. -/
theorem Reads.parse_eq {tokens : List Token} {formula : Formula} (reads : Reads .sum tokens formula)
    {text : String} (cut : Token.ofText text.toList = tokens) :
    Requirement.parse text = .ok ⟨text, formula⟩ := by
  rw [Requirement.parse, cut, reads.ofTokens_eq]
  simp only [Formula.ofSteps_steps text reads.readable]
  rfl

/-- Every text that spells a derivation of the grammar, with blanks anywhere in it, is read as the
tree of the derivation. In particular every tree of references that atoms can name is read back
from its text with the fewest brackets, and no derivation of the tree has fewer. -/
theorem parse_spelling :
    (∀ (tokens : List Token) (formula : Formula) (text : String), Reads .sum tokens formula →
      text.toList.filter (!Text.isBlank ·) = Token.spelling tokens →
      Requirement.parse text = .ok ⟨text, formula⟩) ∧
    ∀ formula : Formula, (∀ reference ∈ formula.references, reference.Writable) →
      Requirement.parse (String.ofList (Token.spelling (formula.tokens .sum))) =
        .ok ⟨String.ofList (Token.spelling (formula.tokens .sum)), formula⟩ ∧
      ∀ tokens, Reads .sum tokens formula → brackets (formula.tokens .sum) ≤ brackets tokens := by
  have spelled (tokens : List Token) (formula : Formula) (text : String)
      (reads : Reads .sum tokens formula)
      (spells : text.toList.filter (!Text.isBlank ·) = Token.spelling tokens) :
      Requirement.parse text = .ok ⟨text, formula⟩ :=
    reads.parse_eq (Token.ofText_of_spelling reads.lexed spells)
  refine ⟨spelled, ?_⟩
  intro formula writable
  have reads := reads_tokens .sum writable
  refine ⟨?_, fun tokens other => brackets_tokens_le other⟩
  apply spelled _ formula _ reads
  rw [String.toList_ofList]
  exact Token.filter_spelling reads.lexed

/-- A text with a negated group and blanks inside an atom, and the text of a tree that needs
brackets. -/
theorem parse_spelling_mixed :
    Requirement.parse "! ( l it + b )*c" =
      .ok ⟨"! ( l it + b )*c",
        .and (.not (.or (.fact (.own "lit")) (.fact (.own "b")))) (.fact (.own "c"))⟩ ∧
    Requirement.parse (String.ofList (Token.spelling (Formula.tokens .sum
      (.and (.fact (.own "a")) (.and (.fact (.own "b")) (.fact (.keyed "hall" "lit"))))))) =
      .ok ⟨"a*(b*hall.lit)",
        .and (.fact (.own "a")) (.and (.fact (.own "b")) (.fact (.keyed "hall" "lit")))⟩ := by
  have lit : Reads .factor [.atom ['l', 'i', 't']] (.fact (.own "lit")) := .fact (by decide) rfl
  have b : Reads .factor [.atom ['b']] (.fact (.own "b")) := .fact (by decide) rfl
  have c : Reads .factor [.atom ['c']] (.fact (.own "c")) := .fact (by decide) rfl
  have group := Reads.not (.group (.or lit.sum_of_factor (.ofFactor b)))
  refine ⟨parse_spelling.1 _ _ _ (.ofProduct (.and (.ofFactor group) c)) (by decide), ?_⟩
  refine (parse_spelling.2 _ ?_).1
  intro reference mem
  simp only [Formula.references, List.mem_append, List.mem_singleton] at mem
  rcases mem with rfl | rfl | rfl
  all_goals exact ⟨by decide, rfl⟩

end Narrative
