/-
Module: Narrative.Proofs.Markup.Completion
Purpose: Which renderings come to their end. Whatever an author writes, a directive that cannot use
  its arguments is passed over; only an advance whose iteration is further below zero than it has
  arguments finds none, and the iteration falls below zero only where a directive sets it there.
Main exports: performed, Directive.Overshoots, Directive.perform_error_iff, failure?_render_iff,
  Directive.Carried, rendering_completes
-/
import Narrative.Proofs.Markup.Template
import Narrative.Proofs.Numeral.Whole
import Narrative.Proofs.Outcome

namespace Narrative.Markup

/-! ### The directives that are carried out -/

/-- The text that an effect leaves in the place of its directive. -/
def Effect.replacement : Effect → List Char
  | .text replacement => replacement
  | .nothing | .pause _ => []

/-- What an effect shows by itself. -/
def Effect.shown (style : Style) : Effect → List (Fragment × Style)
  | .pause seconds => [(.pause seconds, style)]
  | .nothing | .text _ => []

/-- What a directive leaves and the text after it hold fewer opening brackets than the text before. -/
theorem count_replacement_add_after_lt {text : List Char} {found : Found}
    (h : find? text = some found) {directive : Directive} (is : found.directive? = some directive)
    {state next : RenderState} {effect : Effect}
    (done : directive.perform state = .ok (effect, next)) :
    effect.replacement.count '[' + found.after.count '[' < text.count '[' := by
  cases effect with
  | text replacement =>
      exact count_argument_add_after_lt h is (Directive.mem_arguments_of_perform done)
  | nothing | pause =>
      rw [Effect.replacement, List.count_nil, Nat.zero_add]
      exact count_after_lt h

/-- The directives that a rendering carries out, in order, each with the state in which it is met. One
that fails is the last. -/
def performed (text : List Char) (state : RenderState) : List (Directive × RenderState) :=
  match found : find? text with
  | none => []
  | some ⟨_, none, after⟩ =>
    have := count_after_lt found
    performed after state
  | some ⟨_, some directive, after⟩ =>
    match done : directive.perform state with
    | .error _ => [(directive, state)]
    | .ok (effect, next) =>
      have := count_replacement_add_after_lt found rfl done
      (directive, state) :: performed (effect.replacement ++ after) next
termination_by text.count '['
decreasing_by
  · exact this
  · rw [List.count_append]
    exact this

/-- After a directive the rendering goes on with what the directive leaves. -/
theorem Directive.run_of_ok {directive : Directive} {state next : RenderState} {effect : Effect}
    (done : directive.perform state = .ok (effect, next)) (rest : List Char) :
    directive.run rest state =
      (render (effect.replacement ++ rest) next).after (effect.shown next.style) := by
  unfold run
  rw [done]
  cases effect <;> rfl

/-- A rendering fails just where a directive does that it carries out. -/
theorem failure?_render_iff {text : List Char} {state : RenderState} {failure : NoSuchArgument} :
    (render text state).failure? = some failure ↔
      ∃ met ∈ performed text state, met.1.perform met.2 = .error failure := by
  fun_induction performed text state with
  | case1 text state missing => simp [render_of_none missing]
  | case2 text state before after found _ ih =>
      rw [render_of_escape found]
      exact ih
  | case3 text state before directive after found other failed =>
      rw [render_of_directive found]
      simp [Rendering.after, Directive.run, failed]
  | case4 text state before directive after found effect next done _ ih =>
      rw [render_of_directive found]
      simp [Rendering.after, Directive.run_of_ok done, ih, done]

/-! ### What a directive does with its arguments -/

namespace Directive

/-- The directive advances by the iteration. -/
def IsAdvance (directive : Directive) : Prop :=
  Kind.ofName? (String.ofList directive.name) = some .advance

/-- The directive is an advance with arguments, and the iteration is further below zero than it has
arguments. -/
def Overshoots (directive : Directive) (state : RenderState) : Prop :=
  directive.IsAdvance ∧ directive.arguments ≠ [] ∧
    state.style.iteration < -(directive.arguments.length : Int)

/-- Whether the directive has nothing to do: its name is unknown, it lacks its argument, or the argument
names no duration or no colour. -/
def isIdle (directive : Directive) : Bool :=
  match Kind.ofName? (String.ofList directive.name), directive.arguments with
  | none, _ => true
  | some (.speed _), _ => false
  | some _, [] => true
  | some .wait, first :: _ => (Numeral.readDecimal? first).isNone
  | some .foreground, first :: _ => (colorOf? first).isNone
  | some .background, first :: _ => (colorOf? first).isNone
  | some _, _ :: _ => false

/-- The iteration that the directive sets; an argument that is no number stands for zero. -/
def iteration? (directive : Directive) : Option Int :=
  match Kind.ofName? (String.ofList directive.name), directive.arguments with
  | some .setIteration, first :: _ => some ((Numeral.readWhole? first).getD 0)
  | _, _ => none

end Directive

theorem argumentAt_error_iff {first : List Char} {more : List (List Char)} {iteration : Int} :
    (∃ failure, argumentAt first more (min iteration more.length) = .error failure) ↔
      iteration < -((first :: more).length : Int) := by
  unfold argumentAt
  simp only [List.length_cons]
  generalize here : (if min iteration (more.length : Int) < 0 then _ else _) = index
  have index_iff : index < 0 ↔ iteration < -((more.length + 1 : Nat) : Int) := by
    split at here <;> omega
  rw [← index_iff]
  constructor
  · rintro ⟨failure, failed⟩
    split at failed
    next below => exact below
    next => cases failed
  · intro below
    rw [if_pos below]
    exact ⟨_, rfl⟩

/-- From an iteration that is not below zero an advance takes the argument with that number, and the
last if there is none. -/
theorem argumentAt_of_nonneg (first : List Char) (more : List (List Char)) {iteration : Int}
    (nonneg : 0 ≤ iteration) :
    ∃ argument, (first :: more)[(min iteration more.length).toNat]? = some argument ∧
      argumentAt first more (min iteration more.length) = .ok argument := by
  have within : (min iteration (more.length : Int)).toNat < (first :: more).length := by
    simp only [List.length_cons]
    omega
  refine ⟨_, List.getElem?_eq_getElem within, ?_⟩
  unfold argumentAt
  have from_start : ¬ min iteration (more.length : Int) < 0 := by omega
  simp only [if_neg from_start, List.getElem?_eq_getElem within, Option.getD_some]

namespace Directive

variable {directive : Directive} {state : RenderState}

/-- Only an advance fails, and only if it overshoots. -/
theorem perform_error_iff :
    (∃ failure, directive.perform state = .error failure) ↔ directive.Overshoots state := by
  obtain ⟨name, arguments⟩ := directive
  unfold perform Overshoots IsAdvance
  dsimp only
  split
  next unknown => simp [unknown]
  next pace named => simp [named]
  next kind named _ => simp
  next kind first more paced named =>
    rw [named, Option.some_inj]
    cases kind with
    | advance =>
        simp only [Kind.performWith, map_eq_error, argumentAt_error_iff]
        simp
    | speed | setIteration | random | cycle | event => simp [Kind.performWith]
    | wait | foreground | background =>
        simp only [Kind.performWith]
        split <;> simp

/-- A directive that has nothing to do is passed over, and if its name is unknown that is noted. -/
theorem perform_of_isIdle (idle : directive.isIdle = true) :
    ∃ unknown, directive.perform state = .ok (.nothing, { state with unknown }) := by
  obtain ⟨name, arguments⟩ := directive
  unfold isIdle at idle
  unfold perform
  dsimp only at idle ⊢
  split at idle
  next unknown => exact ⟨_, by rw [unknown]⟩
  next => cases idle
  next kind paced named =>
    refine ⟨state.unknown, ?_⟩
    rw [named]
    cases kind with
    | speed pace => cases paced pace rfl
    | _ => rfl
  next first more named =>
    have unread : Numeral.readDecimal? first = none := Option.isNone_iff_eq_none.1 idle
    exact ⟨state.unknown, by simp [named, Kind.performWith, unread]⟩
  next first more named =>
    have none : colorOf? first = none := Option.isNone_iff_eq_none.1 idle
    exact ⟨state.unknown, by simp [named, Kind.performWith, none]⟩
  next first more named =>
    have none : colorOf? first = none := Option.isNone_iff_eq_none.1 idle
    exact ⟨state.unknown, by simp [named, Kind.performWith, none]⟩
  next => cases idle

/-- The iteration changes only if the directive sets it. -/
theorem iteration_of_perform {effect : Effect} {next : RenderState}
    (done : directive.perform state = .ok (effect, next)) :
    next.style.iteration = directive.iteration?.getD state.style.iteration := by
  obtain ⟨name, arguments⟩ := directive
  unfold perform at done
  unfold iteration?
  dsimp only at done ⊢
  split at done
  next unknown =>
    cases done
    rw [unknown]
    rfl
  next pace named =>
    cases done
    rw [named]
    rfl
  next kind paced named =>
    cases done
    rw [named]
    cases kind <;> rfl
  next kind first more paced named =>
    rw [named]
    cases kind with
    | speed | setIteration | random | cycle | event =>
        cases done
        rfl
    | wait | foreground | background =>
        simp only [Kind.performWith] at done
        split at done <;> cases done <;> rfl
    | advance =>
        obtain ⟨argument, _, same⟩ := map_eq_ok.1 done
        cases same
        rfl

/-- An advance takes the argument with the number of the iteration, and the last if there is none. -/
theorem perform_of_isAdvance (advance : directive.IsAdvance) (arguments : directive.arguments ≠ [])
    (nonneg : 0 ≤ state.style.iteration) :
    ∃ argument,
      directive.arguments[(min state.style.iteration (directive.arguments.length - 1)).toNat]? =
          some argument ∧
        directive.perform state = .ok (.text argument, state) := by
  obtain ⟨name, texts⟩ := directive
  cases texts with
  | nil => cases arguments rfl
  | cons first more =>
      obtain ⟨argument, there, taken⟩ := argumentAt_of_nonneg first more nonneg
      have last : ((first :: more).length : Int) - 1 = more.length := by simp
      refine ⟨argument, by rw [last, there], ?_⟩
      unfold perform
      simp only [show Kind.ofName? (String.ofList name) = some .advance from advance,
        Kind.performWith, taken, Except.map]

/-- The directive does what its arguments allow: it is passed over if it has nothing to do, it sets the
iteration to a number, or it takes the argument at the iteration, the last one if there are fewer. -/
structure Carried (directive : Directive) (state : RenderState) : Prop where
  idle : directive.isIdle = true →
    ∃ unknown, directive.perform state = .ok (.nothing, { state with unknown })
  advance : directive.IsAdvance → directive.arguments ≠ [] → ∃ argument,
    directive.arguments[(min state.style.iteration (directive.arguments.length - 1)).toNat]? =
        some argument ∧
      directive.perform state = .ok (.text argument, state)
  completes : ∃ effect next, directive.perform state = .ok (effect, next) ∧
    next.style.iteration = directive.iteration?.getD state.style.iteration

theorem carried_of_nonneg (nonneg : 0 ≤ state.style.iteration) : directive.Carried state where
  idle := perform_of_isIdle
  advance advance arguments := perform_of_isAdvance advance arguments nonneg
  completes := by
    cases done : directive.perform state with
    | error failure =>
        obtain ⟨_, _, below⟩ := perform_error_iff.1 ⟨failure, done⟩
        omega
    | ok result => exact ⟨_, _, rfl, iteration_of_perform done⟩

end Directive

/-! ### Whole renderings -/

/-- As long as no directive sets the iteration below zero, it is not below zero at any of them. The
induction is on the steps of the rendering. -/
theorem nonneg_of_mem_performed {text : List Char} {state : RenderState}
    (begun : 0 ≤ state.style.iteration)
    (counts : ∀ met ∈ performed text state, ∀ iteration ∈ met.1.iteration?, 0 ≤ iteration) :
    ∀ met ∈ performed text state, 0 ≤ met.2.style.iteration := by
  fun_induction performed text state with
  | case1 => simp
  | case2 text state before after found _ ih => exact ih begun counts
  | case3 => exact List.forall_mem_singleton.2 begun
  | case4 text state before directive after found effect next done _ ih =>
      obtain ⟨first, others⟩ := List.forall_mem_cons.1 counts
      have goes_on : 0 ≤ next.style.iteration := by
        rw [Directive.iteration_of_perform done]
        cases set : directive.iteration? with
        | none => exact begun
        | some iteration => exact first iteration set
      exact List.forall_mem_cons.2 ⟨begun, ih goes_on others⟩

/-! ### Texts without a minus sign -/

/-- The characters of an argument stand in the text. -/
theorem mem_of_mem_argument {text : List Char} {found : Found} (h : find? text = some found)
    {directive : Directive} (is : found.directive? = some directive) {argument : List Char}
    (argument_mem : argument ∈ directive.arguments) {c : Char} (there : c ∈ argument) : c ∈ text := by
  have braces : c ∈ directive.arguments.flatMap braced :=
    List.mem_flatMap.2 ⟨argument, argument_mem, by simp [braced, there]⟩
  have written : c ∈ found.written := by
    simp [Found.written, is, Directive.written, braces]
  rw [find?_written h]
  exact List.mem_append_left _ (List.mem_append_right _ written)

/-- Whatever stands in what a directive leaves or after it stands in the text before. -/
theorem mem_of_mem_replacement_append {text : List Char} {found : Found}
    (h : find? text = some found) {directive : Directive} (is : found.directive? = some directive)
    {state next : RenderState} {effect : Effect}
    (done : directive.perform state = .ok (effect, next)) {c : Char}
    (there : c ∈ effect.replacement ++ found.after) : c ∈ text := by
  rcases List.mem_append.1 there with left | after
  · cases effect with
    | text replacement =>
        exact mem_of_mem_argument h is (Directive.mem_arguments_of_perform done) left
    | nothing | pause => cases left
  · rw [find?_written h]
    exact List.mem_append_right _ after

/-- An iteration below zero is set only by an argument with a minus sign. -/
theorem Directive.nonneg_of_mem_iteration? {directive : Directive}
    (unsigned : ∀ argument ∈ directive.arguments, '-' ∉ argument) :
    ∀ iteration ∈ directive.iteration?, 0 ≤ iteration := by
  intro iteration sets
  unfold iteration? at sets
  split at sets
  next first more named given =>
    cases sets
    cases read : Numeral.readWhole? first with
    | none => exact Int.le_refl 0
    | some number =>
        have first_unsigned := unsigned first (given ▸ List.mem_cons_self)
        exact Numeral.nonneg_of_readWhole? first_unsigned read
  next => cases sets

/-- Nothing in a text without a minus sign sets the iteration below zero. -/
theorem nonneg_of_not_mem {text : List Char} (unsigned : '-' ∉ text) (state : RenderState) :
    ∀ met ∈ performed text state, ∀ iteration ∈ met.1.iteration?, 0 ≤ iteration := by
  fun_induction performed text state with
  | case1 => simp
  | case2 text state before after found _ ih =>
      exact ih fun minus => unsigned (by rw [find?_written found]; exact List.mem_append_right _ minus)
  | case3 text state before directive after found other failed =>
      rw [List.forall_mem_singleton]
      exact Directive.nonneg_of_mem_iteration? fun argument member minus =>
        unsigned (mem_of_mem_argument found rfl member minus)
  | case4 text state before directive after found effect next done _ ih =>
      rw [List.forall_mem_cons]
      refine ⟨?_, ih fun minus => unsigned (mem_of_mem_replacement_append found rfl done minus)⟩
      exact Directive.nonneg_of_mem_iteration? fun argument member minus =>
        unsigned (mem_of_mem_argument found rfl member minus)

/-- When renderings come to their end. One that does not is cut short by an advance whose iteration is
further below zero than it has arguments. If the iteration is zero or more to begin with and no
directive sets it below zero, as where the text has no minus sign, the rendering ends, and every
directive does what its arguments allow. -/
theorem rendering_completes (text : List Char) (state : RenderState) :
    ((render text state).failure? = none ↔
        ∀ met ∈ performed text state, ¬ met.1.Overshoots met.2) ∧
      (0 ≤ state.style.iteration →
        ('-' ∉ text → ∀ met ∈ performed text state, ∀ iteration ∈ met.1.iteration?,
          0 ≤ iteration) ∧
        ((∀ met ∈ performed text state, ∀ iteration ∈ met.1.iteration?, 0 ≤ iteration) →
          (render text state).failure? = none ∧
            ∀ met ∈ performed text state, met.1.Carried met.2)) := by
  have ends_iff : (render text state).failure? = none ↔
      ∀ met ∈ performed text state, ¬ met.1.Overshoots met.2 := by
    rw [Option.eq_none_iff_forall_ne_some]
    simp only [ne_eq, failure?_render_iff, ← Directive.perform_error_iff]
    grind
  refine ⟨ends_iff, fun begun => ⟨fun unsigned => nonneg_of_not_mem unsigned state, ?_⟩⟩
  intro counts
  have nonneg := nonneg_of_mem_performed begun counts
  refine ⟨ends_iff.2 ?_, fun met member => Directive.carried_of_nonneg (nonneg met member)⟩
  rintro met member ⟨_, _, below⟩
  have := nonneg met member
  omega

/-- A text with an unknown name, a number and a duration that cannot be read, a choice without options,
and more tellings than options. -/
def malformed : List Char :=
  "[zz]x[p]\x7bfew\x7d[w]\x7bsoon\x7d[r][p]\x7b7\x7d[a]\x7b[c]\x7by\x7d\x7bz\x7d\x7d\x7bw\x7d".toList

/-- The malformed text does not stop its rendering. Beside it, a text that does: it sets the iteration
below zero, and the advance finds no argument. -/
theorem rendering_completes_malformed :
    (render malformed {}).failure? = none ∧
      (render "[p]\x7b-3\x7d[a]\x7bx\x7d\x7by\x7d".toList {}).failure?.isSome = true := by
  have counts := ((rendering_completes malformed {}).2 (by decide)).1 (by decide)
  refine ⟨(((rendering_completes malformed {}).2 (by decide)).2 counts).1, by decide +kernel⟩

end Narrative.Markup
