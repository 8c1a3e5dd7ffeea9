/-
Module: Narrative.Proofs.Markup.Pace
Purpose: The speed that a rendering begins with changes nothing of it but speeds: not its fragments,
  not what is left of the random numbers, and not the events that it raises.
Main exports: RenderState.paced, Directive.perform_paced, Rendering.Alike, alike_paced,
  Directive.event?, raised_render
-/
import Narrative.Proofs.Markup.Completion

namespace Narrative.Markup

/-! ### Speeds -/

/-- The state with another speed. -/
def RenderState.paced (speed : Speed) (state : RenderState) : RenderState :=
  { state with style := { state.style with speed } }

namespace Directive

variable {directive : Directive} {state next : RenderState} {effect : Effect}

/-- The speed that the directive sets. -/
def speed? (directive : Directive) : Option Speed :=
  match Kind.ofName? (String.ofList directive.name) with
  | some (.speed speed) => some speed
  | _ => none

/-- The argument of the event that the directive raises. -/
def event? (directive : Directive) : Option String :=
  match Kind.ofName? (String.ofList directive.name), directive.arguments with
  | some .event, first :: _ => some (String.ofList first)
  | _, _ => none

/-- A directive does the same at every speed, and the speed is another afterwards only if the directive
sets it. -/
theorem perform_paced (directive : Directive) (speed : Speed) (state : RenderState) :
    directive.perform (state.paced speed) = (directive.perform state).map fun (effect, next) =>
      (effect, next.paced (directive.speed?.getD speed)) := by
  obtain ⟨name, arguments⟩ := directive
  unfold perform speed?
  dsimp only
  split
  next unknown =>
    rw [unknown]
    rfl
  next pace named =>
    rw [named]
    rfl
  next kind paced named =>
    rw [named]
    cases kind with
    | speed pace => cases paced pace rfl
    | _ => rfl
  next kind first more paced named =>
    rw [named]
    cases kind with
    | speed pace => cases paced pace rfl
    | setIteration | random | cycle | event => rfl
    | wait | foreground | background =>
        simp only [Kind.performWith]
        split <;> rfl
    | advance =>
        simp only [Kind.performWith, RenderState.paced]
        cases argumentAt first more (min state.style.iteration more.length) <;> rfl

/-- A directive raises its event, and no other directive raises one. -/
theorem raised_of_perform (done : directive.perform state = .ok (effect, next)) :
    next.raised = state.raised ++ directive.event?.toList := by
  obtain ⟨name, arguments⟩ := directive
  unfold perform at done
  unfold event?
  dsimp only at done ⊢
  split at done
  next unknown =>
    cases done
    simp [unknown]
  next pace named =>
    cases done
    simp [named]
  next kind paced named =>
    cases done
    cases kind <;> simp [named]
  next kind first more paced named =>
    rw [named]
    cases kind with
    | speed | setIteration | random | cycle | event =>
        cases done
        simp
    | wait | foreground | background =>
        simp only [Kind.performWith] at done
        split at done <;> cases done <;> simp
    | advance =>
        obtain ⟨argument, _, same⟩ := map_eq_ok.1 done
        cases same
        simp

end Directive

/-! ### Whole renderings -/

/-- The renderings show the same and end alike, but for the speeds. -/
structure Rendering.Alike (rendering other : Rendering) : Prop where
  fragments : rendering.fragments.map (·.1) = other.fragments.map (·.1)
  final : ∃ speed, rendering.final = other.final.paced speed
  failure : rendering.failure? = other.failure?

theorem Rendering.Alike.after {rendering other : Rendering} (alike : rendering.Alike other)
    {shown others : List (Fragment × Style)} (same : shown.map (·.1) = others.map (·.1)) :
    (rendering.after shown).Alike (other.after others) := by
  refine ⟨?_, alike.final, alike.failure⟩
  simp only [Rendering.after, List.map_append, same, alike.fragments]

theorem fragments_shownText (text : List Char) (state other : RenderState) :
    (shownText text state).map (·.1) = (shownText text other).map (·.1) := by
  unfold shownText
  split <;> rfl

/-- A rendering that begins at another speed shows the same. The induction is on the steps of the
rendering; the speed may be another at each of them. -/
theorem alike_paced (text : List Char) (state : RenderState) (speed : Speed) :
    (render text (state.paced speed)).Alike (render text state) := by
  fun_induction performed text state generalizing speed with
  | case1 text state missing =>
      rw [render_of_none missing, render_of_none missing]
      exact ⟨fragments_shownText text _ _, ⟨speed, rfl⟩, rfl⟩
  | case2 text state before after found _ ih =>
      rw [render_of_escape found, render_of_escape found]
      exact (ih speed).after (fragments_shownText before _ _)
  | case3 text state before directive after found failure failed =>
      have fails : directive.perform (state.paced speed) = .error failure := by
        rw [Directive.perform_paced, failed]
        rfl
      rw [render_of_directive found, render_of_directive found, Directive.run, Directive.run, fails,
        failed]
      have cut : Rendering.Alike ⟨[], state.paced speed, some failure⟩ ⟨[], state, some failure⟩ :=
        ⟨rfl, ⟨speed, rfl⟩, rfl⟩
      exact cut.after (fragments_shownText before _ _)
  | case4 text state before directive after found effect next done _ ih =>
      have does : directive.perform (state.paced speed) =
          .ok (effect, next.paced (directive.speed?.getD speed)) := by
        rw [Directive.perform_paced, done]
        rfl
      rw [render_of_directive found, render_of_directive found, Directive.run_of_ok does,
        Directive.run_of_ok done]
      refine ((ih _).after ?_).after (fragments_shownText before _ _)
      cases effect <;> rfl

/-- What a rendering raises are the events of the directives that it carries out, in their order. One
that fails raises none. -/
theorem raised_render (text : List Char) (state : RenderState) :
    (render text state).final.raised =
      state.raised ++ (performed text state).filterMap (·.1.event?) := by
  fun_induction performed text state with
  | case1 text state missing => simp [render_of_none missing]
  | case2 text state before after found _ ih =>
      rw [render_of_escape found]
      exact ih
  | case3 text state before directive after found failure failed =>
      obtain ⟨advance, _, _⟩ := Directive.perform_error_iff.1 ⟨failure, failed⟩
      have silent : directive.event? = none := by
        unfold Directive.event?
        rw [show Kind.ofName? (String.ofList directive.name) = some .advance from advance]
      rw [render_of_directive found, Directive.run, failed]
      simp [Rendering.after, silent]
  | case4 text state before directive after found effect next done _ ih =>
      rw [render_of_directive found, Directive.run_of_ok done]
      refine ih.trans ?_
      rw [Directive.raised_of_perform done, List.append_assoc]
      cases raises : directive.event? <;> simp [raises]

end Narrative.Markup
