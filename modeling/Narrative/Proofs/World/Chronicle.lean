/-
Module: Narrative.Proofs.World.Chronicle
Purpose: Properties that a world and its journal have together. For every run it is enough that each
  change keeps such a property together with the events that tell of the change.
Main exports: World.Act.IsIn, World.Account, World.Account.evaluate, World.Chronicle,
  World.Chronicle.performAll
-/
import Narrative.Proofs.World.Acts
import Narrative.Proofs.World.Built

namespace Narrative.World

/-- The holder is one that there is. -/
def Has (world : World) : Holder → Prop
  | .player | .inventory => True
  | .entity number => (world.entity? number).isSome = true

theorem has_of_holderOf {world : World} {source : Nat} {reference : Reference} {holder : Holder}
    (there : (world.entity? source).isSome = true)
    (found : world.holderOf source reference = .ok holder) : world.Has holder := by
  cases reference with
  | own property =>
      cases found
      exact there
  | player | inventory =>
      cases found
      trivial
  | keyed element property =>
      obtain ⟨number, named, rfl⟩ := map_eq_ok.1 found
      unfold require at named
      split at named
      next other resolved =>
        cases named
        obtain ⟨within, _⟩ := List.findIdx?_eq_some_iff_getElem.1 resolved
        simp [Has, entity?, within]
      next => cases named

/-- To collect a telling is to change one node, if it changes anything. -/
theorem collect_cases (world : World) (top : NodePath) (counts : Bool) :
    (world.collect top counts).1 = world ∨
      ∃ told, (world.collect top counts).1 = world.modifyNode (fun _ => told) top := by
  unfold collect
  split
  · exact .inl rfl
  · exact .inl rfl
  · exact .inl rfl
  · exact .inr ⟨_, rfl⟩

/-- What an act names is in the plan: the entity whose impact is applied, or the location that the
focus moves to. -/
def Act.IsIn (plan : World) : Act → Prop
  | .apply source _ => (plan.entity? source).isSome = true
  | .setFocus location => plan.IsLocation location
  | .evaluate .. | .receive | .note _ => True

/-- The property is kept by each change that an evaluation makes of a world with this plan, and the
events that tell of it: when a membership of a holder is turned over, when the focus moves, when an
event is sent, and when tellings are counted. -/
structure Account (plan : World) (Kept : World → Prop) : Prop where
  well : plan.WellBuilt
  planned : ∀ {world : World}, Kept world → world.plan = plan
  turn : ∀ {world : World} {holder : Holder} {tag : String} {manipulation : Manipulation}
    {tags : TagSet}, Kept world → world.Has holder →
    (world.tagsOf holder).apply tag manipulation = (tags, true) →
    Kept ((world.setTags tags holder).emit (world.changeEvent holder tag (decide (tag ∈ tags))))
  move : ∀ {world : World} {location : Nat}, Kept world → plan.IsLocation location →
    Kept (world.setFocus location)
  send : ∀ {world : World} {event : Event}, Kept world → event.kind = .impact →
    Kept (world.emit event)
  tell : ∀ {world : World} (told : Node) (path : NodePath), Kept world →
    (world.modifyNode (fun _ => told) path).plan = world.plan →
    Kept (world.modifyNode (fun _ => told) path)

/-- The property is kept between evaluations too, whatever the log holds and whether or not the focus
has moved. -/
structure Chronicle (plan : World) (Kept : World → Prop) : Prop extends Account plan Kept where
  books : ∀ {world : World} (focusMoved : Bool) (log : List LogRecord), Kept world →
    Kept { world with focusMoved, log }

namespace Account

variable {plan : World} {Kept : World → Prop} (account : Account plan Kept) {world : World}

include account

/-- Kept worlds have the entities of the plan. -/
theorem there_iff (kept : Kept world) (number : Nat) :
    (world.entity? number).isSome = true ↔ (plan.entity? number).isSome = true := by
  rw [← account.planned kept, entity?_plan, Option.isSome_map]

theorem applyImpact {after : World} (kept : Kept world) {source : Nat} {impact : Impact}
    (there : (plan.entity? source).isSome = true)
    (applied : world.applyImpact source impact = .ok after) : Kept after := by
  cases impact with
  | manipulate manipulation reference =>
      obtain ⟨holder, found, changed⟩ := bind_eq_ok.1 applied
      cases changed
      have has := has_of_holderOf ((account.there_iff kept source).2 there) found
      unfold World.manipulate
      dsimp only
      split
      next changed => exact account.turn kept has (Prod.ext rfl changed)
      next => exact kept
  | focus key =>
      simp only [World.applyImpact, World.applyWith] at applied
      split at applied
      next location resolved =>
        cases applied
        have located := isLocation_of_resolveLocation? resolved
        rw [← isLocation_plan, account.planned kept] at located
        exact account.move kept located
      next => cases applied
  | event reference =>
      obtain ⟨holder, _, sent⟩ := bind_eq_ok.1 applied
      obtain ⟨event, made, emitted⟩ := bind_eq_ok.1 sent
      cases emitted
      apply account.send kept
      cases holder with
      | inventory => cases made
      | player | entity =>
          cases made
          rfl

theorem applyImpacts (kept : Kept world) {source : Nat}
    (there : (plan.entity? source).isSome = true) (impacts : List Impact) :
    Kept (world.applyImpacts source impacts).1 := by
  unfold World.applyImpacts
  induction impacts generalizing world with
  | nil => exact kept
  | cons impact rest ih =>
      rw [World.applyAllWith]
      split
      next => exact kept
      next after applied => exact ih (account.applyImpact kept there applied)

theorem collect (kept : Kept world) (top : NodePath) (counts : Bool) :
    Kept (world.collect top counts).1 := by
  have plan := plan_collect world top counts
  rcases collect_cases world top counts with same | ⟨told, changed⟩
  · rw [same]
    exact kept
  · rw [changed] at plan ⊢
    exact account.tell told top kept plan

theorem evaluate (kept : Kept world) (top : NodePath) (counts : Bool) :
    Kept (world.evaluate top counts).1 := by
  have collected := account.collect kept top counts
  unfold World.evaluate
  dsimp only
  split
  next after error stopped =>
    rw [stopped] at collected
    exact collected
  next after harvest told =>
    rw [told] at collected
    cases found : world.node? top with
    | none =>
        -- Nothing is told where there is no node, so nothing is applied either.
        simp only [World.collect, found] at told
        cases told
        exact collected
    | some node =>
        have well := account.well
        rw [← account.planned kept, wellBuilt_plan] at well
        apply account.applyImpacts collected
        rw [well.sourceOf_eq found, ← account.there_iff kept]
        obtain ⟨entity, known, _⟩ := Option.bind_eq_some_iff.1 found
        rw [known]
        rfl

end Account

namespace Chronicle

variable {plan : World} {Kept : World → Prop} (chronicle : Chronicle plan Kept) {world : World}

include chronicle

/-- Every act that names what is in the plan keeps the property, also if it fails midway. -/
theorem perform (kept : Kept world) {act : Act} (isIn : act.IsIn plan) :
    Kept (world.perform act) := by
  cases act with
  | evaluate top counts => exact chronicle.evaluate kept top counts
  | apply source impact =>
      rw [World.perform]
      split
      next after applied => exact chronicle.applyImpact kept isIn applied
      next => exact kept
  | setFocus location => exact chronicle.move kept isIn
  | receive => exact chronicle.books false world.log kept
  | note record => exact chronicle.books world.focusMoved _ kept

theorem performAll (kept : Kept world) {acts : List Act} (isIn : ∀ act ∈ acts, act.IsIn plan) :
    Kept (world.performAll acts) := by
  induction acts generalizing world with
  | nil => exact kept
  | cons act acts ih =>
      obtain ⟨first, others⟩ := List.forall_mem_cons.1 isIn
      exact ih (chronicle.perform kept first) others

end Chronicle

end Narrative.World
