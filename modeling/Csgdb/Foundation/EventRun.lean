/-
Module: Csgdb.Foundation.EventRun
Purpose: Machines that answer every event with one next state: what holds in all states of
  a run, what holds of all its steps, how the two determine each other, and what counters
  that stop at a largest value show after a run.
Trusted boundary: none
Main exports: EveryState, EveryStep, everyState_iff_everyStep, EveryStep.history,
  countSteps, saturatingSucc, saturating_run
-/
import Mathlib.Data.List.Induction
import Mathlib.Order.Basic
import Mathlib.Tactic.Common

namespace Foundation

variable {State Event : Type} (step : State → Event → State)

/-- A property of every state that a run goes through. -/
def EveryState (property : State → Prop) : State → List Event → Prop
  | state, [] => property state
  | state, event :: rest => property state ∧ EveryState property (step state event) rest

/-- A property of every step of a run, in terms of the state before it. -/
def EveryStep (property : State → Event → Prop) : State → List Event → Prop
  | _, [] => True
  | state, event :: rest => property state event ∧ EveryStep property (step state event) rest

variable {step} {invariant property : State → Prop} {allowed : State → Event → Prop}

/-- A property that a step keeps exactly when the step is allowed holds in every state of
a run exactly when all its steps are allowed. -/
theorem everyState_iff_everyStep
    (kept : ∀ state event, invariant state → invariant (step state event))
    (next : ∀ state event, invariant state → property state →
      (property (step state event) ↔ allowed state event))
    {state : State} (start : invariant state) (holds : property state)
    (events : List Event) :
    EveryState step property state events ↔ EveryStep step allowed state events := by
  induction events generalizing state with
  | nil => exact ⟨fun _ => trivial, fun _ => holds⟩
  | cons event rest inductionHypothesis =>
      have further := fun holds => inductionHypothesis (kept state event start) holds
      constructor
      · rintro ⟨-, every⟩
        have after : property (step state event) := by
          cases rest with
          | nil => exact every
          | cons _ _ => exact every.1
        exact ⟨(next state event start holds).mp after, (further after).mp every⟩
      · rintro ⟨one, every⟩
        have after := (next state event start holds).mpr one
        exact ⟨holds, (further after).mpr every⟩

theorem everyStep_congr {other : State → Event → Prop}
    (same : ∀ state event, allowed state event ↔ other state event) {state : State}
    {events : List Event} :
    EveryStep step allowed state events ↔ EveryStep step other state events := by
  induction events generalizing state with
  | nil => exact Iff.rfl
  | cons event rest inductionHypothesis =>
      exact and_congr (same state event) inductionHypothesis

theorem everyStep_snoc {state : State} {events : List Event} {event : Event} :
    EveryStep step allowed state (events ++ [event]) ↔
      EveryStep step allowed state events ∧ allowed (events.foldl step state) event := by
  induction events generalizing state with
  | nil => exact and_comm
  | cons first rest inductionHypothesis =>
      rw [List.cons_append, EveryStep, inductionHypothesis, EveryStep, and_assoc]
      rfl

/-- What every allowed step keeps, told of the events so far and the state, holds after a
run of allowed steps. -/
theorem EveryStep.history {kept : List Event → State → Prop} {state : State}
    (start : kept [] state)
    (next : ∀ past state event, kept past state → allowed state event →
      kept (past ++ [event]) (step state event)) {events : List Event}
    (every : EveryStep step allowed state events) : kept events (events.foldl step state) := by
  induction events using List.reverseRecOn with
  | nil => exact start
  | append_singleton past event inductionHypothesis =>
      obtain ⟨before, now⟩ := everyStep_snoc.mp every
      rw [List.foldl_append]
      exact next past _ event (inductionHypothesis before) now

/-! ## Counters -/

section Counters

/-- The number of steps of a run that are counted. -/
def countSteps (step : State → Event → State) (counted : State → Event → Bool) :
    State → List Event → Nat
  | _, [] => 0
  | state, event :: rest =>
      (if counted state event then 1 else 0) + countSteps step counted (step state event) rest

/-- One more, up to the largest value. -/
def saturatingSucc (largest value : Nat) : Nat :=
  min (value + 1) largest

theorem countSteps_eq_countP (counted : Event → Bool) (state : State)
    (events : List Event) :
    countSteps step (fun _ => counted) state events = events.countP counted := by
  induction events generalizing state with
  | nil => rfl
  | cons event rest inductionHypothesis =>
      rw [countSteps, inductionHypothesis, List.countP_cons, Nat.add_comm]

/-- A counter that goes up with every counted step shows the number of them, up to the
largest value. -/
theorem saturating_run (counter : State → Nat) {counted : State → Event → Bool}
    {largest : Nat}
    (counts : ∀ state event, counter (step state event) =
      if counted state event then saturatingSucc largest (counter state) else counter state)
    {state : State} (inRange : counter state ≤ largest) (events : List Event) :
    counter (events.foldl step state) =
      min (counter state + countSteps step counted state events) largest := by
  induction events generalizing state with
  | nil => exact (Nat.min_eq_left inRange).symm
  | cons event rest inductionHypothesis =>
      have next := counts state event
      unfold saturatingSucc at next
      rw [List.foldl_cons, countSteps]
      split at next
      case isTrue one =>
        rw [inductionHypothesis (next.trans_le (Nat.min_le_right _ _)), next, if_pos one]
        omega
      case isFalse none =>
        rw [inductionHypothesis (next.trans_le inRange), next, if_neg none, Nat.zero_add]

end Counters

end Foundation
