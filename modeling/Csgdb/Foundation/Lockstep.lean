/-
Module: Csgdb.Foundation.Lockstep
Purpose: Machines that answer a request or cannot be asked it, and two machines that give
  the same answers on every run up to the n-th request of a kind.
Trusted boundary: none
Main exports: Machine, Machine.run, Machine.run_append, Machine.count, Same, Lockstep,
  Lockstep.run
-/
import Mathlib.Data.Option.Basic
import Mathlib.Tactic.Common

namespace Foundation

variable {State Other Request Answer Answer' : Type}

/-! ## Runs -/

/-- A machine that answers a request and goes on, or cannot be asked it. -/
abbrev Machine (State Request Answer : Type) : Type :=
  State → Request → Option (Answer × State)

namespace Machine

variable (machine : Machine State Request Answer)

/-- The answers to some requests, one after the other. -/
def run : State → List Request → Option (List Answer × State)
  | state, [] => some ([], state)
  | state, request :: rest =>
      (machine state request).bind fun (answer, next) =>
        (run next rest).map fun (answers, last) => (answer :: answers, last)

/-- How many requests of a run are of a kind. -/
def count (ofKind : State → Request → Bool) : State → List Request → Nat
  | _, [] => 0
  | state, request :: rest =>
      (if ofKind state request then 1 else 0) +
        ((machine state request).map fun (_, next) => count ofKind next rest).getD 0

variable {machine}

theorem run_append {state : State} {before after : List Request} :
    machine.run state (before ++ after) =
      (machine.run state before).bind fun (answers, middle) =>
        (machine.run middle after).map fun (later, last) => (answers ++ later, last) := by
  induction before generalizing state with
  | nil =>
      cases same : machine.run state after <;> simp [run, same]
  | cons request before inductionHypothesis =>
      rw [List.cons_append, run, run]
      cases machine state request with
      | none => rfl
      | some answered =>
          simp only [Option.bind_some, inductionHypothesis]
          cases machine.run answered.2 before with
          | none => rfl
          | some reached =>
              simp only [Option.bind_some, Option.map_some]
              cases machine.run reached.2 after <;> rfl

end Machine

/-! ## Two machines -/

/-- Both machines give the same answer and go on in related states, or neither can be
asked. -/
inductive Same (related : State → Other → Prop) :
    Option (Answer × State) → Option (Answer × Other) → Prop
  | refused : Same related none none
  | answered {answer : Answer} {state : State} {other : Other} (relates : related state other) :
      Same related (some (answer, state)) (some (answer, other))

namespace Same

variable {related further : State → Other → Prop}

theorem mono {one : Option (Answer × State)} {two : Option (Answer × Other)}
    (same : Same related one two)
    (weaker : ∀ state other, related state other → further state other) :
    Same further one two := by
  cases same with
  | refused => exact .refused
  | answered relates => exact .answered (weaker _ _ relates)

/-- The answers of both are put together with what was answered before. -/
theorem map {one : Option (Answer × State)} {two : Option (Answer × Other)}
    (same : Same related one two) (combine : Answer → Answer') :
    Same related (one.map fun (answer, state) => (combine answer, state))
      (two.map fun (answer, other) => (combine answer, other)) := by
  cases same with
  | refused => exact .refused
  | answered relates => exact .answered relates

/-- What both machines answer, when one of them is known to. -/
theorem eq_some {one : Option (Answer × State)} {answer : Answer} {other : Other}
    (same : Same related one (some (answer, other))) :
    ∃ state, one = some (answer, state) ∧ related state other := by
  cases same with
  | answered relates => exact ⟨_, rfl, relates⟩

theorem some_eq {two : Option (Answer × Other)} {answer : Answer} {state : State}
    (same : Same related (some (answer, state)) two) :
    ∃ other, two = some (answer, other) ∧ related state other := by
  cases same with
  | answered relates => exact ⟨_, rfl, relates⟩

end Same

/-- The machines answer every request the same but the one of the kind that has the number
`limit`.  The relation is told how many of the kind there were. -/
structure Lockstep (machine : Machine State Request Answer)
    (reference : Machine Other Request Answer) (ofKind : Other → Request → Bool) (limit : Nat)
    (related : Nat → State → Other → Prop) : Prop where
  step : ∀ {seen : Nat} {state : State} {other : Other}, related seen state other →
    ∀ request, ¬(ofKind other request = true ∧ seen + 1 = limit) →
      Same (related (seen + if ofKind other request then 1 else 0)) (machine state request)
        (reference other request)

variable {machine : Machine State Request Answer} {reference : Machine Other Request Answer}
  {ofKind : Other → Request → Bool} {limit : Nat} {related : Nat → State → Other → Prop}

/-- A run in which that request does not come up any more, or not yet. -/
theorem Lockstep.run (lockstep : Lockstep machine reference ofKind limit related) {seen : Nat}
    {state : State} {other : Other} (relates : related seen state other)
    {requests : List Request}
    (quiet : limit ≤ seen ∨ seen + reference.count ofKind other requests < limit) :
    Same (related (seen + reference.count ofKind other requests))
      (machine.run state requests) (reference.run other requests) := by
  induction requests generalizing seen state other with
  | nil => exact .answered relates
  | cons request rest inductionHypothesis =>
      rw [Machine.count] at quiet ⊢
      have other_kind : ¬(ofKind other request = true ∧ seen + 1 = limit) := by
        rintro ⟨kind, now⟩
        rw [if_pos kind] at quiet
        omega
      have stepped := lockstep.step relates request other_kind
      unfold Machine.run
      generalize reference other request = right at stepped quiet ⊢
      generalize machine state request = left at stepped ⊢
      cases stepped with
      | refused => exact .refused
      | @answered answer next goal further =>
          simp only [Option.map_some, Option.getD_some, ← Nat.add_assoc] at quiet ⊢
          have later : limit ≤ seen + (if ofKind other request then 1 else 0) ∨
              seen + (if ofKind other request then 1 else 0) +
                reference.count ofKind goal rest < limit := by
            omega
          exact (inductionHypothesis further later).map (answer :: ·)

end Foundation
