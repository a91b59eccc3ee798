/-
Module: Csgdb.Proofs.WriteQueue
Purpose: What one turn of a submitter or of the writer at the write queue does.
Trusted boundary: none
Main exports: push_cases, push_accepted, push_sleeps, Taken.jobs, collect_append,
  collectMore_queue, pop_queue
-/
import Csgdb.Pool.Queue

namespace Csgdb.Pool.WriteQueue

variable {Operation Data Channel : Type}

/-! ## Submitters -/

theorem enqueue_accepted {job : WriteJob Operation Data Channel}
    {state after : WriteQueueState Operation Data Channel}
    (pushed : enqueue job state = .accepted after) :
    state.accepting = true ∧ after = { state with jobs := state.jobs ++ [job] } := by
  unfold enqueue at pushed
  cases accepting : state.accepting with
  | false => simp [accepting] at pushed
  | true =>
      simp only [accepting, Bool.not_true, Bool.false_eq_true, ↓reduceIte] at pushed
      exact ⟨rfl, (PushStep.accepted.inj pushed).symm⟩

theorem enqueue_sleeps {job : WriteJob Operation Data Channel}
    {state : WriteQueueState Operation Data Channel} : enqueue job state ≠ .sleeps := by
  unfold enqueue
  split <;> nofun

/-- A turn of a submitter: it sleeps in front of a full and open queue, it is refused
by a full one, or it comes to the end of `push`, where an open queue has room. -/
theorem push_cases (capacity : Nat) (policy : WriteBackpressure) (resumed : Option Bool)
    (job : WriteJob Operation Data Channel)
    (state : WriteQueueState Operation Data Channel) :
    (push capacity policy resumed job state = .sleeps ∧ state.accepting = true ∧
      capacity ≤ state.jobs.length) ∨
    (∃ error, push capacity policy resumed job state = .refused error ∧
      capacity ≤ state.jobs.length) ∨
    (push capacity policy resumed job state = enqueue job state ∧
      (state.accepting = true → state.jobs.length < capacity)) := by
  by_cases full : capacity ≤ state.jobs.length
  · cases policy with
    | reject => exact .inr (.inl ⟨writeQueueFull, by simp [push, full], full⟩)
    | wait =>
        cases accepting : state.accepting with
        | true => exact .inl ⟨by simp [push, full, accepting], rfl, full⟩
        | false => exact .inr (.inr ⟨by simp [push, accepting], nofun⟩)
    | timeout =>
        cases accepting : state.accepting with
        | true =>
            cases resumed with
            | none => exact .inl ⟨by simp [push, full, accepting], rfl, full⟩
            | some expired =>
                cases expired with
                | true =>
                    exact .inr (.inl ⟨writeQueueTimeout, by simp [push, full], full⟩)
                | false => exact .inl ⟨by simp [push, full, accepting], rfl, full⟩
        | false =>
            cases resumed with
            | none => exact .inr (.inr ⟨by simp [push, accepting], nofun⟩)
            | some expired =>
                cases expired with
                | true =>
                    exact .inr (.inl ⟨writeQueueTimeout, by simp [push, full], full⟩)
                | false => exact .inr (.inr ⟨by simp [push, full, accepting], nofun⟩)
  · refine .inr (.inr ⟨?_, fun _ => by omega⟩)
    cases policy with
    | reject => simp [push, full]
    | wait => simp [push, full]
    | timeout => cases resumed <;> simp [push, full]

/-- An accepted job is the last one of a queue that had room and was open. -/
theorem push_accepted {capacity : Nat} {policy : WriteBackpressure}
    {resumed : Option Bool} {job : WriteJob Operation Data Channel}
    {state after : WriteQueueState Operation Data Channel}
    (pushed : push capacity policy resumed job state = .accepted after) :
    state.accepting = true ∧ state.jobs.length < capacity ∧
      after = { state with jobs := state.jobs ++ [job] } := by
  rcases push_cases capacity policy resumed job state with
    ⟨sleeps, -⟩ | ⟨error, refused, -⟩ | ⟨ends, room⟩
  · rw [pushed] at sleeps; cases sleeps
  · rw [pushed] at refused; cases refused
  · rw [pushed] at ends
    obtain ⟨accepting, same⟩ := enqueue_accepted ends.symm
    exact ⟨accepting, room accepting, same⟩

/-- A submitter sleeps only in front of a full and open queue. -/
theorem push_sleeps {capacity : Nat} {policy : WriteBackpressure}
    {resumed : Option Bool} {job : WriteJob Operation Data Channel}
    {state : WriteQueueState Operation Data Channel}
    (pushed : push capacity policy resumed job state = .sleeps) :
    state.accepting = true ∧ capacity ≤ state.jobs.length := by
  rcases push_cases capacity policy resumed job state with
    ⟨-, asleep⟩ | ⟨error, refused, -⟩ | ⟨ends, -⟩
  · exact asleep
  · rw [pushed] at refused; cases refused
  · rw [pushed] at ends
    exact absurd ends.symm enqueue_sleeps

/-! ## The writer -/

/-- The jobs that a turn of the writer holds in its hands. -/
def Taken.jobs : Taken Operation Data Channel → List (WriteJob Operation Data Channel)
  | .sleeps => []
  | .closed => []
  | .exclusive operation response => [.exclusive operation response]
  | .group jobs => jobs.map .groupable
  | .waitsForMore jobs => jobs.map .groupable

/-- Collecting moves jobs from the front of the queue to the end of the group. -/
theorem collect_append (maxJobs : Nat) (group : List (GroupableWrite Data Channel))
    (jobs : List (WriteJob Operation Data Channel)) :
    (collect maxJobs group jobs).1.map .groupable ++ (collect maxJobs group jobs).2 =
      group.map .groupable ++ jobs := by
  induction jobs generalizing group with
  | nil => rw [collect]; nofun
  | cons job rest inductionHypothesis =>
      cases job with
      | exclusive operation response => rw [collect]; nofun
      | groupable job =>
          rw [collect]
          split
          · rw [inductionHypothesis]
            simp
          · rfl

theorem collectMore_queue {maxJobs : Nat} {expired : Bool}
    {group : List (GroupableWrite Data Channel)}
    {state after : WriteQueueState Operation Data Channel}
    {taken : Taken Operation Data Channel}
    (collected : collectMore maxJobs expired group state = (after, taken)) :
    group.map .groupable ++ state.jobs = taken.jobs ++ after.jobs ∧
      after.accepting = state.accepting ∧
      ((∃ jobs, taken = .group jobs) ∨ ∃ jobs, taken = .waitsForMore jobs) := by
  have moved := collect_append maxJobs group state.jobs
  simp only [collectMore] at collected
  split at collected
  · obtain ⟨rfl, rfl⟩ := Prod.mk.inj collected
    exact ⟨moved.symm, rfl, .inr ⟨_, rfl⟩⟩
  · obtain ⟨rfl, rfl⟩ := Prod.mk.inj collected
    exact ⟨moved.symm, rfl, .inl ⟨_, rfl⟩⟩

/-- A turn of `pop`: jobs leave the queue at its front. -/
theorem pop_queue {maxJobs : Nat} {expired : Bool}
    {state after : WriteQueueState Operation Data Channel}
    {taken : Taken Operation Data Channel}
    (popped : pop maxJobs expired state = (after, taken)) :
    state.jobs = taken.jobs ++ after.jobs ∧ after.accepting = state.accepting := by
  unfold pop at popped
  split at popped
  · next empty =>
      split at popped
      all_goals
        obtain ⟨rfl, rfl⟩ := Prod.mk.inj popped
        exact ⟨by rw [empty]; rfl, rfl⟩
  · next operation response rest jobs =>
      obtain ⟨rfl, rfl⟩ := Prod.mk.inj popped
      exact ⟨jobs, rfl⟩
  · next first rest jobs =>
      obtain ⟨moved, accepting, -⟩ := collectMore_queue popped
      exact ⟨jobs.trans moved, accepting⟩

/-- The writer sleeps only in front of an empty and open queue. -/
theorem pop_sleeps {maxJobs : Nat} {expired : Bool}
    {state after : WriteQueueState Operation Data Channel}
    (popped : pop maxJobs expired state = (after, .sleeps)) :
    after.accepting = true ∧ after.jobs = [] := by
  unfold pop at popped
  split at popped
  · next empty =>
      split at popped
      · cases popped
      · next accepting =>
          obtain ⟨rfl, -⟩ := Prod.mk.inj popped
          exact ⟨by simpa using accepting, empty⟩
  · cases popped
  · rcases (collectMore_queue popped).2.2 with ⟨jobs, other⟩ | ⟨jobs, other⟩ <;> cases other

/-- It stops only in front of an empty and closed queue. -/
theorem pop_closed {maxJobs : Nat} {expired : Bool}
    {state after : WriteQueueState Operation Data Channel}
    (popped : pop maxJobs expired state = (after, .closed)) :
    after.accepting = false ∧ after.jobs = [] := by
  unfold pop at popped
  split at popped
  · next empty =>
      split at popped
      · next closed =>
          obtain ⟨rfl, -⟩ := Prod.mk.inj popped
          exact ⟨by simpa using closed, empty⟩
      · cases popped
  · cases popped
  · rcases (collectMore_queue popped).2.2 with ⟨jobs, other⟩ | ⟨jobs, other⟩ <;> cases other

end Csgdb.Pool.WriteQueue
