/-
Module: Csgdb.Foundation.Interleaving
Purpose: Threads that share a state and move one at a time, in any order: the
  rely-guarantee rule for what each of them asserts, and termination.
Trusted boundary: none
Main exports: Interleaving, Turn, Runs, RelyGuarantee, RelyGuarantee.runs,
  turn_wellFounded
-/
import Mathlib.Data.List.Basic
import Mathlib.Logic.Relation
import Mathlib.Order.WellFounded

namespace Foundation

variable {Shared Thread : Type}

/-- Threads over a shared state. -/
structure Interleaving (Shared Thread : Type) where
  shared : Shared
  threads : List Thread

variable (move : Nat → Shared → Thread → Shared → Thread → Prop)

/-- One thread moves. -/
inductive Turn : Interleaving Shared Thread → Interleaving Shared Thread → Prop
  | of {shared shared' : Shared} {threads : List Thread} {place : Nat}
      {thread thread' : Thread} (present : threads[place]? = some thread)
      (moved : move place shared thread shared' thread') :
      Turn ⟨shared, threads⟩ ⟨shared', threads.set place thread'⟩

/-- Any interleaving. -/
def Runs : Interleaving Shared Thread → Interleaving Shared Thread → Prop :=
  Relation.ReflTransGen (Turn move)

/-! ## Assertions -/

/-- Every thread meets its assertion. -/
def Asserted (assertion : Nat → Shared → Thread → Prop)
    (state : Interleaving Shared Thread) : Prop :=
  ∀ place thread, state.threads[place]? = some thread →
    assertion place state.shared thread

/-- A thread that meets its assertion keeps it when it moves and then does no more than it
guarantees; what the others guarantee does not disturb the assertion. -/
structure RelyGuarantee (assertion : Nat → Shared → Thread → Prop)
    (guarantee : Nat → Shared → Shared → Prop) : Prop where
  own : ∀ {place shared thread shared' thread'},
    move place shared thread shared' thread' →
      assertion place shared thread → assertion place shared' thread'
  guaranteed : ∀ {place shared thread shared' thread'},
    move place shared thread shared' thread' →
      assertion place shared thread → guarantee place shared shared'
  stable : ∀ {place other shared shared' thread}, place ≠ other →
    guarantee other shared shared' → assertion place shared thread →
      assertion place shared' thread

variable {move} {assertion : Nat → Shared → Thread → Prop}
  {guarantee : Nat → Shared → Shared → Prop} {state next : Interleaving Shared Thread}

theorem RelyGuarantee.turn (rule : RelyGuarantee move assertion guarantee)
    (asserted : Asserted assertion state) (turn : Turn move state next) :
    Asserted assertion next := by
  cases turn with
  | @of _ _ _ moving thread thread' present moved =>
      intro place met found
      have before := asserted moving thread present
      by_cases same : moving = place
      · subst same
        have inRange := (List.getElem?_eq_some_iff.mp present).1
        rw [List.getElem?_set_self inRange] at found
        obtain rfl := Option.some.inj found
        exact rule.own moved before
      · rw [List.getElem?_set_ne same] at found
        exact rule.stable (Ne.symm same) (rule.guaranteed moved before)
          (asserted place met found)

/-- What all threads assert at first, they assert along every run. -/
theorem RelyGuarantee.runs (rule : RelyGuarantee move assertion guarantee)
    (asserted : Asserted assertion state) (run : Runs move state next) :
    Asserted assertion next := by
  induction run with
  | refl => exact asserted
  | tail _ turn ih => exact rule.turn ih turn

/-- What every move of a thread that meets its assertion keeps, every run keeps. -/
theorem RelyGuarantee.runs_keep (rule : RelyGuarantee move assertion guarantee)
    (invariant : Shared → Prop)
    (kept : ∀ {place shared thread shared' thread'}, move place shared thread shared' thread' →
      assertion place shared thread → invariant shared → invariant shared')
    (asserted : Asserted assertion state) (holds : invariant state.shared)
    (run : Runs move state next) : invariant next.shared := by
  induction run with
  | refl => exact holds
  | @tail middle _ before turn ih =>
      have meets := rule.runs asserted before
      cases turn with
      | of present moved => exact kept moved (meets _ _ present) ih

/-- The first thread moves. -/
theorem Turn.first {shared shared' : Shared} {thread thread' : Thread} {rest : List Thread}
    (moved : move 0 shared thread shared' thread') :
    Turn move ⟨shared, thread :: rest⟩ ⟨shared', thread' :: rest⟩ :=
  .of rfl moved

theorem Turn.length_eq (turn : Turn move state next) :
    next.threads.length = state.threads.length := by
  cases turn with
  | of present moved => exact List.length_set

/-! ## Sums over the threads -/

/-- What the threads amount to together. -/
def total (left : Thread → Nat) : List Thread → Nat
  | [] => 0
  | thread :: rest => left thread + total left rest

/-- One thread takes the place of another. -/
theorem total_set {left : Thread → Nat} {thread thread' : Thread} :
    ∀ {threads : List Thread} {place : Nat}, threads[place]? = some thread →
      total left (threads.set place thread') + left thread =
        total left threads + left thread'
  | first :: rest, 0, present => by
      obtain rfl : first = thread := by simpa using present
      simp only [List.set_cons_zero, total]
      omega
  | first :: rest, place + 1, present => by
      have inRest : total left (rest.set place thread') + left thread =
          total left rest + left thread' := total_set (by simpa using present)
      simp only [List.set_cons_succ, total]
      omega

theorem le_total (left : Thread → Nat) {thread : Thread} :
    ∀ {threads : List Thread}, thread ∈ threads → left thread ≤ total left threads
  | first :: rest, present => by
      rcases List.mem_cons.mp present with rfl | later
      · exact Nat.le_add_right _ _
      · exact (le_total left later).trans (Nat.le_add_left _ _)

theorem exists_of_total_pos {left : Thread → Nat} :
    ∀ {threads : List Thread}, 0 < total left threads → ∃ thread ∈ threads, 0 < left thread
  | first :: rest, positive => by
      by_cases own : 0 < left first
      · exact ⟨first, List.mem_cons_self, own⟩
      · have inRest : 0 < total left rest := by
          simp only [total] at positive
          omega
        obtain ⟨thread, member, amount⟩ := exists_of_total_pos inRest
        exact ⟨thread, List.mem_cons_of_mem _ member, amount⟩

theorem total_replicate {left : Thread → Nat} {thread : Thread} (nothing : left thread = 0)
    (count : Nat) : total left (List.replicate count thread) = 0 := by
  induction count with
  | zero => rfl
  | succ count inductionHypothesis =>
      rw [List.replicate_succ, total, nothing, inductionHypothesis]

/-! ## Termination -/

theorem total_set_lt {left : Thread → Nat} {thread thread' : Thread}
    (fewer : left thread' < left thread) :
    ∀ {threads : List Thread} {place : Nat}, threads[place]? = some thread →
      total left (threads.set place thread') < total left threads
  | first :: rest, 0, present => by
      obtain rfl : first = thread := by simpa using present
      exact Nat.add_lt_add_right fewer _
  | first :: rest, place + 1, present =>
      Nat.add_lt_add_left (total_set_lt fewer (by simpa using present)) _

/-- Threads that each move a bounded number of times cannot go on for ever. -/
theorem turn_wellFounded {left : Thread → Nat}
    (fewer : ∀ {place shared thread shared' thread'},
      move place shared thread shared' thread' → left thread' < left thread) :
    WellFounded fun next state : Interleaving Shared Thread => Turn move state next := by
  refine Subrelation.wf ?_ (measure fun state : Interleaving Shared Thread =>
    total left state.threads).wf
  intro next state turn
  cases turn with
  | of present moved => exact total_set_lt (fewer moved) present

end Foundation
