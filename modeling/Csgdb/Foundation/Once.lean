/-
Module: Csgdb.Foundation.Once
Purpose: Initializations that run once: the first caller runs it, callers that come
  meanwhile wait, later ones pass.
Trusted boundary: none
Main exports: Once, Once.Counts, Once.Moves, Once.Counts.moves
-/
import Mathlib.Tactic.Common

namespace Foundation

/-- A guard of an initialization. -/
inductive Once where
  | idle
  | running
  | done
deriving Repr, DecidableEq

namespace Once

/-- How many threads are in the initialization, and how many have completed it. -/
inductive Counts : Once → Nat → Nat → Prop
  | idle : Counts .idle 0 0
  | running : Counts .running 1 0
  | done : Counts .done 0 1

/-- What one move of a thread may do to the guard, with how much the thread is inside
before and after it. -/
inductive Moves : Once → Once → Nat → Nat → Nat → Nat → Prop
  | stays (once : Once) (inside completed : Nat) :
      Moves once once inside inside completed completed
  | begins (completed : Nat) : Moves .idle .running 0 1 completed completed
  | completes (once : Once) (completed : Nat) :
      Moves once .done 1 0 completed (completed + 1)

theorem Moves.still {once : Once} {inside inside' completed : Nat} (same : inside = inside') :
    Moves once once inside inside' completed completed :=
  same ▸ .stays once inside completed

/-- What was done stays done. -/
theorem Moves.done {once once' : Once} {inside inside' completed completed' : Nat}
    (moves : Moves once once' inside inside' completed completed') (done : once = .done) :
    once' = .done := by
  cases moves with
  | stays => exact done
  | begins => cases done
  | completes => rfl

namespace Counts

variable {once once' : Once} {inside inside' completed completed' : Nat}

/-- A thread that is inside is the only one, and the first to complete. -/
theorem moves {own own' : Nat} (counts : Counts once inside completed)
    (moves : Moves once once' own own' completed completed')
    (changed : inside' + own = inside + own') : Counts once' inside' completed' := by
  cases moves with
  | stays =>
      obtain rfl : inside' = inside := Nat.add_right_cancel changed
      exact counts
  | begins =>
      cases counts
      obtain rfl : inside' = 1 := by omega
      exact .running
  | completes =>
      cases counts with
      | running =>
          obtain rfl : inside' = 0 := by omega
          exact .done
      | idle | done => omega

theorem once_eq_running (counts : Counts once inside completed) (entered : 0 < inside) :
    once = .running := by
  cases counts with
  | running => rfl
  | idle | done => cases entered

theorem completed_le (counts : Counts once inside completed) : completed ≤ 1 := by
  cases counts <;> decide

theorem completed_eq_zero (counts : Counts .idle inside completed) : completed = 0 := by
  cases counts
  rfl

theorem inside_pos (counts : Counts .running inside completed) : 0 < inside := by
  cases counts
  decide

end Counts

end Once

end Foundation
