/-
Module: Csgdb.Foundation.Occurrence
Purpose: The n-th event of a kind in a run of events.  It is met once at most, and when
  enough of the kind are there, once.
Trusted boundary: none
Main exports: IsOccurrence, countOccurrences, countOccurrences_eq
-/
import Mathlib.Data.List.Basic

namespace Foundation

variable {Event : Type*} (ofKind : Event → Bool)

/-- An event is the n-th of its kind when so many have been seen before it. -/
def IsOccurrence (occurrence seen : Nat) (event : Event) : Prop :=
  ofKind event = true ∧ seen + 1 = occurrence

instance (occurrence seen : Nat) (event : Event) :
    Decidable (IsOccurrence ofKind occurrence seen event) :=
  inferInstanceAs (Decidable (_ ∧ _))

/-- The events of a kind that have been seen with one event more. -/
def seenWith (seen : Nat) (event : Event) : Nat :=
  if ofKind event then seen + 1 else seen

/-- How many events of a list are the n-th of their kind. -/
def countOccurrences (occurrence : Nat) : Nat → List Event → Nat
  | _, [] => 0
  | seen, event :: rest =>
      (if IsOccurrence ofKind occurrence seen event then 1 else 0) +
        countOccurrences occurrence (seenWith ofKind seen event) rest

variable {ofKind}

theorem foldl_seenWith (seen : Nat) (events : List Event) :
    events.foldl (seenWith ofKind) seen = seen + events.countP ofKind := by
  induction events generalizing seen with
  | nil => rfl
  | cons event rest inductionHypothesis =>
      rw [List.foldl_cons, inductionHypothesis, seenWith, List.countP_cons]
      split <;> omega

/-- The n-th event of a kind is met exactly when it is still to come and does come. -/
theorem countOccurrences_eq (occurrence seen : Nat) (events : List Event) :
    countOccurrences ofKind occurrence seen events =
      if seen < occurrence ∧ occurrence ≤ seen + events.countP ofKind then 1 else 0 := by
  induction events generalizing seen with
  | nil =>
      rw [if_neg]
      · rfl
      · rintro ⟨later, already⟩
        exact Nat.not_le.mpr later already
  | cons event rest inductionHypothesis =>
      rw [countOccurrences, inductionHypothesis, List.countP_cons]
      unfold IsOccurrence seenWith
      by_cases kind : ofKind event = true
      · -- this is the n-th one, or the n-th one is still to come, or it is over
        simp only [kind, true_and, if_true]
        by_cases now : seen + 1 = occurrence
        · rw [if_pos now, if_neg (by omega), if_pos (by omega)]
        · rw [if_neg now, Nat.zero_add]
          congr 1
          simp only [eq_iff_iff]
          omega
      · simp only [kind, false_and, if_false, Nat.zero_add, Nat.add_zero, Bool.false_eq_true]

end Foundation
