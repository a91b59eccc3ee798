/-
Module: Csgdb.Sql.TwoValued
Purpose: Search conditions that are never unknown on a row: negating one selects the
  complement of its rows.
Trusted boundary: none
Main exports: BoundCondition.KnownOn, Collation.evaluate_ne_unknown, selects_not,
  selects_and, Answers.complement
-/
import Csgdb.Sql.Selection

namespace Sql

/-! ## Truth values -/

namespace Truth

theorem ofBool_ne_unknown (holds : Bool) : ofBool holds ≠ .unknown := by
  cases holds <;> exact Truth.noConfusion

theorem and_ne_unknown {left right : Truth} (leftKnown : left ≠ .unknown)
    (rightKnown : right ≠ .unknown) : left.and right ≠ .unknown := by
  cases left <;> cases right <;> first | exact Truth.noConfusion | contradiction

theorem or_ne_unknown {left right : Truth} (leftKnown : left ≠ .unknown)
    (rightKnown : right ≠ .unknown) : left.or right ≠ .unknown := by
  cases left <;> cases right <;> first | exact Truth.noConfusion | contradiction

theorem not_ne_unknown {truth : Truth} (known : truth ≠ .unknown) : truth.not ≠ .unknown := by
  cases truth <;> first | exact Truth.noConfusion | contradiction

theorem not_isTrue {truth : Truth} (known : truth ≠ .unknown) :
    (truth.not == .isTrue) = !(truth == .isTrue) := by
  cases truth with
  | isTrue | isFalse => rfl
  | unknown => contradiction

theorem and_isTrue (left right : Truth) :
    (left.and right == .isTrue) = (left == .isTrue && right == .isTrue) := by
  cases left <;> cases right <;> rfl

end Truth

/-! ## Conditions -/

variable {Cell : Type} [Scalar Cell]

/-- No comparison of the condition meets a null on the row. -/
def BoundCondition.KnownOn (row : Row Cell) : BoundCondition Cell → Prop
  | .compare column _ value =>
      Scalar.isNull (row column) = false ∧ Scalar.isNull value = false
  | .isNull _ | .isNotNull _ => True
  | .and left right | .or left right => left.KnownOn row ∧ right.KnownOn row
  | .not inner => inner.KnownOn row

namespace Collation

variable (collation : Collation Cell) {row : Row Cell} {search : BoundCondition Cell}

theorem evaluate_ne_unknown (known : search.KnownOn row) :
    collation.evaluate row search ≠ .unknown := by
  induction search with
  | compare column op value =>
      obtain ⟨present, given⟩ := known
      rw [evaluate, present, given]
      exact Truth.ofBool_ne_unknown _
  | isNull | isNotNull => exact Truth.ofBool_ne_unknown _
  | and left right leftKnown rightKnown =>
      exact Truth.and_ne_unknown (leftKnown known.1) (rightKnown known.2)
  | or left right leftKnown rightKnown =>
      exact Truth.or_ne_unknown (leftKnown known.1) (rightKnown known.2)
  | not inner innerKnown => exact Truth.not_ne_unknown (innerKnown known)

/-- A row is selected by exactly one of a known condition and its negation. -/
theorem selects_not (known : search.KnownOn row) :
    collation.selects (.condition (.not search)) row =
      !collation.selects (.condition search) row :=
  Truth.not_isTrue (collation.evaluate_ne_unknown known)

/-- A conjunction selects the rows that both parts select, also where they are unknown. -/
theorem selects_and (left right : BoundCondition Cell) (row : Row Cell) :
    collation.selects (.condition (.and left right)) row =
      (collation.selects (.condition left) row && collation.selects (.condition right) row) :=
  Truth.and_isTrue _ _

variable {collation}

/-- Answers to complementary filters, both with room for all rows, are all rows together. -/
theorem Answers.complement {filter other : BoundFilter Cell} {order otherOrder : List OrderTerm}
    {count otherCount : Nat} {content answer otherAnswer : List (Row Cell)}
    (opposite : ∀ row ∈ content, collation.selects other row = !collation.selects filter row)
    (room : content.length ≤ count) (otherRoom : content.length ≤ otherCount)
    (answers : collation.Answers filter order count content answer)
    (otherAnswers : collation.Answers other otherOrder otherCount content otherAnswer) :
    (answer ++ otherAnswer).Perm content := by
  obtain ⟨arranged, perm, -, rfl⟩ := answers
  obtain ⟨others, otherPerm, -, rfl⟩ := otherAnswers
  have fits : arranged.length ≤ count := by
    rw [perm.length_eq]
    exact (List.length_filter_le _ _).trans room
  have othersFit : others.length ≤ otherCount := by
    rw [otherPerm.length_eq]
    exact (List.length_filter_le _ _).trans otherRoom
  rw [List.filter_congr opposite] at otherPerm
  rw [List.take_of_length_le fits, List.take_of_length_le othersFit]
  exact (perm.append otherPerm).trans (List.filter_append_perm _ content)

end Collation

end Sql
