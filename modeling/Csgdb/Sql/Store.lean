/-
Module: Csgdb.Sql.Store
Purpose: A keyed table is a store: at most one row for each key, and each
  statement of one key touches that row only.
Trusted boundary: none
Main exports: ExactEquality, Table.view, Table.view_eq_some_iff, query_key,
  execute_insert_ok, execute_update, execute_delete
-/
import Csgdb.Foundation.Fallible
import Csgdb.Sql.Meaning

namespace Sql

open Foundation

/-- Cells are equal for the engine exactly when they are the same cell. -/
class ExactEquality (Cell : Type) [Scalar Cell] : Prop where
  order_eq_iff : ∀ left right : Cell, Scalar.order left right = .eq ↔ left = right

variable {Cell : Type} [Scalar Cell] [ExactEquality Cell] {key : String}

/-- The filter `key = value`. -/
def keyFilter (key : String) (value : Cell) : BoundFilter Cell :=
  .condition (.compare key .equal value)

theorem selects_keyFilter {row : Row Cell} {value : Cell} :
    (keyFilter key value).selects row = true ↔
      row key = value ∧ Scalar.isNull value = false := by
  unfold keyFilter BoundFilter.selects BoundCondition.evaluate compareCells
  by_cases same : row key = value
  · have equal := (ExactEquality.order_eq_iff value value).mpr rfl
    cases isNull : Scalar.isNull value <;>
      simp [same, isNull, equal, CompareOp.accepts, Truth.ofBool]
  · have differ : Scalar.order (row key) value ≠ .eq := fun equal =>
      same ((ExactEquality.order_eq_iff _ _).mp equal)
    simp only [same, false_and, iff_false, beq_iff_eq]
    split
    · exact Truth.noConfusion
    · simp [CompareOp.accepts, differ, Truth.ofBool]

namespace Table

variable (table : Table Cell key)

/-- Inside a table no key is `NULL`. -/
theorem selects_keyFilter_of_mem {table : Table Cell key} {row : Row Cell}
    (member : row ∈ table.rows) {value : Cell} :
    (keyFilter key value).selects row = true ↔ row key = value := by
  rw [selects_keyFilter]
  constructor
  · exact And.left
  · rintro rfl
    exact ⟨rfl, table.keys_notNull row member⟩

variable [DecidableEq Cell]

/-- The row stored under a key. -/
def view (value : Cell) : Option (Row Cell) :=
  table.rows.find? fun row => row key = value

omit [ExactEquality Cell] [DecidableEq Cell] in
theorem eq_of_key_eq {table : Table Cell key} {left right : Row Cell}
    (leftMember : left ∈ table.rows) (rightMember : right ∈ table.rows)
    (sameKey : left key = right key) : left = right :=
  List.inj_on_of_nodup_map table.keys_nodup leftMember rightMember sameKey

omit [ExactEquality Cell] in
theorem view_eq_some_iff {table : Table Cell key} {value : Cell} {row : Row Cell} :
    table.view value = some row ↔ row ∈ table.rows ∧ row key = value := by
  constructor
  · intro found
    exact ⟨List.mem_of_find?_eq_some found, by simpa using List.find?_some found⟩
  · rintro ⟨member, sameKey⟩
    cases found : table.view value with
    | none =>
        have absent := List.find?_eq_none.mp found row member
        simp [sameKey] at absent
    | some other =>
        have otherMember := List.mem_of_find?_eq_some found
        have otherKey : other key = value := by simpa using List.find?_some found
        rw [eq_of_key_eq otherMember member (otherKey.trans sameKey.symm)]

omit [ExactEquality Cell] in
theorem view_eq_none_iff {table : Table Cell key} {value : Cell} :
    table.view value = none ↔ ∀ row ∈ table.rows, row key ≠ value := by
  unfold view
  rw [List.find?_eq_none]
  simp

/-- The rows with a given key are the row stored under it, if any. -/
theorem filter_keyFilter (value : Cell) :
    table.rows.filter (keyFilter key value).selects = (table.view value).toList := by
  have sameFilter : table.rows.filter (keyFilter key value).selects =
      table.rows.filter fun row => row key = value := by
    apply List.filter_congr
    intro row member
    rw [Bool.eq_iff_iff, selects_keyFilter_of_mem member, decide_eq_true_iff]
  rw [sameFilter]
  cases found : table.view value with
  | none =>
      rw [view_eq_none_iff] at found
      simpa using found
  | some row =>
      obtain ⟨member, sameKey⟩ := view_eq_some_iff.mp found
      generalize filtered : (table.rows.filter fun row => row key = value) = selected
      have inSelected : row ∈ selected := by
        rw [← filtered]
        exact List.mem_filter.mpr ⟨member, by simpa using sameKey⟩
      have only : ∀ other ∈ selected, other = row := by
        intro other otherMember
        rw [← filtered] at otherMember
        obtain ⟨inTable, otherKey⟩ := List.mem_filter.mp otherMember
        exact eq_of_key_eq inTable member (by simpa [sameKey] using otherKey)
      have nodup : selected.Nodup := by
        rw [← filtered]
        exact (List.Nodup.of_map _ table.keys_nodup).filter _
      -- copies of one row, of which a table holds one
      have copies := List.eq_replicate_of_mem only
      rw [copies, List.nodup_replicate] at nodup
      have someRow := List.length_pos_of_mem inSelected
      have oneRow : selected.length = 1 := by omega
      rw [copies, oneRow]
      rfl

/-! ## Statements of one key -/

/-- A query of one key returns the listed columns of the row stored under it. -/
theorem query_key {name : String} {values : List Cell} {value : Cell} {parameter : Nat}
    (bound : boundValue values parameter = some value) (columns : List String) :
    table.query name values
        (.select (.columns columns) name (.key key parameter) [] (.number 1)) =
      .ok ((table.view value).toList.map fun row => columns.map row) := by
  have filtered := table.filter_keyFilter value
  unfold keyFilter at filtered
  simp only [query, Filter.bind, bound, Option.map_some, if_true, filtered]
  cases table.view value <;> rfl

omit [ExactEquality Cell] in
theorem replaceRows_ok {accepts : List (Row Cell) → Bool} {rows : List (Row Cell)}
    {next : Table Cell key} (ok : replaceRows accepts rows = .ok next) :
    next.rows = rows := by
  unfold replaceRows at ok
  split at ok
  case isTrue valid =>
    split at ok
    · obtain rfl := Except.ok.inj ok
      rfl
    · cases ok
  case isFalse => cases ok

omit [ExactEquality Cell] in
/-- A statement that succeeds reports its count and leaves the changed rows. -/
theorem map_replaceRows_ok {accepts : List (Row Cell) → Bool} {rows : List (Row Cell)}
    {changed count : Nat} {next : Table Cell key}
    (ok : (replaceRows accepts rows).map (fun table : Table Cell key => (changed, table)) =
      .ok (count, next)) :
    count = changed ∧ next.rows = rows := by
  cases replaced : (replaceRows accepts rows : Except Failure (Table Cell key)) with
  | error failure => simp [replaced, Except.map] at ok
  | ok table =>
      simp only [replaced, Except.map, Except.ok.injEq, Prod.mk.injEq] at ok
      obtain ⟨rfl, rfl⟩ := ok
      exact ⟨rfl, replaceRows_ok replaced⟩

omit [ExactEquality Cell] in
/-- An insert adds its row under a key that was free. -/
theorem execute_insert_ok {accepts : List (Row Cell) → Bool} {name : String}
    {values : List Cell} {columns : List String} {terms : List Term} {row : Row Cell}
    {count : Nat} {next : Table Cell key}
    (inserted : insertedRow values columns terms = some row)
    (ok : table.execute accepts name values (.insert name columns terms) =
      .ok (count, next)) :
    count = 1 ∧ next.rows = table.rows ++ [row] := by
  simp only [execute, inserted, true_and] at ok
  split at ok
  case isTrue => exact map_replaceRows_ok ok
  case isFalse => cases ok

/-- The number of rows stored under a key. -/
theorem countP_keyFilter (value : Cell) :
    (table.rows.countP fun row => (keyFilter key value).selects row) =
      if (table.view value).isSome then 1 else 0 := by
  rw [List.countP_eq_length_filter, table.filter_keyFilter]
  cases table.view value <;> rfl

/-- An update of one key rewrites the row stored under it and no other. -/
theorem execute_update {accepts : List (Row Cell) → Bool} {name : String}
    {values : List Cell} {assignments : List Assignment} {parameter : Nat} {value : Cell}
    {change : Row Cell → Row Cell} (bound : boundValue values parameter = some value)
    (assigns : ∀ row ∈ table.rows, row key = value →
      assignedRow values assignments row = some (change row)) :
    table.execute accepts name values (.update name assignments (.key key parameter)) =
      (replaceRows accepts (table.rows.map fun row =>
        if row key = value then change row else row)).map
          fun next => (if (table.view value).isSome then 1 else 0, next) := by
  have changed : (table.rows.mapM fun row =>
      if (keyFilter key value).selects row then assignedRow values assignments row
      else some row) =
        some (table.rows.map fun row => if row key = value then change row else row) := by
    apply mapM_eq_map
    intro row member
    by_cases sameKey : row key = value
    · rw [if_pos ((selects_keyFilter_of_mem member).mpr sameKey), if_pos sameKey,
        assigns row member sameKey]
      rfl
    · rw [if_neg (fun selected => sameKey ((selects_keyFilter_of_mem member).mp selected)),
        if_neg sameKey]
      rfl
  have counted := table.countP_keyFilter value
  unfold keyFilter at changed counted
  simp only [execute, Filter.bind, bound, Option.map_some, if_true, changed, counted]

theorem execute_update_ok {accepts : List (Row Cell) → Bool} {name : String}
    {values : List Cell} {assignments : List Assignment} {parameter : Nat} {value : Cell}
    {change : Row Cell → Row Cell} {count : Nat} {next : Table Cell key}
    (bound : boundValue values parameter = some value)
    (assigns : ∀ row ∈ table.rows,
      assignedRow values assignments row = some (change row))
    (ok : table.execute accepts name values
      (.update name assignments (.key key parameter)) = .ok (count, next)) :
    (count = if (table.view value).isSome then 1 else 0) ∧
      next.rows = table.rows.map fun row =>
        if row key = value then change row else row := by
  rw [table.execute_update bound fun row member _ => assigns row member] at ok
  exact map_replaceRows_ok ok

/-- A delete of one key removes the row stored under it and no other. -/
theorem execute_delete {accepts : List (Row Cell) → Bool} {name : String}
    {values : List Cell} {parameter : Nat} {value : Cell}
    (bound : boundValue values parameter = some value) :
    table.execute accepts name values (.delete name (.key key parameter)) =
      (replaceRows accepts (table.rows.filter fun row => row key ≠ value)).map
        fun next => (if (table.view value).isSome then 1 else 0, next) := by
  have kept : (table.rows.filter fun row => !(keyFilter key value).selects row) =
      table.rows.filter fun row => row key ≠ value := by
    apply List.filter_congr
    intro row member
    rw [Bool.eq_iff_iff, Bool.not_eq_true', ← Bool.not_eq_true,
      selects_keyFilter_of_mem member, decide_eq_true_iff]
  have counted := table.countP_keyFilter value
  unfold keyFilter at kept counted
  simp only [execute, Filter.bind, bound, Option.map_some, if_true, kept, counted]

end Table

end Sql
