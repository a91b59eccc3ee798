/-
Module: Csgdb.Sql.Meaning
Purpose: What statements of the fragment do: search conditions in three-valued
  logic, queries over rows and changes of one keyed table.
Trusted boundary: none
Main exports: Truth, Scalar, BoundCondition, BoundCondition.evaluate,
  BoundFilter.selects, Table, Table.execute, Table.query, Table.selectRows, Table.search
-/
import Csgdb.Sql.Prepare
import Mathlib.Data.List.Nodup

namespace Sql

/-! ## Three-valued logic -/

inductive Truth where
  | isTrue
  | isFalse
  | unknown
deriving Repr, DecidableEq

namespace Truth

def ofBool (holds : Bool) : Truth :=
  if holds then isTrue else isFalse

def and : Truth → Truth → Truth
  | isFalse, _ | _, isFalse => isFalse
  | isTrue, isTrue => isTrue
  | _, _ => unknown

def or : Truth → Truth → Truth
  | isTrue, _ | _, isTrue => isTrue
  | isFalse, isFalse => isFalse
  | _, _ => unknown

def not : Truth → Truth
  | isTrue => isFalse
  | isFalse => isTrue
  | unknown => unknown

end Truth

/-! ## Cells and rows -/

/-- What the engine asks of a stored cell. -/
class Scalar (Cell : Type) where
  null : Cell
  isNull : Cell → Bool
  order : Cell → Cell → Ordering
  isNull_null : isNull null = true

variable {Cell : Type} [Scalar Cell]

/-- A row gives every column of its table a cell. -/
abbrev Row (Cell : Type) := String → Cell

def CompareOp.accepts : CompareOp → Ordering → Bool
  | .equal, ordering => ordering == .eq
  | .notEqual, ordering => ordering != .eq
  | .less, ordering => ordering == .lt
  | .lessEqual, ordering => ordering != .gt
  | .greater, ordering => ordering == .gt
  | .greaterEqual, ordering => ordering != .lt

/-- A comparison with `NULL` is neither true nor false. -/
def compareCells (op : CompareOp) (left right : Cell) : Truth :=
  if Scalar.isNull left || Scalar.isNull right then
    .unknown
  else
    .ofBool (op.accepts (Scalar.order left right))

/-- A search condition with its parameters replaced by their values. -/
inductive BoundCondition (Cell : Type) where
  | compare (column : String) (op : CompareOp) (value : Cell)
  | isNull (column : String)
  | isNotNull (column : String)
  | and (left right : BoundCondition Cell)
  | or (left right : BoundCondition Cell)
  | not (inner : BoundCondition Cell)
deriving Repr, DecidableEq

inductive BoundFilter (Cell : Type) where
  | all
  | condition (condition : BoundCondition Cell)
deriving Repr, DecidableEq

/-- The value bound to a parameter; parameters are numbered from one. -/
def boundValue (values : List Cell) : Nat → Option Cell
  | 0 => none
  | index + 1 => values[index]?

omit [Scalar Cell] in
@[simp] theorem boundValue_succ (values : List Cell) (index : Nat) :
    boundValue values (index + 1) = values[index]? := rfl

/-- Replaces every parameter by the value bound to it. -/
def Condition.bind (values : List Cell) : Condition → Option (BoundCondition Cell)
  | .compare column op parameter =>
      (boundValue values parameter).map fun value => .compare column op value
  | .isNull column => some (.isNull column)
  | .isNotNull column => some (.isNotNull column)
  | .and left right =>
      (left.bind values).bind fun boundLeft =>
        (right.bind values).map fun boundRight => .and boundLeft boundRight
  | .or left right =>
      (left.bind values).bind fun boundLeft =>
        (right.bind values).map fun boundRight => .or boundLeft boundRight
  | .not inner => (inner.bind values).map .not

def Filter.bind (values : List Cell) : Filter → Option (BoundFilter Cell)
  | .all => some .all
  | .key column parameter =>
      (boundValue values parameter).map fun value =>
        .condition (.compare column .equal value)
  | .condition search => (search.bind values).map .condition

/-- The truth value of a search condition on one row. -/
def BoundCondition.evaluate (row : Row Cell) : BoundCondition Cell → Truth
  | .compare column op value => compareCells op (row column) value
  | .isNull column => .ofBool (Scalar.isNull (row column))
  | .isNotNull column => .ofBool (!Scalar.isNull (row column))
  | .and left right => (left.evaluate row).and (right.evaluate row)
  | .or left right => (left.evaluate row).or (right.evaluate row)
  | .not inner => (inner.evaluate row).not

/-- A row is selected when the condition is true on it. -/
def BoundFilter.selects (row : Row Cell) : BoundFilter Cell → Bool
  | .all => true
  | .condition search => search.evaluate row == .isTrue

/-! ## One keyed table -/

/-- The rows of a table whose key column is unique and never `NULL`. -/
@[ext]
structure Table (Cell : Type) [Scalar Cell] (key : String) where
  rows : List (Row Cell)
  keys_nodup : (rows.map fun row => row key).Nodup
  keys_notNull : ∀ row ∈ rows, Scalar.isNull (row key) = false

/-- How a statement can fail. -/
inductive Failure where
  /-- The changed rows violate a constraint. -/
  | constraint
  /-- The statement does not apply to this table. -/
  | misuse
deriving Repr, DecidableEq

omit [Scalar Cell] in
def Term.value (values : List Cell) (row : Row Cell) : Term → Option Cell
  | .parameter index => boundValue values index
  | .column name => some (row name)
  | .number _ => none

/-- The row an `INSERT` writes: unnamed columns stay `NULL`. -/
def insertedRow (values : List Cell) (columns : List String) (terms : List Term) :
    Option (Row Cell) :=
  (terms.mapM fun (term : Term) => term.value values fun _ => Scalar.null).map
    fun cells column => ((columns.zip cells).lookup column).getD Scalar.null

omit [Scalar Cell] in
/-- The row an `UPDATE` writes: right sides see the old row. -/
def assignedRow (values : List Cell) (assignments : List Assignment)
    (row : Row Cell) : Option (Row Cell) :=
  (assignments.mapM fun (assignment : Assignment) =>
      assignment.value.value values row).map
    fun cells column =>
      (((assignments.map Assignment.column).zip cells).lookup column).getD (row column)

namespace Table

variable {key : String} [DecidableEq Cell]

/-- Changed rows become the table when the key stays unique and present and the
table's other constraints accept them. -/
def replaceRows (accepts : List (Row Cell) → Bool) (rows : List (Row Cell)) :
    Except Failure (Table Cell key) :=
  if valid : (rows.map fun row => row key).Nodup ∧
      ∀ row ∈ rows, Scalar.isNull (row key) = false then
    if accepts rows then .ok ⟨rows, valid.1, valid.2⟩ else .error .constraint
  else
    .error .constraint

/-- Executes a change of the table called `name` and counts the rows it
changed.  A failed statement leaves the table as it was. -/
def execute (accepts : List (Row Cell) → Bool) (name : String) (values : List Cell)
    (table : Table Cell key) : Statement → Except Failure (Nat × Table Cell key)
  | .insert target columns terms =>
      if target = name ∧ columns.length = terms.length then
        match insertedRow values columns terms with
        | none => .error .misuse
        | some row => (replaceRows accepts (table.rows ++ [row])).map fun next => (1, next)
      else
        .error .misuse
  | .update target assignments filter =>
      if target = name then
        match filter.bind values with
        | none => .error .misuse
        | some bound =>
            match table.rows.mapM fun row =>
                if bound.selects row then assignedRow values assignments row
                else some row with
            | none => .error .misuse
            | some rows =>
                (replaceRows accepts rows).map fun next =>
                  (table.rows.countP fun row => bound.selects row, next)
      else
        .error .misuse
  | .delete target filter =>
      if target = name then
        match filter.bind values with
        | none => .error .misuse
        | some bound =>
            (replaceRows accepts (table.rows.filter fun row => !bound.selects row)).map
              fun next => (table.rows.countP fun row => bound.selects row, next)
      else
        .error .misuse
  | _ => .error .misuse

omit [DecidableEq Cell] in
/-- The result rows of an unordered query with a literal limit. -/
def query (name : String) (values : List Cell) (table : Table Cell key) :
    Statement → Except Failure (List (List Cell))
  | .select (.columns columns) target filter [] (.number limit) =>
      if target = name then
        match filter.bind values with
        | none => .error .misuse
        | some bound =>
            .ok (((table.rows.filter bound.selects).take limit).map
              fun row => columns.map row)
      else
        .error .misuse
  | _ => .error .misuse

end Table

/-! ## Ordered queries -/

/-- Whether a row may stand before another in the given order. -/
def precedes : List OrderTerm → Row Cell → Row Cell → Bool
  | [], _, _ => true
  | term :: rest, left, right =>
      match Scalar.order (left term.column) (right term.column), term.direction with
      | .eq, _ => precedes rest left right
      | .lt, .ascending | .gt, .descending => true
      | .lt, .descending | .gt, .ascending => false

omit [Scalar Cell] in
/-- The count that a limit stands for, where `countOf` reads a bound cell. -/
def Term.count (countOf : Cell → Option Nat) (values : List Cell) : Term → Option Nat
  | .parameter index => (boundValue values index).bind countOf
  | .column _ => none
  | .number value => some value

namespace Table

variable {key : String}

/-- The rows that a query selects, in its order and up to its limit. -/
def selectRows (countOf : Cell → Option Nat) (name : String) (values : List Cell)
    (table : Table Cell key) : Statement → Except Failure (List (Row Cell))
  | .select _ target filter order limit =>
      if target = name then
        match filter.bind values, limit.count countOf values with
        | some bound, some count =>
            .ok (((table.rows.filter bound.selects).mergeSort (precedes order)).take count)
        | _, _ => .error .misuse
      else
        .error .misuse
  | _ => .error .misuse

/-- The result rows of a query of listed columns. -/
def search (countOf : Cell → Option Nat) (name : String) (values : List Cell)
    (table : Table Cell key) (statement : Statement) :
    Except Failure (List (List Cell)) :=
  match statement with
  | .select (.columns columns) _ _ _ _ =>
      (table.selectRows countOf name values statement).map
        (List.map fun row => columns.map row)
  | _ => .error .misuse

end Table

end Sql
