/-
Module: Csgdb.Query.Predicate
Purpose: Owned predicate trees and query drafts of the typed query API, and
  what a predicate means on one row.
Trusted boundary: none
Main exports: Comparison, NullComparison, PredicateNode, QueryOrder,
  PredicateNode.meaning
-/
import Csgdb.Collection.Schema
import Csgdb.Core.Basic
import Csgdb.Sql.Meaning

namespace Csgdb.Query

inductive Comparison where
  | equal
  | notEqual
  | less
  | lessOrEqual
  | greater
  | greaterOrEqual
deriving Repr, DecidableEq

inductive NullComparison where
  | isNull
  | isNotNull
deriving Repr, DecidableEq

/-- An owned predicate over the fields of a collection. -/
inductive PredicateNode (R : Type) where
  | compare (field : FieldSchema) (comparison : Comparison) (value : Value R)
  | null (field : FieldSchema) (comparison : NullComparison)
  | and (left right : PredicateNode R)
  | or (left right : PredicateNode R)
  | not (inner : PredicateNode R)
deriving Repr, DecidableEq

inductive OrderDirection where
  | ascending
  | descending
deriving Repr, DecidableEq

/-- One ordering term. -/
structure QueryOrder where
  field : FieldSchema
  direction : OrderDirection
deriving Repr, DecidableEq

def QueryOrder.fieldId (term : QueryOrder) : String :=
  term.field.id

/-! ## Meaning -/

/-- The engine's operator for a comparison. -/
def Comparison.op : Comparison → Sql.CompareOp
  | .equal => .equal
  | .notEqual => .notEqual
  | .less => .less
  | .lessOrEqual => .lessEqual
  | .greater => .greater
  | .greaterOrEqual => .greaterEqual

/-- The engine's view of a value: the order of values is its own. -/
class EngineOrder (R : Type) where
  order : Value R → Value R → Ordering

instance {R : Type} [EngineOrder R] : Sql.Scalar (Value R) where
  null := .null
  isNull := Value.isNull
  order := EngineOrder.order
  isNull_null := rfl

variable {R : Type} [EngineOrder R]

/-- Comparison of a stored value with the value of a predicate.  Equality with
an absent value asks whether the field is absent. -/
def compareMeaning (stored : Value R) (comparison : Comparison) (value : Value R) :
    Sql.Truth :=
  match value, comparison with
  | .null, .equal => .ofBool stored.isNull
  | .null, .notEqual => .ofBool (!stored.isNull)
  | value, comparison => Sql.compareCells comparison.op stored value

/-- Truth value of a predicate on a row, in three-valued logic. -/
def PredicateNode.meaning (row : Sql.Row (Value R)) : PredicateNode R → Sql.Truth
  | .compare field comparison value =>
      compareMeaning (row field.column) comparison value
  | .null field .isNull => .ofBool (row field.column).isNull
  | .null field .isNotNull => .ofBool (!(row field.column).isNull)
  | .and left right => (left.meaning row).and (right.meaning row)
  | .or left right => (left.meaning row).or (right.meaning row)
  | .not inner => (inner.meaning row).not

/-- A query without predicate selects every row. -/
def selectedBy (predicate : Option (PredicateNode R)) (row : Sql.Row (Value R)) :
    Prop :=
  ∀ node, predicate = some node → node.meaning row = .isTrue

end Csgdb.Query
