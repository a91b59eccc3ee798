/-
Module: Csgdb.Storage.Statement
Purpose: Compiled statements: exact positional binding, execution on one table
  and bounds-checked access to result columns.
Trusted boundary: `raw_bind_parameter` belongs to the engine wrapper and stays a
  parameter; it stores one value in one slot or refuses it.
Main exports: bindIter, executeValues, queryRows, valueRef
-/
import Csgdb.Core.Basic
import Csgdb.Foundation.Fallible
import Csgdb.Sql.Meaning

namespace Csgdb.Storage

variable {Cell : Type}

/-- The error the wrapper reports for a failed statement. -/
def mapFailure : Sql.Failure → Error
  | .constraint => constraintViolation
  | .misuse => invalidSql

/-- Compiles a statement. -/
def prepare (sql : String) : Result Sql.Prepared :=
  match Sql.prepare sql with
  | some prepared => .ok prepared
  | none => .error invalidSql

section Binding

variable (rawBindParameter : Nat → Cell → Result Unit)

/-- The loop of `bind_iter`: the value at an offset goes into the slot one
higher.  A refused value clears all slots and ends the call. -/
def bindSlots : Nat → List Cell → List Cell → Result (List Cell)
  | _, [], slots => .ok slots
  | offset, value :: rest, slots => do
      rawBindParameter (offset + 1) value
      bindSlots (offset + 1) rest (slots ++ [value])

/-- Binds an exact positional parameter list. -/
def bindIter (statement : Sql.Prepared) (parameters : List Cell) :
    Result (List Cell) :=
  if parameters.length != statement.parameterCount then
    .error parameterCountMismatch
  else
    bindSlots rawBindParameter 0 parameters []

variable [Sql.Scalar Cell] [DecidableEq Cell] {key : String}

/-- Executes a change of the given table. -/
def executeValues (accepts : List (Sql.Row Cell) → Bool) (name : String)
    (table : Sql.Table Cell key) (statement : Sql.Prepared) (parameters : List Cell) :
    Result (Nat × Sql.Table Cell key) := do
  let slots ← bindIter rawBindParameter statement parameters
  (table.execute accepts name slots statement.statement).mapError mapFailure

omit [DecidableEq Cell] in
/-- Starts a query on the given table. -/
def queryRows (name : String) (table : Sql.Table Cell key) (statement : Sql.Prepared)
    (parameters : List Cell) : Result (List (List Cell)) := do
  let slots ← bindIter rawBindParameter statement parameters
  (table.query name slots statement.statement).mapError mapFailure

end Binding

/-- One cell of a result row. -/
def valueRef (row : List Cell) (index : Nat) : Result Cell :=
  match row[index]? with
  | some cell => .ok cell
  | none => .error invalidColumnIndex

/-! ## Binding succeeds on exact lists -/

/-- The slot loop stores the parameters behind the slots it was given, unless
the engine refuses a value. -/
theorem bindSlots_cases (rawBindParameter : Nat → Cell → Result Unit) :
    ∀ (parameters : List Cell) (offset : Nat) (slots : List Cell),
      bindSlots rawBindParameter offset parameters slots = .ok (slots ++ parameters) ∨
        ∃ index value failure, rawBindParameter index value = .error failure ∧
          bindSlots rawBindParameter offset parameters slots = .error failure
  | [], _, slots => by simp [bindSlots]
  | value :: rest, offset, slots => by
      cases stored : rawBindParameter (offset + 1) value with
      | error failure =>
          right
          exact ⟨offset + 1, value, failure, stored, by simp [bindSlots, stored]⟩
      | ok accepted =>
          have later := bindSlots_cases rawBindParameter rest (offset + 1)
            (slots ++ [value])
          simpa [bindSlots, stored] using later

/-- A value that the engine refuses ends the call, whatever would come behind it. -/
theorem bindSlots_refused (rawBindParameter : Nat → Cell → Result Unit)
    {failure : Error} (behind : List Cell) :
    ∀ {parameters : List Cell} {offset : Nat} {slots : List Cell},
      bindSlots rawBindParameter offset parameters slots = .error failure →
        bindSlots rawBindParameter offset (parameters ++ behind) slots = .error failure
  | [], _, _, refused => by cases refused
  | value :: rest, offset, slots, refused => by
      cases stored : rawBindParameter (offset + 1) value with
      | error other => simpa [bindSlots, stored] using refused
      | ok accepted =>
          have later : bindSlots rawBindParameter (offset + 1) rest (slots ++ [value]) =
              .error failure := by simpa [bindSlots, stored] using refused
          simpa [bindSlots, stored] using bindSlots_refused rawBindParameter behind later

/-- With as many values as parameters, the slots hold the values in order; no
count mismatch is reported. -/
theorem bindIter_cases (rawBindParameter : Nat → Cell → Result Unit)
    {statement : Sql.Prepared} {parameters : List Cell}
    (sameCount : statement.parameterCount = parameters.length) :
    bindIter rawBindParameter statement parameters = .ok parameters ∨
      ∃ index value failure, rawBindParameter index value = .error failure ∧
        bindIter rawBindParameter statement parameters = .error failure := by
  have bound := bindSlots_cases rawBindParameter parameters 0 []
  simpa [bindIter, sameCount] using bound

end Csgdb.Storage
