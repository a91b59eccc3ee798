/-
Module: Csgdb.Foundation.Cursor
Purpose: Compiled queries with parameters, the cursors that run them row by row, and the
  loops that read a cursor to its end through some interface.
Trusted boundary: none
Main exports: Plan, Cursor, Cursor.next, Cursor.rows, RowsEnd, Answer, Plan.answer, Fetched,
  readRows, Fetches, Fetches.readRows_eq
-/
import Mathlib.Tactic.Common

namespace Foundation

/-! ## Queries -/

/-- What an execution does next. -/
inductive Advance (Row Execution Failure : Type) where
  | row (row : Row) (rest : Execution)
  | done
  | failed (failure : Failure)

/-- How a compiled query runs: it starts with what its parameters are bound to, and goes on in
whatever world each of its steps finds. -/
structure Plan (World Slot Row Execution Failure : Type) where
  start : World → List Slot → Execution
  advance : World → Execution → Advance Row Execution Failure

/-- Where a cursor stands. -/
inductive Position (Row Execution Failure : Type) where
  | ready
  | row (row : Row) (rest : Execution)
  | done
  | failed (failure : Failure)

def Advance.position {Row Execution Failure : Type} :
    Advance Row Execution Failure → Position Row Execution Failure
  | .row current rest => .row current rest
  | .done => .done
  | .failed failure => .failed failure

/-- A cursor steps when it is reset or on a row. -/
def Position.CanStep {Row Execution Failure : Type} : Position Row Execution Failure → Prop
  | .ready | .row _ _ => True
  | .done | .failed _ => False

structure Cursor (Slot Row Execution Failure : Type) where
  bound : List Slot
  position : Position Row Execution Failure

variable {World Slot Row Execution Failure : Type}

namespace Cursor

variable (plan : Plan World Slot Row Execution Failure)
  (cursor : Cursor Slot Row Execution Failure)

def reset : Cursor Slot Row Execution Failure :=
  { cursor with position := .ready }

def bind (place : Nat) (slot : Slot) : Cursor Slot Row Execution Failure :=
  { cursor with bound := cursor.bound.set place slot }

/-- What the next step finds.  The first one starts the query. -/
def next (world : World) : Advance Row Execution Failure :=
  match cursor.position with
  | .ready => plan.advance world (plan.start world cursor.bound)
  | .row _ rest => plan.advance world rest
  | .done => .done
  | .failed failure => .failed failure

def step (world : World) : Cursor Slot Row Execution Failure :=
  { cursor with position := (cursor.next plan world).position }

variable {cursor}

theorem next_of_canStep (canStep : cursor.position.CanStep) (world : World) :
    ∃ execution, cursor.next plan world = plan.advance world execution := by
  unfold next
  cases stands : cursor.position with
  | ready => exact ⟨_, rfl⟩
  | row _ rest => exact ⟨rest, rfl⟩
  | done | failed => rw [stands] at canStep; exact canStep.elim

end Cursor

/-! ## Reading to the end -/

/-- How reading ends.  A query that was given too few steps is still open. -/
inductive RowsEnd (Failure : Type) where
  | isOpen
  | done
  | failed (failure : Failure)
deriving Repr, DecidableEq

def RowsEnd.map {Other : Type} (report : Failure → Other) : RowsEnd Failure → RowsEnd Other
  | .isOpen => .isOpen
  | .done => .done
  | .failed failure => .failed (report failure)

/-- The rows that a cursor yields from here on when it is stepped once in each world. -/
def Cursor.rows (plan : Plan World Slot Row Execution Failure) :
    List World → Cursor Slot Row Execution Failure → List Row × RowsEnd Failure
  | [], _ => ([], .isOpen)
  | world :: later, cursor =>
      match cursor.next plan world with
      | .row row rest =>
          let (rows, ending) := Cursor.rows plan later { cursor with position := .row row rest }
          (row :: rows, ending)
      | .done => ([], .done)
      | .failed failure => ([], .failed failure)

/-- What becomes of a query with parameters. -/
inductive Answer (Row Failure : Type) where
  | refused (failure : Failure)
  | answered (rows : List Row) (ending : RowsEnd Failure)
deriving Repr, DecidableEq

def Answer.map {OtherRow Other : Type} (form : Row → OtherRow) (report : Failure → Other) :
    Answer Row Failure → Answer OtherRow Other
  | .refused failure => .refused (report failure)
  | .answered rows ending => .answered (rows.map form) (ending.map report)

/-- The meaning of a query: the first parameter that is refused ends it, and otherwise it
yields its rows. -/
def Plan.answer (plan : Plan World Slot Row Execution Failure)
    (refusal : Slot → Option Failure) (parameters : List Slot) (worlds : List World) :
    Answer Row Failure :=
  match parameters.findSome? refusal with
  | some failure => .refused failure
  | none =>
      let (rows, ending) := Cursor.rows plan worlds { bound := parameters, position := .ready }
      .answered rows ending

/-! ## Interfaces -/

/-- What one round of a reading loop finds. -/
inductive Fetched (Row Failure : Type) where
  | row (row : Row)
  | done
  | failed (failure : Failure)

variable {State OtherRow Other : Type}

/-- A loop that fetches rows until there are none left, once in each world at most. -/
def readRows (fetch : World → State → Fetched OtherRow Other × State) :
    List World → State → List OtherRow × RowsEnd Other
  | [], _ => ([], .isOpen)
  | world :: later, state =>
      match fetch world state with
      | (.row row, state) =>
          let (rows, ending) := readRows fetch later state
          (row :: rows, ending)
      | (.done, _) => ([], .done)
      | (.failed failure, _) => ([], .failed failure)

/-- What a round finds is what the step of a cursor finds, in the words of the interface, and
on a row the interface stands where the cursor does. -/
def Fetched.Matches (form : Row → OtherRow) (report : Failure → Other)
    (stands : State → Cursor Slot Row Execution Failure → Prop)
    (cursor : Cursor Slot Row Execution Failure) (after : Fetched OtherRow Other × State) :
    Advance Row Execution Failure → Prop
  | .row current rest =>
      after.1 = .row (form current) ∧
        stands after.2 { cursor with position := .row current rest }
  | .done => after.1 = .done
  | .failed failure => after.1 = .failed (report failure)

/-- An interface that fetches what a cursor yields. -/
structure Fetches (plan : Plan World Slot Row Execution Failure)
    (fetch : World → State → Fetched OtherRow Other × State) (form : Row → OtherRow)
    (report : Failure → Other)
    (stands : State → Cursor Slot Row Execution Failure → Prop) : Prop where
  finds : ∀ {world state cursor}, stands state cursor → cursor.position.CanStep →
    Fetched.Matches form report stands cursor (fetch world state) (cursor.next plan world)

/-- Reading through the interface gives the rows of the cursor and ends as they end. -/
theorem Fetches.readRows_eq {plan : Plan World Slot Row Execution Failure}
    {fetch : World → State → Fetched OtherRow Other × State} {form : Row → OtherRow}
    {report : Failure → Other} {stands : State → Cursor Slot Row Execution Failure → Prop}
    (fetches : Fetches plan fetch form report stands) (worlds : List World) {state : State}
    {cursor : Cursor Slot Row Execution Failure} (start : stands state cursor)
    (canStep : cursor.position.CanStep) :
    readRows fetch worlds state =
      ((Cursor.rows plan worlds cursor).1.map form,
        (Cursor.rows plan worlds cursor).2.map report) := by
  induction worlds generalizing state cursor with
  | nil => rfl
  | cons world later inductionHypothesis =>
      have found : Fetched.Matches form report stands cursor (fetch world state)
          (cursor.next plan world) := fetches.finds start canStep
      unfold readRows Cursor.rows
      rcases fetched : fetch world state with ⟨result, after⟩
      rw [fetched] at found
      cases advance : cursor.next plan world with
      | row row rest =>
          rw [advance] at found
          obtain ⟨rfl, standsAfter⟩ := found
          simp only [inductionHypothesis standsAfter trivial, List.map_cons]
      | done =>
          rw [advance] at found
          obtain rfl : result = .done := found
          rfl
      | failed failure =>
          rw [advance] at found
          obtain rfl : result = .failed (report failure) := found
          rfl

end Foundation
