/-
Module: Csgdb.Ffi.Lifetime
Purpose: The shared ownership of one engine connection by its handle and its statements:
  preparations, uses, finalizations and the close, interleaved step by step.
Trusted boundary: the count of the shared owners is decremented atomically, and the owner
  that finds itself the last one drops the connection; a handle is not used once its close
  has begun, nor a statement once its finalization has.
Main exports: HandlePhase, StatementPhase, OwnerEvent, Owners, OwnerStep, Owners.Reachable
-/
import Mathlib.Tactic.Common

namespace Csgdb.Ffi

/-- How far the close of a handle has come.  `keeping` is a handle that could not take the
connection out of its share, `unwrapped` one that did; `dropping` has dropped the last
share. -/
inductive HandlePhase where
  | live
  | keeping
  | unwrapped
  | dropping
  | released
deriving Repr, DecidableEq

/-- How far a statement has come.  `preparing` has no share of the connection yet,
`finalized` still has one; `dropping` has dropped the last share. -/
inductive StatementPhase where
  | preparing
  | live
  | finalized
  | dropping
  | released
deriving Repr, DecidableEq

/-- What happens to the engine: a statement is prepared, used or finalized, or the
connection is closed. -/
inductive OwnerEvent where
  | prepared (number : Nat)
  | used (number : Nat)
  | finalized (number : Nat)
  | closed
deriving Repr, DecidableEq

/-- The owners of one connection with the count of their shares, and the engine events,
the newest first. -/
structure Owners where
  strong : Nat
  handle : HandlePhase
  statements : List StatementPhase
  events : List OwnerEvent
deriving Repr, DecidableEq

/-- A connection that was just opened. -/
def Owners.opened : Owners where
  strong := 1
  handle := .live
  statements := []
  events := []

namespace Owners

variable (owners : Owners)

def setStatement (number : Nat) (phase : StatementPhase) : Owners :=
  { owners with statements := owners.statements.set number phase }

def record (event : OwnerEvent) : Owners :=
  { owners with events := event :: owners.events }

/-- A statement drops its share; the last share takes the connection with it. -/
def dropStatement (number : Nat) : Owners :=
  { owners.setStatement number (if owners.strong = 1 then .dropping else .released) with
    strong := owners.strong - 1 }

/-- `try_unwrap` takes the connection out of the last share. -/
def tryUnwrap : Owners :=
  if owners.strong = 1 then { owners with handle := .unwrapped, strong := 0 }
  else { owners with handle := .keeping }

/-- The handle drops a share that it could not unwrap. -/
def dropHandle : Owners :=
  { owners with
    handle := if owners.strong = 1 then .dropping else .released
    strong := owners.strong - 1 }

end Owners

/-- One step of one owner.  Any owner may take the next step. -/
inductive OwnerStep : Owners → Owners → Prop
  /-- The engine compiles a statement. -/
  | prepare {owners : Owners} (live : owners.handle = .live) :
      OwnerStep owners
        ({ owners with statements := owners.statements ++ [StatementPhase.preparing] }.record
          (.prepared owners.statements.length))
  /-- A preparation that failed finalizes the statement that the engine left. -/
  | discard {owners : Owners} {number : Nat}
      (place : owners.statements[number]? = some .preparing) :
      OwnerStep owners ((owners.setStatement number .released).record (.finalized number))
  /-- The new statement handle takes a share. -/
  | share {owners : Owners} {number : Nat}
      (place : owners.statements[number]? = some .preparing) :
      OwnerStep owners { owners.setStatement number .live with strong := owners.strong + 1 }
  | use {owners : Owners} {number : Nat}
      (place : owners.statements[number]? = some .live) :
      OwnerStep owners (owners.record (.used number))
  /-- `csgdb_finalize` finalizes the raw statement first. -/
  | finalize {owners : Owners} {number : Nat}
      (place : owners.statements[number]? = some .live) :
      OwnerStep owners ((owners.setStatement number .finalized).record (.finalized number))
  /-- It then drops the statement handle, whose raw statement is null by now. -/
  | dropStatement {owners : Owners} {number : Nat}
      (place : owners.statements[number]? = some .finalized) :
      OwnerStep owners (owners.dropStatement number)
  | closeByStatement {owners : Owners} {number : Nat}
      (place : owners.statements[number]? = some .dropping) :
      OwnerStep owners ((owners.setStatement number .released).record .closed)
  /-- `csgdb_close` begins when no preparation is under way. -/
  | tryUnwrap {owners : Owners} (live : owners.handle = .live)
      (settled : StatementPhase.preparing ∉ owners.statements) :
      OwnerStep owners owners.tryUnwrap
  | dropHandle {owners : Owners} (keeping : owners.handle = .keeping) :
      OwnerStep owners owners.dropHandle
  | closeByHandle {owners : Owners}
      (last : owners.handle = .unwrapped ∨ owners.handle = .dropping) :
      OwnerStep owners ({ owners with handle := .released }.record .closed)

/-- What steps of the owners of an opened connection reach. -/
inductive Owners.Reachable : Owners → Prop
  | opened : Reachable .opened
  | step {owners next : Owners} (reached : Reachable owners) (moves : OwnerStep owners next) :
      Reachable next

end Csgdb.Ffi
