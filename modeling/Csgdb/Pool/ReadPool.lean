/-
Module: Csgdb.Pool.ReadPool
Purpose: The pooled readers, their leases, and the guard that keeps a thread from
  reading one pool twice at a time.
Trusted boundary: a connection is a number; what is read through it is not modelled.
Main exports: ReadPool, ReadPool.checkout, ReadPool.rejected, ReadPool.release,
  ReadCallbackGuard.enter, ReadCallbackGuard.drop
-/
import Csgdb.Core.Basic
import Mathlib.Data.List.Basic

namespace Csgdb.Pool

/-! ## Leases -/

/-- The free connections, the one that is taken next first, and two counters. -/
structure ReadPool where
  connections : List Nat
  active : Nat
  rejectedCheckouts : Nat
deriving Repr, DecidableEq

def readPoolExhausted : Error :=
  { code := .readPoolExhausted
    message := "all read connections are currently checked out" }

/-- A lease, when a connection is free. -/
def ReadPool.checkout (readers : ReadPool) : Option (Nat × ReadPool) :=
  match readers.connections with
  | [] => none
  | connection :: rest =>
      some (connection,
        { readers with connections := rest, active := readers.active + 1 })

/-- The counter of a `try_checkout` that found no connection. -/
def ReadPool.rejected (readers : ReadPool) : ReadPool :=
  { readers with rejectedCheckouts := readers.rejectedCheckouts + 1 }

/-- The end of a lease; a sleeping reader is notified with it. -/
def ReadPool.release (connection : Nat) (readers : ReadPool) : ReadPool :=
  { readers with
    connections := connection :: readers.connections, active := readers.active - 1 }

theorem ReadPool.checkout_some {readers after : ReadPool} {connection : Nat}
    (taken : readers.checkout = some (connection, after)) :
    readers.connections = connection :: after.connections := by
  unfold ReadPool.checkout at taken
  split at taken
  · cases taken
  · next first rest free =>
      obtain ⟨rfl, rfl⟩ := Prod.mk.inj (Option.some.inj taken)
      exact free

theorem ReadPool.checkout_active {readers after : ReadPool} {connection : Nat}
    (taken : readers.checkout = some (connection, after)) :
    after.active = readers.active + 1 := by
  unfold ReadPool.checkout at taken
  split at taken
  · cases taken
  · obtain ⟨-, rfl⟩ := Prod.mk.inj (Option.some.inj taken)
    rfl

theorem ReadPool.checkout_none {readers : ReadPool} (empty : readers.checkout = none) :
    readers.connections = [] := by
  unfold ReadPool.checkout at empty
  split at empty
  · next free => exact free
  · cases empty

/-! ## The pools that a thread is reading -/

def reentrantRead : Error :=
  { code := .reentrantRead
    message := "a read callback cannot synchronously check out from the same pool" }

namespace ReadCallbackGuard

def enter (pool : Nat) (pools : List Nat) : Result (List Nat) :=
  if pool ∈ pools then .error reentrantRead else .ok (pools ++ [pool])

/-- Dropping the guard removes the last entry of the pool. -/
def drop (pool : Nat) (pools : List Nat) : List Nat :=
  (pools.reverse.erase pool).reverse

theorem enter_ok {pool : Nat} {pools entered : List Nat}
    (ok : enter pool pools = .ok entered) : pool ∉ pools ∧ entered = pools ++ [pool] := by
  unfold enter at ok
  split at ok
  · cases ok
  · next fresh => exact ⟨fresh, (Except.ok.inj ok).symm⟩

/-- A dropped guard leaves the list as it was when the guard was entered. -/
theorem drop_append (pool : Nat) (pools : List Nat) : drop pool (pools ++ [pool]) = pools := by
  simp [drop]

end ReadCallbackGuard

end Csgdb.Pool
