/-
Module: Csgdb.Foundation.Buffer
Purpose: Byte buffers with checked accesses.  A read or a write outside a buffer is a
  fault, and so is a read of a byte that nobody wrote.
Trusted boundary: none
Main exports: Fault, Buffer, Buffer.read, Buffer.write, Buffer.fill, Buffer.store,
  Buffer.load, Buffer.StartsWith
-/
import Csgdb.Foundation.Fallible

namespace Foundation

/-- How an access can go wrong. -/
inductive Fault where
  | outOfBounds
  | uninitialized
deriving Repr, DecidableEq

/-- A buffer of fixed size; a byte that was not written is absent. -/
structure Buffer where
  bytes : List (Option UInt8)
deriving Repr, DecidableEq

namespace Buffer

def uninitialized (size : Nat) : Buffer where
  bytes := List.replicate size none

def ofBytes (bytes : List UInt8) : Buffer where
  bytes := bytes.map some

def size (buffer : Buffer) : Nat :=
  buffer.bytes.length

def read (buffer : Buffer) (index : Nat) : Except Fault UInt8 :=
  match buffer.bytes[index]? with
  | none => .error .outOfBounds
  | some none => .error .uninitialized
  | some (some byte) => .ok byte

def write (buffer : Buffer) (index : Nat) (byte : UInt8) : Except Fault Buffer :=
  if index < buffer.size then .ok { bytes := buffer.bytes.set index (some byte) }
  else .error .outOfBounds

/-- `memset` of the first `count` bytes. -/
def fill (buffer : Buffer) (byte : UInt8) (count : Nat) : Except Fault Buffer :=
  if count ≤ buffer.size then
    .ok { bytes := List.replicate count (some byte) ++ buffer.bytes.drop count }
  else
    .error .outOfBounds

/-- Writes bytes to the start of a buffer. -/
def store (buffer : Buffer) (bytes : List UInt8) : Except Fault Buffer :=
  if bytes.length ≤ buffer.size then
    .ok { bytes := bytes.map some ++ buffer.bytes.drop bytes.length }
  else
    .error .outOfBounds

/-- Reads `count` bytes from an index on. -/
def loadFrom (buffer : Buffer) : Nat → Nat → Except Fault (List UInt8)
  | _, 0 => .ok []
  | index, count + 1 => do
      let byte ← buffer.read index
      let rest ← buffer.loadFrom (index + 1) count
      .ok (byte :: rest)

/-- Reads the first `count` bytes. -/
def load (buffer : Buffer) (count : Nat) : Except Fault (List UInt8) :=
  buffer.loadFrom 0 count

/-! ## Buffers that start with given bytes -/

/-- The buffer begins with these bytes, all of them written. -/
def StartsWith (buffer : Buffer) (bytes : List UInt8) : Prop :=
  ∃ rest, buffer.bytes = bytes.map some ++ rest

theorem startsWith_ofBytes (bytes : List UInt8) : (ofBytes bytes).StartsWith bytes :=
  ⟨[], (List.append_nil _).symm⟩

theorem read_at {before rest : List (Option UInt8)} {byte : UInt8} :
    read { bytes := before ++ some byte :: rest } before.length = .ok byte := by
  simp [read]

theorem write_at {before rest : List (Option UInt8)} {old : Option UInt8} (byte : UInt8) :
    write { bytes := before ++ old :: rest } before.length byte =
      .ok { bytes := before ++ some byte :: rest } := by
  simp [write, size]

theorem loadFrom_eq {before rest : List (Option UInt8)} {bytes : List UInt8} :
    loadFrom { bytes := before ++ (bytes.map some ++ rest) } before.length bytes.length =
      .ok bytes := by
  induction bytes generalizing before with
  | nil => rfl
  | cons byte bytes inductionHypothesis =>
      have here := @read_at before (bytes.map some ++ rest) byte
      have later := @inductionHypothesis (before ++ [some byte])
      simp only [List.length_append, List.length_singleton, List.append_assoc,
        List.cons_append, List.nil_append] at later
      simp only [List.map_cons, List.cons_append, List.length_cons, loadFrom, here, ok_bind,
        later]

/-- The bytes a buffer starts with are read without fault. -/
theorem StartsWith.load {buffer : Buffer} {bytes : List UInt8}
    (starts : buffer.StartsWith bytes) : buffer.load bytes.length = .ok bytes := by
  obtain ⟨rest, same⟩ := starts
  obtain ⟨all⟩ := buffer
  obtain rfl := same
  exact @loadFrom_eq [] rest bytes

theorem store_of_le {buffer : Buffer} {bytes : List UInt8}
    (fits : bytes.length ≤ buffer.size) :
    buffer.store bytes =
      .ok { bytes := bytes.map some ++ buffer.bytes.drop bytes.length } := by
  unfold store
  rw [if_pos fits]

theorem fill_uninitialized {byte : UInt8} {count total : Nat} (fits : count ≤ total) :
    (uninitialized total).fill byte count =
      .ok { bytes := (List.replicate count byte).map some ++
        List.replicate (total - count) none } := by
  unfold fill uninitialized size
  simp [fits]

end Buffer

end Foundation
