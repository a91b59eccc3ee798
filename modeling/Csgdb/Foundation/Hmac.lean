/-
Module: Csgdb.Foundation.Hmac
Purpose: Hash functions that absorb a message piece by piece, and the keyed-hash
  construction HMAC over one of them.
Trusted boundary: none
Main exports: HashPrimitive, IncrementalHash, IncrementalHash.Reliable, hmac
-/
import Mathlib.Tactic.Common

namespace Foundation

/-- The calls of an incremental hash.  Each reports success and leaves a context;
the last one also returns the bytes that it writes. -/
structure HashPrimitive (Context : Type) where
  init : Context → Bool × Context
  update : Context → List UInt8 → Bool × Context
  final : Context → Bool × Context × List UInt8

/-- The calls compute a hash of everything that was absorbed since `init`, however it
was cut into pieces. -/
structure IncrementalHash {Context : Type} (primitive : HashPrimitive Context)
    (digestSize : Nat) where
  hash : List UInt8 → List UInt8
  /-- The context has absorbed exactly this message. -/
  absorbed : Context → List UInt8 → Prop
  init_absorbed : ∀ context, (primitive.init context).1 = true →
    absorbed (primitive.init context).2 []
  update_absorbed : ∀ context message piece, absorbed context message →
    (primitive.update context piece).1 = true →
      absorbed (primitive.update context piece).2 (message ++ piece)
  final_hash : ∀ context message, absorbed context message →
    (primitive.final context).1 = true → (primitive.final context).2.2 = hash message
  hash_length : ∀ message, (hash message).length = digestSize
  /-- A final call that succeeds writes a digest, on whatever context. -/
  final_length : ∀ context, (primitive.final context).1 = true →
    (primitive.final context).2.2.length = digestSize
  /-- One that fails writes no more than that. -/
  final_bounded : ∀ context, (primitive.final context).2.2.length ≤ digestSize

/-- No call on a context in use reports a failure. -/
structure IncrementalHash.Reliable {Context : Type} {primitive : HashPrimitive Context}
    {digestSize : Nat} (digest : IncrementalHash primitive digestSize) : Prop where
  init_ok : ∀ context, (primitive.init context).1 = true
  update_ok : ∀ context message piece, digest.absorbed context message →
    (primitive.update context piece).1 = true
  final_ok : ∀ context message, digest.absorbed context message →
    (primitive.final context).1 = true

/-- The primitive that keeps the whole message and hashes it at the end. -/
def HashPrimitive.ofHash (hash : List UInt8 → List UInt8) : HashPrimitive (List UInt8) where
  init := fun _ => (true, [])
  update := fun message piece => (true, message ++ piece)
  final := fun message => (true, message, hash message)

def IncrementalHash.ofHash (hash : List UInt8 → List UInt8) (digestSize : Nat)
    (length_eq : ∀ message, (hash message).length = digestSize) :
    IncrementalHash (HashPrimitive.ofHash hash) digestSize where
  hash := hash
  absorbed := fun context message => context = message
  init_absorbed := fun _ _ => rfl
  update_absorbed := fun _ _ _ same _ => by rw [← same]; rfl
  final_hash := fun _ _ same _ => by rw [← same]; rfl
  hash_length := length_eq
  final_length := fun context _ => length_eq context
  final_bounded := fun context => Nat.le_of_eq (length_eq context)

theorem IncrementalHash.reliable_ofHash (hash : List UInt8 → List UInt8) (digestSize : Nat)
    (length_eq : ∀ message, (hash message).length = digestSize) :
    (IncrementalHash.ofHash hash digestSize length_eq).Reliable :=
  ⟨fun _ => rfl, fun _ _ _ _ => rfl, fun _ _ _ => rfl⟩

/-! ## HMAC -/

section Hmac

variable (hash : List UInt8 → List UInt8) (blockSize : Nat) (key : List UInt8)

/-- The key, or its hash when it is longer than a block. -/
def hmacShortKey : List UInt8 :=
  if blockSize < key.length then hash key else key

/-- The key as one block, padded with zeros. -/
def hmacBlockKey : List UInt8 :=
  hmacShortKey hash blockSize key ++
    List.replicate (blockSize - (hmacShortKey hash blockSize key).length) 0

/-- The block of the key, each byte combined with a pad byte. -/
def hmacPad (byte : UInt8) : List UInt8 :=
  (hmacBlockKey hash blockSize key).map fun keyByte => keyByte ^^^ byte

/-- `H(K XOR opad, H(K XOR ipad, text))`. -/
def hmac (message : List UInt8) : List UInt8 :=
  hash (hmacPad hash blockSize key 0x5c ++ hash (hmacPad hash blockSize key 0x36 ++ message))

end Hmac

/-- Combining the start of a block of pad bytes with the key gives the pad of the key. -/
theorem zipWith_xor_eq_hmacPad {hash : List UInt8 → List UInt8} {blockSize : Nat}
    {key : List UInt8} (byte : UInt8) :
    List.zipWith (fun padByte keyByte => padByte ^^^ keyByte)
        (List.replicate (hmacShortKey hash blockSize key).length byte)
        (hmacShortKey hash blockSize key) ++
      List.replicate (blockSize - (hmacShortKey hash blockSize key).length) byte =
      hmacPad hash blockSize key byte := by
  have combined : ∀ bytes : List UInt8,
      List.zipWith (fun padByte keyByte => padByte ^^^ keyByte)
        (List.replicate bytes.length byte) bytes =
          bytes.map fun keyByte => keyByte ^^^ byte := by
    intro bytes
    induction bytes with
    | nil => rfl
    | cons head rest inductionHypothesis =>
        rw [List.length_cons, List.replicate_succ, List.zipWith_cons_cons,
          inductionHypothesis, List.map_cons, UInt8.xor_comm]
  unfold hmacPad hmacBlockKey
  rw [combined, List.map_append, List.map_replicate, UInt8.zero_xor]

theorem length_hmacPad {hash : List UInt8 → List UInt8} {blockSize : Nat} {key : List UInt8}
    (fits : (hmacShortKey hash blockSize key).length ≤ blockSize) (byte : UInt8) :
    (hmacPad hash blockSize key byte).length = blockSize := by
  unfold hmacPad hmacBlockKey
  rw [List.length_map, List.length_append, List.length_replicate]
  omega

end Foundation
