/-
Module: Csgdb.Crypto.ProviderCache
Purpose: The message authentication calls that replace the provider of the page
  codec: initialization with a key, updates and the final call, on one context.
Trusted boundary: the SHA primitives belong to the crypto library and are parameters;
  every buffer access is checked.
Main exports: ShaLibrary, HmacContext, evpMacInit, evpMacUpdate, evpMacFinal, Call,
  runCalls
-/
import Csgdb.Foundation.Buffer
import Csgdb.Foundation.Hmac

namespace Csgdb.Crypto

open Foundation

def shaDigestLength : Nat := 20
def sha256DigestLength : Nat := 32
def sha512DigestLength : Nat := 64
def sha256Cblock : Nat := 64
def sha512Cblock : Nat := 128

/-- The supported digests.  Where the source has the number zero, there is none. -/
inductive HmacAlgorithm where
  | sha1
  | sha256
  | sha512
deriving Repr, DecidableEq

variable {Context : Type}

/-- The SHA primitives on the union of their contexts. -/
structure ShaLibrary (Context : Type) where
  sha1 : HashPrimitive Context
  sha256 : HashPrimitive Context
  sha512 : HashPrimitive Context
  /-- What `OPENSSL_cleanse` and `OPENSSL_zalloc` leave behind. -/
  cleansed : Context

def ShaLibrary.primitive (library : ShaLibrary Context) :
    HmacAlgorithm → HashPrimitive Context
  | .sha1 => library.sha1
  | .sha256 => library.sha256
  | .sha512 => library.sha512

structure HmacContext (Context : Type) where
  algorithm : Option HmacAlgorithm
  inner : Context
  outer : Context
deriving Repr, DecidableEq

/-! ## Parameters -/

/-- One `OSSL_PARAM` in front of the end of the array. -/
structure OsslParam where
  key : List UInt8
  data : Option (List UInt8)
deriving Repr, DecidableEq

/-- The bytes of an ASCII literal. -/
def asciiBytes (text : String) : List UInt8 :=
  text.toList.map fun char => UInt8.ofNat char.toNat

/-- The loop of `csgdb_ascii_equal`. -/
def asciiEqualFrom : List UInt8 → List UInt8 → Bool
  | character :: left, expected :: right =>
      let character := if 65 ≤ character && character ≤ 90 then character + 32 else character
      if character != expected then false else asciiEqualFrom left right
  | _, _ => true

def asciiEqual (value : Option (List UInt8)) (expected : String) : Bool :=
  match value with
  | none => false
  | some left =>
      if left.length != (asciiBytes expected).length then false
      else asciiEqualFrom left (asciiBytes expected)

/-- The loop of `csgdb_hmac_algorithm`: the first digest parameter decides. -/
def hmacAlgorithmOf : List OsslParam → Option HmacAlgorithm
  | [] => none
  | parameter :: rest =>
      if parameter.key = asciiBytes "digest" then
        if asciiEqual parameter.data "sha1" then some .sha1
        else if asciiEqual parameter.data "sha256" then some .sha256
        else if asciiEqual parameter.data "sha512" then some .sha512
        else none
      else
        hmacAlgorithmOf rest

/-- The digest that a parameter array selects; the array may be `NULL`. -/
def hmacAlgorithm : Option (List OsslParam) → Option HmacAlgorithm
  | none => none
  | some parameters => hmacAlgorithmOf parameters

def hmacBlockSize (algorithm : Option HmacAlgorithm) : Nat :=
  if algorithm = some .sha512 then sha512Cblock else sha256Cblock

def hmacOutputSize : Option HmacAlgorithm → Nat
  | some .sha1 => shaDigestLength
  | some .sha256 => sha256DigestLength
  | some .sha512 => sha512DigestLength
  | none => 0

/-! ## Digest calls -/

section Digest

variable (library : ShaLibrary Context)

def digestInit (algorithm : Option HmacAlgorithm) (context : Context) : Bool × Context :=
  match algorithm with
  | none => (false, context)
  | some algorithm => (library.primitive algorithm).init context

/-- Reads `inputSize` bytes of the input. -/
def digestUpdate (algorithm : Option HmacAlgorithm) (context : Context) (input : Buffer)
    (inputSize : Nat) : Except Fault (Bool × Context) :=
  match algorithm with
  | none => .ok (false, context)
  | some algorithm => do
      let piece ← input.load inputSize
      .ok ((library.primitive algorithm).update context piece)

/-- Writes the digest to the start of the output. -/
def digestFinal (algorithm : Option HmacAlgorithm) (context : Context) (output : Buffer) :
    Except Fault (Bool × Context × Buffer) :=
  match algorithm with
  | none => .ok (false, context, output)
  | some algorithm => do
      let (finished, context, digest) := (library.primitive algorithm).final context
      let output ← output.store digest
      .ok (finished, context, output)

/-! ## Initialization -/

/-- The digest of a long key, computed in a local context. -/
def digestKey (algorithm : Option HmacAlgorithm) (keyContext : Context) (key : Buffer)
    (keySize : Nat) (keyDigest : Buffer) : Except Fault (Bool × Buffer) := do
  let (started, keyContext) := digestInit library algorithm keyContext
  if !started then
    .ok (false, keyDigest)
  else
    let (updated, keyContext) ← digestUpdate library algorithm keyContext key keySize
    if !updated then
      .ok (false, keyDigest)
    else
      let (finished, _, keyDigest) ← digestFinal library algorithm keyContext keyDigest
      .ok (finished, keyDigest)

/-- The loop that combines both pads with the key, `remaining` turns from an index
on. -/
def combineKey (effectiveKey : Buffer) :
    Nat → Nat → Buffer → Buffer → Except Fault (Buffer × Buffer)
  | 0, _, innerPad, outerPad => .ok (innerPad, outerPad)
  | remaining + 1, index, innerPad, outerPad => do
      let innerByte ← innerPad.read index
      let keyByte ← effectiveKey.read index
      let innerPad ← innerPad.write index (innerByte ^^^ keyByte)
      let outerByte ← outerPad.read index
      let keyByte ← effectiveKey.read index
      let outerPad ← outerPad.write index (outerByte ^^^ keyByte)
      combineKey effectiveKey remaining (index + 1) innerPad outerPad

/-- Starts a digest with one block. -/
def absorbPad (algorithm : Option HmacAlgorithm) (context : Context) (pad : Buffer)
    (blockSize : Nat) : Except Fault (Bool × Context) :=
  let (started, context) := digestInit library algorithm context
  if !started then .ok (false, context)
  else digestUpdate library algorithm context pad blockSize

/-- Both pads, filled, combined with the key and absorbed by their contexts. -/
def absorbKey (context : HmacContext Context) (effectiveKey : Buffer)
    (effectiveKeySize blockSize : Nat) : Except Fault (Bool × HmacContext Context) := do
  let innerPad ← (Buffer.uninitialized sha512Cblock).fill 0x36 blockSize
  let outerPad ← (Buffer.uninitialized sha512Cblock).fill 0x5c blockSize
  let (innerPad, outerPad) ← combineKey effectiveKey effectiveKeySize 0 innerPad outerPad
  let (innerOk, inner) ← absorbPad library context.algorithm context.inner innerPad blockSize
  let context := { context with inner := inner }
  if !innerOk then
    .ok (false, context)
  else
    let (outerOk, outer) ←
      absorbPad library context.algorithm context.outer outerPad blockSize
    .ok (outerOk, { context with outer := outer })

/-- `_csgdb_internal_evp_mac_init`.  The local context of a long key starts with
whatever the stack holds. -/
def evpMacInit (stack : Context) (rawContext : Option (HmacContext Context))
    (key : Option (List UInt8)) (parameters : Option (List OsslParam)) :
    Except Fault (Bool × Option (HmacContext Context)) :=
  match rawContext, key with
  | none, _ => .ok (false, none)
  | some context, none => .ok (false, some context)
  | some _, some key => do
      let context : HmacContext Context :=
        { algorithm := hmacAlgorithm parameters, inner := library.cleansed,
          outer := library.cleansed }
      let blockSize := hmacBlockSize context.algorithm
      if context.algorithm = none || blockSize > sha512Cblock then
        .ok (false, some context)
      else if key.length > blockSize then
        let (digested, keyDigest) ← digestKey library context.algorithm stack
          (Buffer.ofBytes key) key.length (Buffer.uninitialized sha512DigestLength)
        if !digested then
          .ok (false, some context)
        else
          let (result, context) ← absorbKey library context keyDigest
            (hmacOutputSize context.algorithm) blockSize
          .ok (result, some context)
      else
        let (result, context) ← absorbKey library context (Buffer.ofBytes key) key.length
          blockSize
        .ok (result, some context)

/-! ## Updates and the final call -/

/-- A pointer with its length. -/
inductive Input where
  | null (size : Nat)
  | bytes (data : List UInt8)
deriving Repr, DecidableEq

def evpMacUpdate (rawContext : Option (HmacContext Context)) (input : Input) :
    Except Fault (Bool × Option (HmacContext Context)) :=
  match rawContext with
  | none => .ok (false, none)
  | some context =>
      match input with
      | .null (_ + 1) => .ok (false, some context)
      | .null 0 => do
          let (updated, inner) ← digestUpdate library context.algorithm context.inner
            (Buffer.ofBytes []) 0
          .ok (updated, some { context with inner := inner })
      | .bytes data => do
          let (updated, inner) ← digestUpdate library context.algorithm context.inner
            (Buffer.ofBytes data) data.length
          .ok (updated, some { context with inner := inner })

/-- What a call returns, and what it leaves in the caller's variables. -/
structure Reply where
  result : Bool
  outputSize : Option Nat
  output : Option Buffer
deriving Repr, DecidableEq

/-- `_csgdb_internal_evp_mac_final`.  The pointer to the size may be `NULL`; the
capacity is the size of the output. -/
def evpMacFinal (rawContext : Option (HmacContext Context)) (sizePointer : Bool)
    (output : Option Buffer) : Except Fault (Reply × Option (HmacContext Context)) :=
  match rawContext with
  | none => .ok ({ result := false, outputSize := none, output := output }, none)
  | some context =>
      let digestSize := hmacOutputSize context.algorithm
      if !sizePointer || digestSize == 0 then
        .ok ({ result := false, outputSize := none, output := output }, some context)
      else
        match output with
        | none =>
            .ok ({ result := true, outputSize := some digestSize, output := none },
              some context)
        | some buffer =>
            let failed : Reply :=
              { result := false, outputSize := some digestSize, output := some buffer }
            if buffer.size < digestSize then
              .ok (failed, some context)
            else do
              let (finished, inner, innerDigest) ← digestFinal library context.algorithm
                context.inner (Buffer.uninitialized sha512DigestLength)
              let context := { context with inner := inner }
              if !finished then
                .ok (failed, some context)
              else
                let (updated, outer) ← digestUpdate library context.algorithm context.outer
                  innerDigest digestSize
                let context := { context with outer := outer }
                if !updated then
                  .ok (failed, some context)
                else
                  let (written, outer, buffer) ← digestFinal library context.algorithm
                    context.outer buffer
                  .ok
                    ({ result := written, outputSize := some digestSize,
                       output := some buffer },
                      some { context with outer := outer })

/-! ## Runs -/

/-- `_csgdb_internal_evp_mac_ctx_new`, when the allocation succeeds. -/
def evpMacCtxNew : HmacContext Context where
  algorithm := none
  inner := library.cleansed
  outer := library.cleansed

/-- One operation on a context. -/
inductive Call (Context : Type) where
  | init (stack : Context) (key : Option (List UInt8))
      (parameters : Option (List OsslParam))
  | update (input : Input)
  | final (sizePointer : Bool) (output : Option Buffer)

def Call.run (call : Call Context) (rawContext : Option (HmacContext Context)) :
    Except Fault (Reply × Option (HmacContext Context)) :=
  match call with
  | .init stack key parameters => do
      let (result, next) ← evpMacInit library stack rawContext key parameters
      .ok ({ result := result, outputSize := none, output := none }, next)
  | .update input => do
      let (result, next) ← evpMacUpdate library rawContext input
      .ok ({ result := result, outputSize := none, output := none }, next)
  | .final sizePointer output => evpMacFinal library rawContext sizePointer output

/-- Any sequence of operations, with their replies. -/
def runCalls : List (Call Context) → Option (HmacContext Context) →
    Except Fault (List Reply × Option (HmacContext Context))
  | [], rawContext => .ok ([], rawContext)
  | call :: rest, rawContext => do
      let (reply, next) ← call.run library rawContext
      let (replies, last) ← runCalls rest next
      .ok (reply :: replies, last)

end Digest

end Csgdb.Crypto
