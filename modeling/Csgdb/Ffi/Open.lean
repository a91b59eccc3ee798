/-
Module: Csgdb.Ffi.Open
Purpose: The arguments of `csgdb_open_v3` with their checks, up to the options that the
  database is opened with.
Trusted boundary: structure sizes are those of a 64-bit target.
Main exports: CsgdbKeySource, CsgdbOpenOptions, parseKeySource, openV3Arguments
-/
import Csgdb.Core.Open
import Csgdb.Ffi.Handle
import Csgdb.Storage.BusyTimeout

namespace Csgdb.Ffi

open Storage

/-- A key source of the C interface.  Absent data is a null pointer. -/
structure CsgdbKeySource where
  structSize : UInt32
  kind : UInt32
  data : Option (List UInt8)
deriving Repr, DecidableEq

structure CsgdbOpenOptions where
  structSize : UInt32
  abiVersion : UInt32
  flags : UInt32
  busyTimeoutMs : UInt32
  cacheSizeBytes : UInt64
  memoryBudgetBytes : UInt64
  vfs : CString
  hasDeviceProfile : Bool
  key : CsgdbKeySource
deriving Repr, DecidableEq

def sizeOfKeySource : Nat := 32
def sizeOfOpenOptions : Nat := 80
def abiVersion : UInt32 := 1

/-- `SecretKey::from_slice`. -/
def secretKey (bytes : List UInt8) : Result SecretKey :=
  if length_eq : bytes.length = rawKeyLength then
    .ok ⟨bytes, length_eq⟩
  else
    .error
      { code := .invalidKeyLength
        message := "raw database keys must contain exactly 32 bytes" }

def invalidKeyLength (message : String) : Error :=
  { code := .invalidKeyLength, message := message }

def parseKeySource (source : CsgdbKeySource) : Result KeySource :=
  if source.structSize.toNat < sizeOfKeySource then
    .error (invalidKeyLength "key source structure is too small")
  else if source.kind = 0 then
    .ok .auto
  else if source.kind = 1 then
    match source.data with
    | none => .error (invalidKeyLength "raw key pointer is null")
    | some bytes => (secretKey bytes).map .raw
  else if source.kind = 2 then
    match source.data with
    | none => .error (invalidKeyLength "passphrase pointer is null")
    | some bytes => .ok (.passphrase bytes)
  else if source.kind = 3 then
    .error
      { code := .keyStoreUnavailable, message := "named key providers are not registered" }
  else
    .error (invalidKeyLength "unknown key source kind")

/-- The checks of `csgdb_open_v3` in front of the open: an output, options of this version,
known flags, a VFS name, a key source and a path. -/
def openV3Arguments (path : CString) (hasOutput : Bool) (options : Option CsgdbOpenOptions) :
    Except Code (String × OpenOptions) :=
  if !hasOutput then .error .invalidArgument
  else
    match options with
    | none => .error .invalidArgument
    | some options =>
        if options.structSize.toNat < sizeOfOpenOptions ∨ options.abiVersion ≠ abiVersion ∨
            options.hasDeviceProfile then
          .error .invalidArgument
        else
          match OpenFlags.fromBits options.flags.toBitVec with
          | none => .error .invalidOpenFlags
          | some flags => do
              let vfs ← optionalCString options.vfs
              let key ← (parseKeySource options.key).mapError errorCode
              let path ← cString path
              .ok
                (path,
                  { flags := flags
                    busyTimeout :=
                      (Duration.fromMillis options.busyTimeoutMs.toNat).asMillis
                    cacheSizeBytes := options.cacheSizeBytes.toNat
                    vfs := vfs
                    key := key
                    autoKeyProvider := none })

end Csgdb.Ffi
