/-
Module: Csgdb.Ffi.OpenCalls
Purpose: The open functions of the C interface, up to the builder that each of them opens.
Trusted boundary: strings and key bytes are readable as the caller promises.
Main exports: openFrom, CsgdbOpen, CsgdbOpen.request
-/
import Csgdb.Database.Builder
import Csgdb.Ffi.Open

namespace Csgdb.Ffi

variable {Handle : Type}

/-- `open_from`: a refusal leaves a null handle behind, and an operation that fails a handle
that remembers the code of its error. -/
def openFrom (path : CString) (hasOutput : Bool)
    (operation : String → Result (DatabaseBuilder Handle)) :
    Except Code (Result (DatabaseBuilder Handle)) :=
  if !hasOutput then .error .invalidArgument
  else (cString path).map operation

/-- The C interface registers no providers, so that its key sources name none. -/
def sharedKeySource : KeySource → Option (SharedKeySource Handle)
  | .auto => some .auto
  | .raw key => some (.raw key)
  | .passphrase bytes => some (.passphrase bytes)
  | .provider _ => none

/-- The calls that open a database. -/
inductive CsgdbOpen where
  | csgdbOpen (path : CString) (hasOutput : Bool)
  | csgdbOpenV2 (path : CString) (hasOutput : Bool) (flags : UInt32) (vfs : CString)
  | csgdbOpenWithKey (path : CString) (key : Option (List UInt8)) (hasOutput : Bool)
  | csgdbOpenV3 (path : CString) (hasOutput : Bool) (options : Option CsgdbOpenOptions)

/-- The builder that `csgdb_open_v2` opens; unknown flags fail as the open of a handle. -/
def openV2Builder (flags : UInt32) (vfs : Option String) (path : String) :
    Result (DatabaseBuilder Handle) :=
  match OpenFlags.fromBits flags.toBitVec with
  | none => .error (invalidFlags "open flags contain unknown bits")
  | some flags =>
      let builder := (DatabaseBuilder.new path).flags flags
      match vfs with
      | some vfs => .ok (builder.vfs vfs)
      | none => .ok builder

/-- The builder that a call opens, unless its arguments are refused. -/
def CsgdbOpen.request : CsgdbOpen → Except Code (Result (DatabaseBuilder Handle))
  | .csgdbOpen path hasOutput => openFrom path hasOutput fun path => .ok (.new path)
  | .csgdbOpenV2 path hasOutput flags vfs =>
      if !hasOutput then .error .invalidArgument
      else do
        let vfs ← optionalCString vfs
        openFrom path hasOutput (openV2Builder flags vfs)
  | .csgdbOpenWithKey path key hasOutput =>
      if !hasOutput then .error .invalidArgument
      else
        match key with
        | none => .error .invalidArgument
        | some bytes => do
            let key ← (secretKey bytes).mapError errorCode
            openFrom path hasOutput fun path => .ok ((DatabaseBuilder.new path).key (.raw key))
  | .csgdbOpenV3 path hasOutput options => do
      let (path, options) ← openV3Arguments path hasOutput options
      match sharedKeySource options.key with
      -- no key source that was parsed names a provider
      | none => .error .keystoreUnavailable
      | some key =>
          .ok (.ok ((DatabaseBuilder.new path).withOptions
            { flags := options.flags
              busyTimeout := options.busyTimeout
              cacheSizeBytes := options.cacheSizeBytes
              vfs := options.vfs
              key := key
              autoKeyProvider := none }))

end Csgdb.Ffi
