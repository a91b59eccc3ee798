/-
Module: Csgdb.Storage.Open
Purpose: The parts of opening a database: engine flags, cipher profiles, keys, the
  pragmas of a new connection, and how engine failures are reported.
Trusted boundary: the engine is a parameter: which file it opens, whether it can open and
  read it, and what it answers to a key and to a pragma.
Main exports: SqlOpenFlags, OpenRequest, CipherProfile, CipherSettings, Cipher, Content,
  Engine, mapOpenError, applyKey, applyKey_handedKey, verifyDatabase, configurePragmas
-/
import Csgdb.Core.Open

namespace Csgdb.Storage

/-! ## Flags -/

inductive ConnectionAccess where
  | readOnly
  | readWrite
deriving Repr, DecidableEq

inductive ConnectionOwner where
  | shared
  | single
deriving Repr, DecidableEq

/-- Flags of the engine. -/
structure SqlOpenFlags where
  readOnly : Bool
  readWrite : Bool
  create : Bool
  uri : Bool
  memory : Bool
  fullMutex : Bool
  noMutex : Bool
  nofollow : Bool
deriving Repr, DecidableEq

def sqliteOpenFlags (flags : OpenFlags) : SqlOpenFlags where
  readOnly := flags.contains .readonly
  readWrite := !flags.contains .readonly
  create := flags.contains .create
  uri := flags.contains .uri
  memory := flags.contains .memory
  fullMutex := flags.contains .fullmutex
  noMutex := flags.contains .nomutex
  nofollow := flags.contains .nofollow

def readonlyOpenFlags (flags : OpenFlags) : OpenFlags :=
  [OpenFlags.uri, .memory, .fullmutex, .nomutex, .nofollow].foldl
    (fun readonly retained =>
      if flags.contains retained then readonly.union retained else readonly)
    .readonly

def singleOwnerOpenFlags (flags : OpenFlags) : OpenFlags where
  bits := (flags.bits &&& ~~~OpenFlags.fullmutex.bits) ||| OpenFlags.nomutex.bits
  -- the bits stay known, so that the `expect` never fails
  known := by
    have cleared : flags.bits &&& ~~~OpenFlags.fullmutex.bits &&& ~~~OpenFlags.allBits =
        0#32 := by
      rw [BitVec.and_assoc, BitVec.and_comm (~~~_), ← BitVec.and_assoc, flags.known,
        BitVec.zero_and]
    rw [BitVec.and_or_distrib_right, cleared, OpenFlags.nomutex.known, BitVec.or_zero]

/-- One call of `open_with_access`. -/
structure OpenRequest where
  plan : ResolvedOpenPlan
  access : ConnectionAccess
  owner : ConnectionOwner
  cacheSizeBytes : Nat

/-- The flags that a request passes to the engine. -/
def OpenRequest.flags (request : OpenRequest) : SqlOpenFlags :=
  let flags :=
    match request.access with
    | .readWrite => request.plan.flags
    | .readOnly => readonlyOpenFlags request.plan.flags
  sqliteOpenFlags (if request.owner = .single then singleOwnerOpenFlags flags else flags)

/-! ## Failures of the engine -/

/-- Primary results that are told apart. -/
inductive FailureCode where
  | notADatabase
  | databaseCorrupt
  | databaseBusy
  | databaseLocked
  | readOnly
  | constraintViolation
  | operationInterrupted
  | other
deriving Repr, DecidableEq

/-- Errors of the engine's wrapper. -/
inductive EngineError where
  | sqliteFailure (code : FailureCode) (extendedCode : Int)
  | sqlInputError
  | invalidParameterCount
  | invalidParameterName
  | invalidColumnIndex
  | invalidColumnType
  | utf8Error
  | other
deriving Repr, DecidableEq

def sqliteIoerrWrite : Int := 778
def sqliteIoerrFsync : Int := 1034
def sqliteIoerrTruncate : Int := 1546

def mapFailureCode : FailureCode → Error
  | .databaseBusy | .databaseLocked =>
      { code := .databaseBusy, message := "database is busy or locked" }
  | .readOnly => { code := .databaseReadOnly, message := "database is read-only" }
  | .constraintViolation =>
      { code := .constraintViolation, message := "database constraint failed" }
  | .databaseCorrupt => { code := .databaseCorrupt, message := "database is corrupt" }
  | .operationInterrupted =>
      { code := .queryInterrupted, message := "database operation was interrupted" }
  | .notADatabase | .other => { code := .storage, message := "database operation failed" }

def mapStorageError : EngineError → Error
  | .sqliteFailure code extendedCode =>
      if extendedCode = sqliteIoerrWrite then
        { code := .storageWriteFailed, message := "database storage write failed" }
      else if extendedCode = sqliteIoerrFsync then
        { code := .storageSyncFailed
          message := "database storage synchronization failed" }
      else if extendedCode = sqliteIoerrTruncate then
        { code := .storageTruncateFailed, message := "database storage truncation failed" }
      else mapFailureCode code
  | .sqlInputError => { code := .invalidSql, message := "SQL statement is invalid" }
  | .invalidParameterCount =>
      { code := .parameterCountMismatch
        message := "SQL parameter count does not match the supplied values" }
  | .invalidParameterName =>
      { code := .invalidParameterIndex
        message := "SQL parameter index or name is invalid" }
  | .invalidColumnIndex =>
      { code := .invalidColumnIndex, message := "result column index is out of range" }
  | .invalidColumnType =>
      { code := .invalidColumnType
        message := "result column has an incompatible storage class" }
  | .utf8Error => { code := .invalidUtf8, message := "text value is not valid UTF-8" }
  | .other => { code := .storage, message := "database operation failed" }

def mapOpenError : EngineError → Error
  | .sqliteFailure .notADatabase _ =>
      { code := .invalidDatabaseKey
        message := "database key is incorrect or the file is not a supported database" }
  | .sqliteFailure .databaseCorrupt _ =>
      { code := .databaseCorrupt
        message := "database is corrupt or authentication failed" }
  | error => mapStorageError error

/-! ## Ciphers -/

inductive CipherProfile where
  | current
  | previous
  | legacy
deriving Repr, DecidableEq

/-- The settings of a cipher that `cipher_default_*` presets for the whole process. -/
structure CipherSettings where
  hmacAlgorithm : String
  pageSize : Nat
deriving Repr, DecidableEq

def CipherProfile.settings : CipherProfile → CipherSettings
  | .current => { hmacAlgorithm := "HMAC_SHA256", pageSize := 1024 }
  | .previous => { hmacAlgorithm := "HMAC_SHA256", pageSize := 4096 }
  | .legacy => { hmacAlgorithm := "HMAC_SHA512", pageSize := 4096 }

/-- The codec of a keyed connection. -/
structure Cipher where
  settings : CipherSettings
  key : List UInt8
deriving Repr, DecidableEq

/-- What a file holds: nothing yet, a database that a codec wrote, or something else, such
as a plaintext database. -/
inductive Content where
  | empty
  | written (settings : CipherSettings) (key : List UInt8)
  | foreign
deriving Repr, DecidableEq

/-- A file of more than no bytes. -/
def Content.nonempty : Content → Bool
  | .empty => false
  | _ => true

/-- What a connection turns an empty file into. -/
def Content.initialized : Option Cipher → Content
  | some cipher => .written cipher.settings cipher.key
  | none => .foreign

inductive PragmaValue where
  | boolean (value : Bool)
  | integer (value : Int)
  | text (value : String)
deriving Repr, DecidableEq

structure Pragma where
  name : String
  value : PragmaValue
deriving Repr, DecidableEq

/-- The engine and the file system.  A request without a location opens a database in
memory. -/
structure Engine (Location : Type) where
  /-- The file that the operating system finds under a path. -/
  metadata : String → Location
  /-- The file that the engine opens. -/
  located : SqlOpenFlags → Option String → String → Option Location
  openFile : SqlOpenFlags → Option Content → Except EngineError Unit
  /-- The result of `sqlite3_key`. -/
  key : List UInt8 → Int
  /-- Reading the first page. -/
  read : Option Cipher → Content → Except EngineError Unit
  /-- A pragma that reads no page. -/
  pragmaUpdate : Pragma → Except EngineError Unit

/-! ## Keys -/

def sqliteKeyed : Int := 0

/-- Range of `c_int`. -/
def maxKeyBytes : Nat := 2147483647

/-- The digits `0123456789abcdef`. -/
def hexDigits : List UInt8 :=
  [0x30, 0x31, 0x32, 0x33, 0x34, 0x35, 0x36, 0x37, 0x38, 0x39,
    0x61, 0x62, 0x63, 0x64, 0x65, 0x66]

/-- The blob literal of a raw key: `x`, and its hexadecimal digits in quotes. -/
def rawKeyLiteral (key : SecretKey) : List UInt8 :=
  let digits (byte : UInt8) : List UInt8 :=
    [hexDigits.getD (byte >>> 4).toNat 0, hexDigits.getD (byte &&& 0x0f).toNat 0]
  [0x78, 0x27] ++ key.bytes.flatMap digits ++ [0x27]

/-- The bytes that a key is given to the engine as. -/
def keyBytes : ResolvedKey → List UInt8
  | .raw key => rawKeyLiteral key
  | .passphrase bytes => bytes

variable {Location : Type} (engine : Engine Location)

/-- Keying captures the settings that are the defaults at that moment. -/
def applyKeyBytes (bytes : List UInt8) (defaults : CipherSettings) : Result Cipher :=
  if maxKeyBytes < bytes.length then
    .error
      { code := .invalidKeyLength, message := "database key material is too large" }
  else if engine.key bytes = sqliteKeyed then
    .ok { settings := defaults, key := bytes }
  else
    .error
      { code := .encryptionBackendUnavailable
        message := "database encryption key setup failed" }

def applyKey (key : Option ResolvedKey) (defaults : CipherSettings) : Result Cipher :=
  match key with
  | none =>
      .error
        { code := .keyRequired
          message := "encrypted database open requires key material" }
  | some key => applyKeyBytes engine (keyBytes key) defaults

/-- The bytes that `sqlite3_key` is called with, if it is called. -/
def handedKey (key : ResolvedKey) : Option (List UInt8) :=
  if maxKeyBytes < (keyBytes key).length then none else some (keyBytes key)

/-- The engine is asked about these bytes and no others. -/
theorem applyKey_handedKey (key : ResolvedKey) (defaults : CipherSettings) :
    applyKey engine (some key) defaults =
      match handedKey key with
      | none =>
          .error
            { code := .invalidKeyLength, message := "database key material is too large" }
      | some bytes =>
          if engine.key bytes = sqliteKeyed then .ok { settings := defaults, key := bytes }
          else
            .error
              { code := .encryptionBackendUnavailable
                message := "database encryption key setup failed" } := by
  unfold handedKey
  change applyKeyBytes engine (keyBytes key) defaults = _
  unfold applyKeyBytes
  split <;> rfl

/-! ## The connection -/

def verifyDatabase (cipher : Option Cipher) (content : Content) : Result Unit :=
  (engine.read cipher content).mapError mapOpenError

/-- Milliseconds that a busy timeout may have. -/
def maxBusyTimeoutMillis : Nat := 2147483647

/-- Range of `i64`. -/
def maxCacheKib : Nat := 9223372036854775807

/-- The pragmas of `configure_connection`, in their order. -/
def configurePragmas (request : OpenRequest) : List Pragma :=
  let cacheKib := min ((request.cacheSizeBytes + 1023) / 1024) maxCacheKib
  [{ name := "foreign_keys", value := .boolean true },
    { name := "cache_size", value := .integer (-cacheKib) }] ++
  if request.access = .readWrite && !request.plan.flags.contains .readonly &&
      !request.plan.flags.contains .memory then
    [{ name := "journal_mode", value := .text "WAL" },
      { name := "synchronous", value := .text "NORMAL" }]
  else []

/-- A connection that was opened. -/
structure OpenedConnection where
  cipher : Option Cipher
  security : SecurityMode
deriving Repr, DecidableEq

end Csgdb.Storage
