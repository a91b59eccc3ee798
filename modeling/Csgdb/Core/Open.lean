/-
Module: Csgdb.Core.Open
Purpose: Open requests: the flags with their normal form, the sources of a key, and the
  plan that an accepted request becomes.
Trusted boundary: what a key provider answers is a parameter.
Main exports: OpenFlags, SecurityMode, KeySource, OpenOptions, OpenPlan,
  ResolvedOpenPlan, prepareOpen, normalizeAndValidateFlags, OpenFlags.Normal
-/
import Csgdb.Core.Basic
import Csgdb.Foundation.Fallible

namespace Csgdb

open Foundation

/-! ## Flags -/

/-- The bits that flags may have. -/
def OpenFlags.allBits : BitVec 32 := 0x03ff#32

/-- Flags of an open request. -/
structure OpenFlags where
  bits : BitVec 32
  known : bits &&& ~~~OpenFlags.allBits = 0#32
deriving DecidableEq

namespace OpenFlags

def readonly : OpenFlags := ⟨0x0001#32, by decide⟩
def readwrite : OpenFlags := ⟨0x0002#32, by decide⟩
def create : OpenFlags := ⟨0x0004#32, by decide⟩
def uri : OpenFlags := ⟨0x0008#32, by decide⟩
def memory : OpenFlags := ⟨0x0010#32, by decide⟩
def encrypted : OpenFlags := ⟨0x0020#32, by decide⟩
def plaintext : OpenFlags := ⟨0x0040#32, by decide⟩
def fullmutex : OpenFlags := ⟨0x0080#32, by decide⟩
def nomutex : OpenFlags := ⟨0x0100#32, by decide⟩
def nofollow : OpenFlags := ⟨0x0200#32, by decide⟩

def contains (flags other : OpenFlags) : Bool :=
  flags.bits &&& other.bits == other.bits

def intersects (flags other : OpenFlags) : Bool :=
  flags.bits &&& other.bits != 0#32

def fromBits (bits : BitVec 32) : Option OpenFlags :=
  if known : bits &&& ~~~allBits = 0#32 then some ⟨bits, known⟩ else none

/-- `BitOr`. -/
def union (flags other : OpenFlags) : OpenFlags where
  bits := flags.bits ||| other.bits
  known := by rw [BitVec.and_or_distrib_right, flags.known, other.known, BitVec.or_zero]

/-- A flag is one bit. -/
def IsBit (flag : OpenFlags) (position : Nat) : Prop :=
  flag.bits = BitVec.twoPow 32 position

instance (flag : OpenFlags) (position : Nat) : Decidable (flag.IsBit position) :=
  inferInstanceAs (Decidable (_ = _))

theorem twoPow_ne_zero {position : Nat} (inRange : position < 32) :
    BitVec.twoPow 32 position ≠ 0#32 := by
  intro zero
  have cleared := congrArg (BitVec.getLsbD · position) zero
  simp [inRange] at cleared

theorem contains_eq {flag : OpenFlags} {position : Nat} (bit : flag.IsBit position)
    (inRange : position < 32) (flags : OpenFlags) :
    flags.contains flag = flags.bits.getLsbD position := by
  unfold contains
  rw [bit, BitVec.and_twoPow]
  cases flags.bits.getLsbD position with
  | true => simp
  | false => simpa using (twoPow_ne_zero inRange).symm

theorem contains_union {flag : OpenFlags} {position : Nat} (bit : flag.IsBit position)
    (inRange : position < 32) (flags other : OpenFlags) :
    (flags.union other).contains flag = (flags.contains flag || other.contains flag) := by
  rw [contains_eq bit inRange, contains_eq bit inRange, contains_eq bit inRange]
  exact BitVec.getLsbD_or

theorem intersects_union {first second : OpenFlags} {one two : Nat} (bit : first.IsBit one)
    (other : second.IsBit two) (oneInRange : one < 32) (twoInRange : two < 32)
    (flags : OpenFlags) :
    flags.intersects (first.union second) = (flags.contains first || flags.contains second) := by
  rw [contains_eq bit oneInRange, contains_eq other twoInRange]
  change (flags.bits &&& (first.bits ||| second.bits) != 0#32) = _
  rw [bit, other, BitVec.and_or_distrib_left, BitVec.and_twoPow, BitVec.and_twoPow]
  cases flags.bits.getLsbD one with
  | true => simp [twoPow_ne_zero oneInRange]
  | false => cases flags.bits.getLsbD two <;> simp [twoPow_ne_zero twoInRange]

theorem readonly_isBit : readonly.IsBit 0 := by decide
theorem readwrite_isBit : readwrite.IsBit 1 := by decide
theorem create_isBit : create.IsBit 2 := by decide
theorem encrypted_isBit : encrypted.IsBit 5 := by decide
theorem plaintext_isBit : plaintext.IsBit 6 := by decide

/-- Flags that a request is opened with. -/
structure Normal (flags : OpenFlags) : Prop where
  access : flags.contains readonly = !flags.contains readwrite
  creates : flags.contains create = true → flags.contains readwrite = true
  security : flags.contains encrypted = !flags.contains plaintext
  mutex : (flags.contains fullmutex && flags.contains nomutex) = false

end OpenFlags

def invalidFlags (message : String) : Error :=
  { code := .invalidOpenFlags, message := message }

/-- Flags in their normal form: reading and writing, and encryption, are the defaults. -/
def normalizeAndValidateFlags (flags : OpenFlags) : Result OpenFlags :=
  if flags.contains .readonly && flags.contains .readwrite then
    .error (invalidFlags "READONLY and READWRITE are mutually exclusive")
  else
    let flags :=
      if !flags.intersects (.union .readonly .readwrite) then flags.union .readwrite
      else flags
    if flags.contains .create && !flags.contains .readwrite then
      .error (invalidFlags "CREATE requires READWRITE")
    else if flags.contains .encrypted && flags.contains .plaintext then
      .error (invalidFlags "ENCRYPTED and PLAINTEXT are mutually exclusive")
    else
      let flags :=
        if !flags.intersects (.union .encrypted .plaintext) then flags.union .encrypted
        else flags
      if flags.contains .fullmutex && flags.contains .nomutex then
        .error (invalidFlags "FULLMUTEX and NOMUTEX are mutually exclusive")
      else
        .ok flags

/-- A default goes in where none of two flags is set. -/
theorem OpenFlags.contains_default {first second flag : OpenFlags} {one two position : Nat}
    (bit : first.IsBit one) (other : second.IsBit two) (this : flag.IsBit position)
    (oneInRange : one < 32) (twoInRange : two < 32) (inRange : position < 32)
    (flags byDefault : OpenFlags) :
    (if !flags.intersects (first.union second) then flags.union byDefault
      else flags).contains flag =
      (flags.contains flag ||
        (!flags.contains first && !flags.contains second && byDefault.contains flag)) := by
  rw [intersects_union bit other oneInRange twoInRange]
  cases flags.contains first <;> cases flags.contains second <;>
    simp [contains_union this inRange]

/-- Accepted flags are normal. -/
theorem normalizeAndValidateFlags_normal {flags accepted : OpenFlags}
    (normalized : normalizeAndValidateFlags flags = .ok accepted) : accepted.Normal := by
  unfold normalizeAndValidateFlags at normalized
  obtain ⟨oneAccess, normalized⟩ := ite_error_eq_ok_iff.mp normalized
  obtain ⟨creates, normalized⟩ := ite_error_eq_ok_iff.mp normalized
  obtain ⟨oneSecurity, normalized⟩ := ite_error_eq_ok_iff.mp normalized
  obtain ⟨oneMutex, normalized⟩ := ite_error_eq_ok_iff.mp normalized
  have accessed {flag : OpenFlags} {position : Nat} (this : flag.IsBit position)
      (inRange : position < 32) :=
    OpenFlags.contains_default OpenFlags.readonly_isBit OpenFlags.readwrite_isBit this
      (by decide) (by decide) inRange flags .readwrite
  generalize (if !flags.intersects (.union .readonly .readwrite) then
    flags.union .readwrite else flags) = opened at *
  have secured {flag : OpenFlags} {position : Nat} (this : flag.IsBit position)
      (inRange : position < 32) :=
    OpenFlags.contains_default OpenFlags.encrypted_isBit OpenFlags.plaintext_isBit this
      (by decide) (by decide) inRange opened .encrypted
  generalize (if !opened.intersects (.union .encrypted .plaintext) then
    opened.union .encrypted else opened) = closed at *
  obtain rfl : closed = accepted := Except.ok.inj normalized
  constructor
  case access =>
    rw [secured OpenFlags.readonly_isBit (by decide),
      secured OpenFlags.readwrite_isBit (by decide),
      accessed OpenFlags.readonly_isBit (by decide),
      accessed OpenFlags.readwrite_isBit (by decide)]
    have ownBit : OpenFlags.readwrite.contains .readwrite = true := by decide
    have apart : OpenFlags.readwrite.contains .readonly = false ∧
        OpenFlags.encrypted.contains .readonly = false ∧
        OpenFlags.encrypted.contains .readwrite = false := by decide
    revert oneAccess
    cases flags.contains .readonly <;> cases flags.contains .readwrite <;>
      simp [ownBit, apart]
  case creates =>
    rw [secured OpenFlags.create_isBit (by decide),
      secured OpenFlags.readwrite_isBit (by decide)]
    have apart : OpenFlags.encrypted.contains .create = false := by decide
    revert creates
    cases opened.contains .create <;> cases opened.contains .readwrite <;> simp [apart]
  case security =>
    rw [secured OpenFlags.encrypted_isBit (by decide),
      secured OpenFlags.plaintext_isBit (by decide)]
    revert oneSecurity
    cases opened.contains .encrypted <;> cases opened.contains .plaintext <;> simp +decide
  case mutex => simpa using oneMutex

/-! ## Keys -/

/-- Bytes of a raw key. -/
def rawKeyLength : Nat := 32

/-- A raw key. -/
structure SecretKey where
  bytes : List UInt8
  length_eq : bytes.length = rawKeyLength

/-- The name of a database for key providers. -/
structure DatabaseIdentity where
  path : String
  nonempty : path ≠ ""

def DatabaseIdentity.fromPath (path : String) : Result DatabaseIdentity :=
  if nonempty : path = "" then
    .error { code := .invalidPath, message := "database path must not be empty" }
  else
    .ok ⟨path, nonempty⟩

/-- A keystore. -/
structure KeyProvider where
  load : DatabaseIdentity → Result (Option SecretKey)
  create : DatabaseIdentity → Result SecretKey

/-- Where an encrypted open takes its key from. -/
inductive KeySource where
  | auto
  | raw (key : SecretKey)
  | passphrase (bytes : List UInt8)
  | provider (provider : KeyProvider)

/-- A key that storage can use. -/
inductive ResolvedKey where
  | raw (key : SecretKey)
  | passphrase (bytes : List UInt8)

def loadOrCreateKey (provider : KeyProvider) (identity : DatabaseIdentity)
    (flags : OpenFlags) : Result SecretKey := do
  match ← provider.load identity with
  | some key => .ok key
  | none =>
      if flags.contains .create then provider.create identity
      else
        .error { code := .keyRequired, message := "no key exists for the encrypted database" }

def resolveEncryptedKey (identity : DatabaseIdentity) (flags : OpenFlags) :
    KeySource → Option KeyProvider → Result ResolvedKey
  | .raw key, _ => .ok (.raw key)
  | .passphrase bytes, _ =>
      if bytes = [] then
        .error
          { code := .invalidKeyLength, message := "database passphrase must not be empty" }
      else .ok (.passphrase bytes)
  | .provider provider, _ => (loadOrCreateKey provider identity flags).map .raw
  | .auto, some provider => (loadOrCreateKey provider identity flags).map .raw
  | .auto, none =>
      .error
        { code := .keyStoreUnavailable
          message := "encrypted open requires a configured key provider" }

/-! ## Plans -/

inductive SecurityMode where
  | encrypted
  | plaintext
deriving Repr, DecidableEq

/-- Configuration of an open.  The busy timeout is in milliseconds. -/
structure OpenOptions where
  flags : OpenFlags
  busyTimeout : Nat
  cacheSizeBytes : Nat
  vfs : Option String
  key : KeySource
  autoKeyProvider : Option KeyProvider

/-- A request that was accepted before its key is resolved. -/
structure OpenPlan where
  path : String
  identity : DatabaseIdentity
  flags : OpenFlags
  security : SecurityMode
  busyTimeout : Nat
  cacheSizeBytes : Nat
  vfs : Option String
  key : KeySource
  autoKeyProvider : Option KeyProvider
  normal : flags.Normal
  secured : security = .plaintext ↔ flags.contains .plaintext = true

/-- A request with its key. -/
structure ResolvedOpenPlan where
  path : String
  flags : OpenFlags
  security : SecurityMode
  busyTimeout : Nat
  cacheSizeBytes : Nat
  vfs : Option String
  key : Option ResolvedKey
  normal : flags.Normal
  secured : security = .plaintext ↔ flags.contains .plaintext = true
  keyed : security = .encrypted ↔ key.isSome = true

def maxVfsNameBytes : Nat := 255

def validateVfs : Option String → Result Unit
  | none => .ok ()
  | some vfs =>
      if vfs = "" then
        .error { code := .invalidVfs, message := "VFS name must not be empty" }
      else if maxVfsNameBytes < vfs.utf8ByteSize then
        .error
          { code := .invalidVfs
            message := "VFS name exceeds the supported byte length" }
      else if '\x00' ∈ vfs.toList then
        .error { code := .invalidVfs, message := "VFS name must not contain a NUL byte" }
      else .ok ()

/-- `prepare_open`: checks a request without touching storage. -/
def prepareOpen (path : String) (options : OpenOptions) : Result OpenPlan :=
  match DatabaseIdentity.fromPath path with
  | .error error => .error error
  | .ok identity =>
      match normalized : normalizeAndValidateFlags options.flags with
      | .error error => .error error
      | .ok flags =>
          match validateVfs options.vfs with
          | .error error => .error error
          | .ok () => .ok
              { path := path
                identity := identity
                flags := flags
                security := if flags.contains .plaintext then .plaintext else .encrypted
                busyTimeout := options.busyTimeout
                cacheSizeBytes := options.cacheSizeBytes
                vfs := options.vfs
                key := options.key
                autoKeyProvider := options.autoKeyProvider
                normal := normalizeAndValidateFlags_normal normalized
                secured := by simp }

/-- `OpenPlan::resolve_key`. -/
def OpenPlan.resolveKey (plan : OpenPlan) : Result ResolvedOpenPlan :=
  let resolved (key : Option ResolvedKey)
      (keyed : plan.security = .encrypted ↔ key.isSome = true) : ResolvedOpenPlan :=
    { path := plan.path
      flags := plan.flags
      security := plan.security
      busyTimeout := plan.busyTimeout
      cacheSizeBytes := plan.cacheSizeBytes
      vfs := plan.vfs
      key := key
      normal := plan.normal
      secured := plan.secured
      keyed := keyed }
  match security : plan.security with
  | .plaintext => .ok (resolved none (by simp [security]))
  | .encrypted =>
      match resolveEncryptedKey plan.identity plan.flags plan.key plan.autoKeyProvider with
      | .error error => .error error
      | .ok key => .ok (resolved (some key) (by simp [security]))

end Csgdb
