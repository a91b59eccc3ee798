/-
Module: Csgdb.Database.Builder
Purpose: Builders of database connections, and how they get from options to a plan with its
  key when the key providers are shared with others and keep a state.
Trusted boundary: key providers belong to the host; a plan asks them and goes on with what
  they reply.
Main exports: ProviderCall, SharedKeySource, SharedOptions, loadOrCreateKey,
  resolveEncryptedKey, DatabaseBuilder, DatabaseBuilder.plan, plan_answered
-/
import Csgdb.Core.Open
import Csgdb.Foundation.Fallible

namespace Csgdb

open Foundation

variable {Handle : Type}

/-! ## Key providers -/

/-- The calls of a plan on a key provider. -/
inductive ProviderCall (Handle : Type) where
  | load (provider : Handle) (identity : DatabaseIdentity)
  | create (provider : Handle) (identity : DatabaseIdentity)

def ProviderCall.Reply : ProviderCall Handle → Type
  | .load _ _ => Result (Option SecretKey)
  | .create _ _ => Result SecretKey

/-- Where an encrypted open takes its key from.  A provider is known by its handle. -/
inductive SharedKeySource (Handle : Type) where
  | auto
  | raw (key : SecretKey)
  | passphrase (bytes : List UInt8)
  | provider (provider : Handle)

/-- Configuration of an open.  The busy timeout is in milliseconds. -/
structure SharedOptions (Handle : Type) where
  flags : OpenFlags
  busyTimeout : Nat
  cacheSizeBytes : Nat
  vfs : Option String
  key : SharedKeySource Handle
  autoKeyProvider : Option Handle

def defaultBusyTimeoutMs : Nat := 5000
def defaultCacheSizeBytes : Nat := 16 * 1024 * 1024

def SharedOptions.default : SharedOptions Handle where
  flags := ((OpenFlags.readwrite.union .create).union .encrypted).union .fullmutex
  busyTimeout := defaultBusyTimeoutMs
  cacheSizeBytes := defaultCacheSizeBytes
  vfs := none
  key := .auto
  autoKeyProvider := none

/-- The key source when the providers keep replying as they do now. -/
def SharedKeySource.resolvedBy (providers : Handle → KeyProvider) :
    SharedKeySource Handle → KeySource
  | .auto => .auto
  | .raw key => .raw key
  | .passphrase bytes => .passphrase bytes
  | .provider handle => .provider (providers handle)

def SharedOptions.resolvedBy (options : SharedOptions Handle)
    (providers : Handle → KeyProvider) : OpenOptions where
  flags := options.flags
  busyTimeout := options.busyTimeout
  cacheSizeBytes := options.cacheSizeBytes
  vfs := options.vfs
  key := options.key.resolvedBy providers
  autoKeyProvider := options.autoKeyProvider.map providers

/-- What `prepare_open` looks at.  The key source and the provider go into the plan unseen. -/
def SharedOptions.unkeyed (options : SharedOptions Handle) : OpenOptions where
  flags := options.flags
  busyTimeout := options.busyTimeout
  cacheSizeBytes := options.cacheSizeBytes
  vfs := options.vfs
  key := .auto
  autoKeyProvider := none

namespace ProviderCall

/-- How `load_or_create_key` goes on when the provider has replied. -/
def afterLoad (provider : Handle) (identity : DatabaseIdentity) (flags : OpenFlags) :
    Result (Option SecretKey) → Asking (@Reply Handle) (Result SecretKey)
  | .error error => .done (.error error)
  | .ok (some key) => .done (.ok key)
  | .ok none =>
      if flags.contains .create then
        .ask (.create provider identity) fun (created : Result SecretKey) => .done created
      else
        .done (.error
          { code := .keyRequired, message := "no key exists for the encrypted database" })

/-- `load_or_create_key`. -/
def loadOrCreateKey (provider : Handle) (identity : DatabaseIdentity) (flags : OpenFlags) :
    Asking (@Reply Handle) (Result SecretKey) :=
  .ask (.load provider identity) (afterLoad provider identity flags)

/-- `resolve_encrypted_key`. -/
def resolveEncryptedKey (identity : DatabaseIdentity) (flags : OpenFlags) :
    SharedKeySource Handle → Option Handle → Asking (@Reply Handle) (Result ResolvedKey)
  | .raw key, _ => .done (.ok (.raw key))
  | .passphrase bytes, _ =>
      if bytes = [] then
        .done (.error
          { code := .invalidKeyLength, message := "database passphrase must not be empty" })
      else .done (.ok (.passphrase bytes))
  | .provider provider, _ => (loadOrCreateKey provider identity flags).map (Except.map .raw)
  | .auto, some provider => (loadOrCreateKey provider identity flags).map (Except.map .raw)
  | .auto, none =>
      .done (.error
        { code := .keyStoreUnavailable
          message := "encrypted open requires a configured key provider" })

end ProviderCall

/-! ## Plans -/

section Keyed

variable {plan : OpenPlan}

theorem OpenPlan.keyed_of_plaintext (plaintext : plan.security = .plaintext) :
    plan.security = .encrypted ↔ (none : Option ResolvedKey).isSome = true :=
  ⟨fun encrypted => absurd (plaintext.symm.trans encrypted) SecurityMode.noConfusion,
    fun isSome => absurd isSome Bool.noConfusion⟩

theorem OpenPlan.keyed_of_encrypted (encrypted : plan.security = .encrypted)
    (key : ResolvedKey) : plan.security = .encrypted ↔ (some key).isSome = true :=
  ⟨fun _ => rfl, fun _ => encrypted⟩

theorem OpenPlan.encrypted_of_ne (other : plan.security ≠ .plaintext) :
    plan.security = .encrypted := by
  cases security : plan.security with
  | plaintext => exact absurd security other
  | encrypted => rfl

theorem OpenPlan.keyed_of_ne (other : plan.security ≠ .plaintext) (key : ResolvedKey) :
    plan.security = .encrypted ↔ (some key).isSome = true :=
  keyed_of_encrypted (encrypted_of_ne other) key

end Keyed

/-- A plan with its key. -/
def OpenPlan.resolved (plan : OpenPlan) (key : Option ResolvedKey)
    (keyed : plan.security = .encrypted ↔ key.isSome = true) : ResolvedOpenPlan where
  path := plan.path
  flags := plan.flags
  security := plan.security
  busyTimeout := plan.busyTimeout
  cacheSizeBytes := plan.cacheSizeBytes
  vfs := plan.vfs
  key := key
  normal := plan.normal
  secured := plan.secured
  keyed := keyed

/-- `resolve_key`. -/
def OpenPlan.resolveSharedKey (plan : OpenPlan) (key : SharedKeySource Handle)
    (autoKeyProvider : Option Handle) :
    Asking (@ProviderCall.Reply Handle) (Result ResolvedOpenPlan) :=
  if plaintext : plan.security = .plaintext then
    .done (.ok (plan.resolved none (keyed_of_plaintext plaintext)))
  else
    (ProviderCall.resolveEncryptedKey plan.identity plan.flags key autoKeyProvider).map
      (Except.map fun key =>
        plan.resolved (some key) (keyed_of_ne plaintext key))

/-! ## Builders -/

structure DatabaseBuilder (Handle : Type) where
  path : String
  options : SharedOptions Handle

namespace DatabaseBuilder

def new (path : String) : DatabaseBuilder Handle where
  path := path
  options := .default

variable (builder : DatabaseBuilder Handle)

def key (key : SharedKeySource Handle) : DatabaseBuilder Handle :=
  { builder with options := { builder.options with key := key } }

def keyProvider (provider : Handle) : DatabaseBuilder Handle :=
  { builder with options := { builder.options with autoKeyProvider := some provider } }

def plaintext : DatabaseBuilder Handle :=
  { builder with
    options :=
      { builder.options with
        flags := ((OpenFlags.readwrite.union .create).union .plaintext).union .fullmutex } }

def flags (flags : OpenFlags) : DatabaseBuilder Handle :=
  { builder with options := { builder.options with flags := flags } }

def vfs (name : String) : DatabaseBuilder Handle :=
  { builder with options := { builder.options with vfs := some name } }

def withOptions (options : SharedOptions Handle) : DatabaseBuilder Handle :=
  { builder with options := options }

/-- `plan`, with which every open of a builder starts. -/
def plan : Asking (@ProviderCall.Reply Handle) (Result ResolvedOpenPlan) :=
  match prepareOpen builder.path builder.options.unkeyed with
  | .error error => .done (.error error)
  | .ok plan => plan.resolveSharedKey builder.options.key builder.options.autoKeyProvider

/-- The provider that the key of an encrypted open comes from. -/
def provider : Option Handle :=
  match builder.options.key with
  | .provider provider => some provider
  | .auto => builder.options.autoKeyProvider
  | .raw _ | .passphrase _ => none

end DatabaseBuilder

/-! ## Providers that do not change -/

/-- The replies of providers that do not change. -/
def KeyProvider.replies (providers : Handle → KeyProvider) :
    (call : ProviderCall Handle) → call.Reply
  | .load provider identity => (providers provider).load identity
  | .create provider identity => (providers provider).create identity

theorem loadOrCreateKey_answered (providers : Handle → KeyProvider) (provider : Handle)
    (identity : DatabaseIdentity) (flags : OpenFlags) :
    (ProviderCall.loadOrCreateKey provider identity flags).answered
        (KeyProvider.replies providers) =
      loadOrCreateKey (providers provider) identity flags := by
  change (ProviderCall.afterLoad provider identity flags
    ((providers provider).load identity)).answered (KeyProvider.replies providers) = _
  unfold ProviderCall.afterLoad loadOrCreateKey
  rcases (providers provider).load identity with error | (_ | key)
  · rfl
  · change Asking.answered _ (if _ then _ else _) = if _ then _ else _
    split <;> rfl
  · rfl

theorem resolveEncryptedKey_answered (providers : Handle → KeyProvider)
    (identity : DatabaseIdentity) (flags : OpenFlags) (key : SharedKeySource Handle)
    (autoKeyProvider : Option Handle) :
    (ProviderCall.resolveEncryptedKey identity flags key autoKeyProvider).answered
        (KeyProvider.replies providers) =
      resolveEncryptedKey identity flags (key.resolvedBy providers)
        (autoKeyProvider.map providers) := by
  cases key with
  | raw key => rfl
  | passphrase bytes =>
      simp only [ProviderCall.resolveEncryptedKey, SharedKeySource.resolvedBy,
        resolveEncryptedKey]
      split <;> rfl
  | provider provider =>
      simp only [ProviderCall.resolveEncryptedKey, Asking.answered_map,
        loadOrCreateKey_answered, SharedKeySource.resolvedBy, resolveEncryptedKey]
  | auto =>
      cases autoKeyProvider with
      | none => rfl
      | some provider =>
          simp only [ProviderCall.resolveEncryptedKey, Asking.answered_map,
            loadOrCreateKey_answered, SharedKeySource.resolvedBy, resolveEncryptedKey,
            Option.map_some]

/-- The plan that is prepared carries the key source and the provider with it. -/
theorem prepareOpen_resolvedBy (providers : Handle → KeyProvider) (path : String)
    (options : SharedOptions Handle) :
    prepareOpen path (options.resolvedBy providers) =
      (prepareOpen path options.unkeyed).map fun plan =>
        { plan with
          key := options.key.resolvedBy providers
          autoKeyProvider := options.autoKeyProvider.map providers } := by
  unfold prepareOpen
  cases DatabaseIdentity.fromPath path with
  | error error => rfl
  | ok identity =>
      dsimp only [SharedOptions.resolvedBy, SharedOptions.unkeyed]
      split
      case h_1 error refused => rfl
      case h_2 flags normalized =>
        cases validateVfs options.vfs with
        | error error => rfl
        | ok => rfl

theorem resolveSharedKey_answered (providers : Handle → KeyProvider) (plan : OpenPlan)
    (key : SharedKeySource Handle) (autoKeyProvider : Option Handle) :
    (plan.resolveSharedKey key autoKeyProvider).answered (KeyProvider.replies providers) =
      OpenPlan.resolveKey
        { plan with
          key := key.resolvedBy providers
          autoKeyProvider := autoKeyProvider.map providers } := by
  obtain ⟨path, identity, flags, security, busyTimeout, cacheSizeBytes, vfs, -, -, normal,
    secured⟩ := plan
  cases security with
  | plaintext => rfl
  | encrypted =>
      unfold OpenPlan.resolveSharedKey OpenPlan.resolveKey
      dsimp only
      rw [dif_neg SecurityMode.noConfusion, Asking.answered_map, resolveEncryptedKey_answered]
      cases resolveEncryptedKey identity flags (key.resolvedBy providers)
        (autoKeyProvider.map providers) with
      | error error => rfl
      | ok key => rfl

/-- A plan asks as `resolve_key` does for providers that keep their replies. -/
theorem plan_answered (providers : Handle → KeyProvider) (builder : DatabaseBuilder Handle) :
    builder.plan.answered (KeyProvider.replies providers) =
      prepareOpen builder.path (builder.options.resolvedBy providers) >>=
        OpenPlan.resolveKey := by
  rw [prepareOpen_resolvedBy]
  unfold DatabaseBuilder.plan
  cases prepareOpen builder.path builder.options.unkeyed with
  | error error => rfl
  | ok plan =>
      exact resolveSharedKey_answered providers plan _ _

end Csgdb
