/-
Module: Csgdb.Crypto.ProviderLifetime
Purpose: The process-wide provider references of the page codec, and the threads that
  fetch and free them.
Trusted boundary: a fetch of the crypto library finds any object or none and adds one
  reference to it; a free takes one away; an initialization behind a guard runs once;
  `exit` runs the registered handlers.
Main exports: ProviderProcess, isCached, evpMacFree, releaseCryptoProviders, ProviderMove
-/
import Csgdb.Crypto.ProviderCache
import Csgdb.Foundation.Interleaving
import Csgdb.Foundation.Once

namespace Csgdb.Crypto

open Foundation

/-! ## The process -/

/-- The two kinds of provider objects: `EVP_MAC` and `EVP_CIPHER`. -/
inductive ProviderKind where
  | hmac
  | aes
deriving Repr, DecidableEq

/-- What the threads of the process share.  `once` and `provider` are the guards and the
variables of the two kinds.  `references` counts the references to an object that were
taken through these calls and not given back. -/
structure ProviderProcess where
  references : ProviderKind → Nat → Nat
  once : ProviderKind → Once
  cleanupOnce : Once
  provider : ProviderKind → Option Nat
  /-- How often the release is registered to run at exit. -/
  handlers : Nat
  exited : Bool
  /-- How often providers were looked up, and the cleanup was registered. -/
  fetches : ProviderKind → Nat
  registrations : Nat
  /-- References that were freed and not given back. -/
  leaked : Nat → Nat

namespace ProviderProcess

def initial : ProviderProcess where
  references := fun _ _ => 0
  once := fun _ => .idle
  cleanupOnce := .idle
  provider := fun _ => none
  handlers := 0
  exited := false
  fetches := fun _ => 0
  registrations := 0
  leaked := fun _ => 0

/-- The count of one object of one kind. -/
def count (references : ProviderKind → Nat → Nat) (kind : ProviderKind) (object : Nat)
    (change : Nat → Nat) : ProviderKind → Nat → Nat :=
  Function.update references kind
    (Function.update (references kind) object (change (references kind object)))

/-- `EVP_MAC_fetch` and `EVP_CIPHER_fetch`, when they find an object. -/
def fetch (process : ProviderProcess) (kind : ProviderKind) (object : Nat) :
    ProviderProcess :=
  { process with references := count process.references kind object (· + 1) }

/-- `EVP_MAC_free` and `EVP_CIPHER_free`; `NULL` is none. -/
def free (process : ProviderProcess) (kind : ProviderKind) (object : Option Nat) :
    ProviderProcess :=
  { process with
    references := match object with
      | none => process.references
      | some object => count process.references kind object (· - 1) }

def setProvider (process : ProviderProcess) (kind : ProviderKind) (found : Option Nat) :
    ProviderProcess :=
  { process with provider := Function.update process.provider kind found }

def setOnce (process : ProviderProcess) (kind : ProviderKind) (once : Once) :
    ProviderProcess :=
  { process with once := Function.update process.once kind once }

/-- `csgdb_release_crypto_providers`. -/
def releaseCryptoProviders (process : ProviderProcess) : ProviderProcess :=
  let process := (process.free .hmac (process.provider .hmac)).setProvider .hmac none
  (process.free .aes (process.provider .aes)).setProvider .aes none

/-- Runs the handlers that are registered. -/
def runHandlers : Nat → ProviderProcess → ProviderProcess
  | 0, process => process
  | handlers + 1, process => runHandlers handlers process.releaseCryptoProviders

def exit (process : ProviderProcess) : ProviderProcess :=
  { runHandlers process.handlers process with handlers := 0, exited := true }

/-- `csgdb_initialize_hmac_provider` and `csgdb_initialize_aes_provider`, behind their
guard. -/
def initializeProvider (process : ProviderProcess) (kind : ProviderKind) :
    Option Nat → ProviderProcess
  | none =>
      { (process.setProvider kind none).setOnce kind .done with
        fetches := Function.update process.fetches kind (process.fetches kind + 1) }
  | some object =>
      { ((process.fetch kind object).setProvider kind (some object)).setOnce kind .done with
        fetches := Function.update process.fetches kind (process.fetches kind + 1) }

/-- `csgdb_register_crypto_cleanup`, behind its guard; whether `atexit` succeeds is not
looked at. -/
def registerCryptoCleanup (process : ProviderProcess) (registered : Bool) :
    ProviderProcess :=
  { process with
    cleanupOnce := .done
    handlers := if registered then process.handlers + 1 else process.handlers
    registrations := process.registrations + 1 }

end ProviderProcess

/-! ## Threads -/

/-- An object that a thread got from a fetch.  It is borrowed when it comes from the cache. -/
structure ProviderHandle where
  kind : ProviderKind
  object : Nat
  borrowed : Bool
deriving Repr, DecidableEq

/-- Where a thread is inside of a cached fetch. -/
inductive FetchStage where
  /-- In front of the guard of the provider. -/
  | entering
  | initializing
  /-- At the comparison with `NULL`. -/
  | checking
  /-- In front of the guard of the cleanup. -/
  | cleaning
  | registering
  | returning
deriving Repr, DecidableEq

inductive ProviderControl where
  | outside
  | fetching (kind : ProviderKind) (stage : FetchStage)
  /-- In front of `EVP_MAC_free`. -/
  | freeing (handle : ProviderHandle)
  /-- The thread called `exit`. -/
  | stopped
deriving Repr, DecidableEq

structure ProviderThread where
  handles : List ProviderHandle
  control : ProviderControl
deriving Repr, DecidableEq

namespace ProviderThread

def fresh : ProviderThread where
  handles := []
  control := .outside

/-- Everything that the thread still has to do with. -/
def held (thread : ProviderThread) : List ProviderHandle :=
  match thread.control with
  | .freeing handle => handle :: thread.handles
  | _ => thread.handles

def moveTo (thread : ProviderThread) (kind : ProviderKind) (stage : FetchStage) :
    ProviderThread :=
  { thread with control := .fetching kind stage }

/-- Returns from a call with a handle or `NULL`. -/
def returns (thread : ProviderThread) (result : Option ProviderHandle) : ProviderThread where
  handles := result.toList ++ thread.handles
  control := .outside

end ProviderThread

/-! ## Calls -/

/-- The arguments of `_csgdb_internal_evp_mac_fetch`. -/
structure MacRequest where
  libraryContext : Option Nat
  algorithm : Option (List UInt8)
  properties : Option (List UInt8)
deriving Repr, DecidableEq

/-- The request that is answered from the cache. -/
def isCached (request : MacRequest) : Bool :=
  !(request.libraryContext.isSome || request.properties.isSome ||
    request.algorithm.isNone || request.algorithm != some (asciiBytes "HMAC"))

/-- One move of a thread.  What it calls, and what the crypto library finds, is open. -/
inductive ProviderMove : Nat → ProviderProcess → ProviderThread → ProviderProcess →
    ProviderThread → Prop
  /-- `_csgdb_internal_evp_mac_fetch` of anything else. -/
  | passesOn {place : Nat} {process : ProviderProcess} {thread : ProviderThread}
      (request : MacRequest) (object : Nat) (isOutside : thread.control = .outside)
      (other : isCached request = false) :
      ProviderMove place process thread (process.fetch .hmac object)
        (thread.returns (some ⟨.hmac, object, false⟩))
  | passesOnMissing {place : Nat} {process : ProviderProcess} {thread : ProviderThread}
      (request : MacRequest) (isOutside : thread.control = .outside)
      (other : isCached request = false) :
      ProviderMove place process thread process (thread.returns none)
  | fetchesMac {place : Nat} {process : ProviderProcess} {thread : ProviderThread}
      (request : MacRequest) (isOutside : thread.control = .outside)
      (cached : isCached request = true) :
      ProviderMove place process thread process (thread.moveTo .hmac .entering)
  /-- `_csgdb_internal_evp_aes_256_cbc`. -/
  | fetchesCipher {place : Nat} {process : ProviderProcess} {thread : ProviderThread}
      (isOutside : thread.control = .outside) :
      ProviderMove place process thread process (thread.moveTo .aes .entering)
  /-- `CRYPTO_THREAD_run_once` returns zero. -/
  | guardFails {place : Nat} {process : ProviderProcess} {thread : ProviderThread}
      {kind : ProviderKind} (isEntering : thread.control = .fetching kind .entering) :
      ProviderMove place process thread process (thread.returns none)
  | begins {place : Nat} {process : ProviderProcess} {thread : ProviderThread}
      {kind : ProviderKind} (isEntering : thread.control = .fetching kind .entering)
      (idle : process.once kind = .idle) :
      ProviderMove place process thread (process.setOnce kind .running)
        (thread.moveTo kind .initializing)
  | initializes {place : Nat} {process : ProviderProcess} {thread : ProviderThread}
      {kind : ProviderKind} (found : Option Nat)
      (isInitializing : thread.control = .fetching kind .initializing) :
      ProviderMove place process thread (process.initializeProvider kind found)
        (thread.moveTo kind .checking)
  | passes {place : Nat} {process : ProviderProcess} {thread : ProviderThread}
      {kind : ProviderKind} (isEntering : thread.control = .fetching kind .entering)
      (done : process.once kind = .done) :
      ProviderMove place process thread process (thread.moveTo kind .checking)
  | misses {place : Nat} {process : ProviderProcess} {thread : ProviderThread}
      {kind : ProviderKind} (isChecking : thread.control = .fetching kind .checking)
      (missing : process.provider kind = none) :
      ProviderMove place process thread process (thread.returns none)
  | finds {place : Nat} {process : ProviderProcess} {thread : ProviderThread}
      {kind : ProviderKind} {object : Nat}
      (isChecking : thread.control = .fetching kind .checking)
      (found : process.provider kind = some object) :
      ProviderMove place process thread process (thread.moveTo kind .cleaning)
  /-- The result of `CRYPTO_THREAD_run_once` is not looked at here. -/
  | cleanupFails {place : Nat} {process : ProviderProcess} {thread : ProviderThread}
      {kind : ProviderKind} (isCleaning : thread.control = .fetching kind .cleaning) :
      ProviderMove place process thread process (thread.moveTo kind .returning)
  | beginsCleanup {place : Nat} {process : ProviderProcess} {thread : ProviderThread}
      {kind : ProviderKind} (isCleaning : thread.control = .fetching kind .cleaning)
      (idle : process.cleanupOnce = .idle) :
      ProviderMove place process thread { process with cleanupOnce := .running }
        (thread.moveTo kind .registering)
  | registers {place : Nat} {process : ProviderProcess} {thread : ProviderThread}
      {kind : ProviderKind} (registered : Bool)
      (isRegistering : thread.control = .fetching kind .registering) :
      ProviderMove place process thread (process.registerCryptoCleanup registered)
        (thread.moveTo kind .returning)
  | passesCleanup {place : Nat} {process : ProviderProcess} {thread : ProviderThread}
      {kind : ProviderKind} (isCleaning : thread.control = .fetching kind .cleaning)
      (done : process.cleanupOnce = .done) :
      ProviderMove place process thread process (thread.moveTo kind .returning)
  | returns {place : Nat} {process : ProviderProcess} {thread : ProviderThread}
      {kind : ProviderKind} (isReturning : thread.control = .fetching kind .returning) :
      ProviderMove place process thread process
        (thread.returns ((process.provider kind).map fun object => ⟨kind, object, true⟩))
  /-- `_csgdb_internal_evp_mac_free` of the object of the cache. -/
  | keeps {place : Nat} {process : ProviderProcess} {thread : ProviderThread}
      {handle : ProviderHandle} (isOutside : thread.control = .outside)
      (has : handle ∈ thread.handles) (isMac : handle.kind = .hmac)
      (same : process.provider .hmac = some handle.object) :
      ProviderMove place process thread
        { process with leaked := if handle.borrowed then process.leaked else
            Function.update process.leaked handle.object (process.leaked handle.object + 1) }
        { thread with handles := thread.handles.erase handle }
  | compares {place : Nat} {process : ProviderProcess} {thread : ProviderThread}
      {handle : ProviderHandle} (isOutside : thread.control = .outside)
      (has : handle ∈ thread.handles) (isMac : handle.kind = .hmac)
      (differs : process.provider .hmac ≠ some handle.object) :
      ProviderMove place process thread process
        { handles := thread.handles.erase handle, control := .freeing handle }
  | frees {place : Nat} {process : ProviderProcess} {thread : ProviderThread}
      {handle : ProviderHandle} (isFreeing : thread.control = .freeing handle) :
      ProviderMove place process thread (process.free .hmac (some handle.object))
        { thread with control := .outside }
  /-- A cipher is not freed. -/
  | forgets {place : Nat} {process : ProviderProcess} {thread : ProviderThread}
      {handle : ProviderHandle} (isOutside : thread.control = .outside)
      (has : handle ∈ thread.handles) (isCipher : handle.kind = .aes) :
      ProviderMove place process thread process
        { thread with handles := thread.handles.erase handle }
  | exits {place : Nat} {process : ProviderProcess} {thread : ProviderThread}
      (isOutside : thread.control = .outside) (notYet : process.exited = false) :
      ProviderMove place process thread process.exit { thread with control := .stopped }

/-- A process with any number of threads, before their first calls. -/
def providerStart (threads : Nat) : Interleaving ProviderProcess ProviderThread where
  shared := .initial
  threads := List.replicate threads .fresh

end Csgdb.Crypto
