/-
Module: Csgdb.Storage.Opening
Purpose: `Connection::open_with_access`, step by step, next to other opens of the process:
  they share the files, the cipher defaults and the lock that is held while a connection
  is keyed.
Trusted boundary: the documented behaviour of the engine is a named assumption.
Main exports: Process, Attempt, Phase, Opening, OpenStep, Openings, Engine.Documented
-/
import Csgdb.Foundation.Interleaving
import Csgdb.Storage.Open
import Mathlib.Logic.Function.Basic

namespace Csgdb.Storage

open Foundation

variable {Location : Type}

/-- What the opens of a process share.  `CIPHER_PROFILE_LOCK` names its holder; a location
without content has no file. -/
structure Process (Location : Type) where
  files : Location → Option Content
  defaults : CipherSettings
  profileLock : Option Nat

/-- What is at the location of a request.  Databases in memory are private, and nobody has
written to one that is being opened. -/
def Process.look (process : Process Location) : Option Location → Option Content
  | some location => process.files location
  | none => some .empty

/-- The process after something was put at a location. -/
def Process.put [DecidableEq Location] (process : Process Location)
    (location : Option Location) (content : Content) : Process Location :=
  match location with
  | some location =>
      { process with files := Function.update process.files location (some content) }
  | none => process

/-! ## One open -/

/-- Attempts to key a connection.  Later ones remember the error of the first. -/
inductive Attempt where
  | current (legacyCandidate : Bool)
  | previous (primaryError : Error)
  | legacy (primaryError : Error)
deriving Repr, DecidableEq

def Attempt.profile : Attempt → CipherProfile
  | .current _ => .current
  | .previous _ => .previous
  | .legacy _ => .legacy

/-- A connection that is opened to be keyed, or without a key. -/
inductive Trial where
  | keyed (attempt : Attempt)
  | plaintext
deriving Repr, DecidableEq

/-- Where an open is. -/
inductive Phase where
  | called
  | opening (trial : Trial)
  | opened (trial : Trial)
  | locked (attempt : Attempt)
  | hmacUpdated (attempt : Attempt)
  | pageSizeUpdated (attempt : Attempt)
  | keyApplied (attempt : Attempt) (answer : Result Cipher)
  | keyed (attempt : Attempt) (cipher : Cipher)
  | verified (cipher : Option Cipher)
  | configuring (cipher : Option Cipher) (left : List Pragma)
  | returned (answer : Result OpenedConnection)
  | panicked

/-- What an open has seen: at its location and under its path when it was called, and at
its location when it last read a page.  Nothing depends on it but what is said about
opens. -/
structure Sight where
  found : Option Content
  probed : Option Content
  lastRead : Option Content

structure Opening where
  request : OpenRequest
  sight : Sight
  phase : Phase

def OpenRequest.location (request : OpenRequest) (engine : Engine Location) :
    Option Location :=
  engine.located request.flags request.plan.vfs request.plan.path

/-- The bytes of the key. -/
def OpenRequest.key (request : OpenRequest) : List UInt8 :=
  (request.plan.key.map keyBytes).getD []

/-- An open that is about to begin. -/
def OpenRequest.call (request : OpenRequest) : Opening where
  request := request
  sight := { found := none, probed := none, lastRead := none }
  phase := .called

/-- Whether `metadata` finds bytes. -/
def legacyCandidate (probed : Option Content) : Bool :=
  probed.any Content.nonempty

/-- The first connection. -/
def Opening.firstTrial (security : SecurityMode) (probed : Option Content) : Trial :=
  match security with
  | .encrypted => .keyed (.current (legacyCandidate probed))
  | .plaintext => .plaintext

/-- What follows the verification of an attempt. -/
def Attempt.next (attempt : Attempt) (cipher : Cipher) (answer : Result Unit) : Phase :=
  match attempt, answer with
  | _, .ok () => .verified (some cipher)
  | .current true, .error primaryError => .opening (.keyed (.previous primaryError))
  | .current false, .error error => .returned (.error error)
  | .previous primaryError, .error _ => .opening (.keyed (.legacy primaryError))
  | .legacy primaryError, .error _ => .returned (.error primaryError)

def Phase.afterUnlock (attempt : Attempt) : Result Cipher → Phase
  | .ok cipher => .keyed attempt cipher
  | .error error => .returned (.error error)

def Phase.afterPlaintext : Result Unit → Phase
  | .ok () => .verified none
  | .error error => .returned (.error error)

namespace Opening

def enter (opening : Opening) (phase : Phase) : Opening :=
  { opening with phase := phase }

/-- The open after it read a page. -/
def reading (opening : Opening) (content : Content) (phase : Phase) : Opening :=
  { opening with sight := { opening.sight with lastRead := some content }, phase := phase }

end Opening

def hmacPragma (settings : CipherSettings) : Pragma :=
  { name := "cipher_default_hmac_algorithm", value := .text settings.hmacAlgorithm }

def pageSizePragma (settings : CipherSettings) : Pragma :=
  { name := "cipher_default_page_size", value := .integer settings.pageSize }

/-! ## Steps -/

section Steps

variable [DecidableEq Location] (engine : Engine Location)

/-- One atomic step of the open that is at `place` in the list. -/
inductive OpenStep (place : Nat) :
    Process Location → Opening → Process Location → Opening → Prop
  | probed {process : Process Location} {opening : Opening} {probed : Option Content}
      (here : opening.phase = .called)
      (finds : process.files (engine.metadata opening.request.plan.path) = probed) :
      OpenStep place process opening process
        { opening with
          sight :=
            { found := process.look (opening.request.location engine)
              probed := probed
              lastRead := none }
          phase := .opening (Opening.firstTrial opening.request.plan.security probed) }
  | opened {process : Process Location} {opening : Opening} {trial : Trial}
      {before : Option Content} (here : opening.phase = .opening trial)
      (there : process.look (opening.request.location engine) = before)
      (opens : engine.openFile opening.request.flags before = .ok ()) :
      OpenStep place process opening
        (process.put (opening.request.location engine) (before.getD .empty))
        (opening.enter (.opened trial))
  | openFailed {process : Process Location} {opening : Opening} {trial : Trial}
      {error : EngineError} (here : opening.phase = .opening trial)
      (fails : engine.openFile opening.request.flags
        (process.look (opening.request.location engine)) = .error error) :
      OpenStep place process opening process
        (opening.enter (.returned (.error (mapOpenError error))))
  | locked {process : Process Location} {opening : Opening} {attempt : Attempt}
      (here : opening.phase = .opened (.keyed attempt)) (free : process.profileLock = none) :
      OpenStep place process opening { process with profileLock := some place }
        (opening.enter (.locked attempt))
  | hmacUpdated {process : Process Location} {opening : Opening} {attempt : Attempt}
      (here : opening.phase = .locked attempt)
      (updates : engine.pragmaUpdate (hmacPragma attempt.profile.settings) = .ok ()) :
      OpenStep place process opening
        { process with
          defaults :=
            { process.defaults with
              hmacAlgorithm := attempt.profile.settings.hmacAlgorithm } }
        (opening.enter (.hmacUpdated attempt))
  | hmacFailed {process : Process Location} {opening : Opening} {attempt : Attempt}
      {error : EngineError} (here : opening.phase = .locked attempt)
      (fails : engine.pragmaUpdate (hmacPragma attempt.profile.settings) = .error error) :
      OpenStep place process opening process
        (opening.enter (.keyApplied attempt (.error (mapStorageError error))))
  | pageSizeUpdated {process : Process Location} {opening : Opening} {attempt : Attempt}
      (here : opening.phase = .hmacUpdated attempt)
      (updates : engine.pragmaUpdate (pageSizePragma attempt.profile.settings) = .ok ()) :
      OpenStep place process opening
        { process with
          defaults :=
            { process.defaults with pageSize := attempt.profile.settings.pageSize } }
        (opening.enter (.pageSizeUpdated attempt))
  | pageSizeFailed {process : Process Location} {opening : Opening} {attempt : Attempt}
      {error : EngineError} (here : opening.phase = .hmacUpdated attempt)
      (fails : engine.pragmaUpdate (pageSizePragma attempt.profile.settings) =
        .error error) :
      OpenStep place process opening process
        (opening.enter (.keyApplied attempt (.error (mapStorageError error))))
  | keyApplied {process : Process Location} {opening : Opening} {attempt : Attempt}
      (here : opening.phase = .pageSizeUpdated attempt) :
      OpenStep place process opening process
        (opening.enter (.keyApplied attempt
          (applyKey engine opening.request.plan.key process.defaults)))
  | unlocked {process : Process Location} {opening : Opening} {attempt : Attempt}
      {answer : Result Cipher} (here : opening.phase = .keyApplied attempt answer) :
      OpenStep place process opening { process with profileLock := none }
        (opening.enter (.afterUnlock attempt answer))
  | verified {process : Process Location} {opening : Opening} {attempt : Attempt}
      {cipher : Cipher} {content : Content} (here : opening.phase = .keyed attempt cipher)
      (holds : (process.look (opening.request.location engine)).getD .empty = content) :
      OpenStep place process opening process
        (opening.reading content
          (attempt.next cipher (verifyDatabase engine (some cipher) content)))
  | plaintextVerified {process : Process Location} {opening : Opening} {content : Content}
      (here : opening.phase = .opened .plaintext)
      (holds : (process.look (opening.request.location engine)).getD .empty = content) :
      OpenStep place process opening process
        (opening.reading content (.afterPlaintext (verifyDatabase engine none content)))
  | timed {process : Process Location} {opening : Opening} {cipher : Option Cipher}
      (here : opening.phase = .verified cipher)
      (inRange : opening.request.plan.busyTimeout ≤ maxBusyTimeoutMillis) :
      OpenStep place process opening process
        (opening.enter (.configuring cipher (configurePragmas opening.request)))
  -- The engine's wrapper panics on a timeout that is out of range.
  | timeoutPanicked {process : Process Location} {opening : Opening}
      {cipher : Option Cipher} (here : opening.phase = .verified cipher)
      (outOfRange : maxBusyTimeoutMillis < opening.request.plan.busyTimeout) :
      OpenStep place process opening process (opening.enter .panicked)
  -- The journal mode is kept in the first page, which is written if there is none.
  | journalled {process : Process Location} {opening : Opening} {cipher : Option Cipher}
      {pragma : Pragma} {left : List Pragma} {content : Content}
      (here : opening.phase = .configuring cipher (pragma :: left))
      (journal : pragma.name = "journal_mode")
      (holds : (process.look (opening.request.location engine)).getD .empty = content)
      (reads : engine.read cipher content = .ok ()) :
      OpenStep place process opening
        (process.put (opening.request.location engine)
          (if content.nonempty then content else .initialized cipher))
        (opening.reading content (.configuring cipher left))
  | journalFailed {process : Process Location} {opening : Opening}
      {cipher : Option Cipher} {pragma : Pragma} {left : List Pragma} {content : Content}
      {error : EngineError} (here : opening.phase = .configuring cipher (pragma :: left))
      (journal : pragma.name = "journal_mode")
      (holds : (process.look (opening.request.location engine)).getD .empty = content)
      (fails : engine.read cipher content = .error error) :
      OpenStep place process opening process
        (opening.reading content (.returned (.error (mapStorageError error))))
  | pragmaUpdated {process : Process Location} {opening : Opening}
      {cipher : Option Cipher} {pragma : Pragma} {left : List Pragma}
      (here : opening.phase = .configuring cipher (pragma :: left))
      (other : pragma.name ≠ "journal_mode") (updates : engine.pragmaUpdate pragma = .ok ()) :
      OpenStep place process opening process (opening.enter (.configuring cipher left))
  | pragmaFailed {process : Process Location} {opening : Opening} {cipher : Option Cipher}
      {pragma : Pragma} {left : List Pragma} {error : EngineError}
      (here : opening.phase = .configuring cipher (pragma :: left))
      (other : pragma.name ≠ "journal_mode")
      (fails : engine.pragmaUpdate pragma = .error error) :
      OpenStep place process opening process
        (opening.enter (.returned (.error (mapStorageError error))))
  | configured {process : Process Location} {opening : Opening} {cipher : Option Cipher}
      (here : opening.phase = .configuring cipher []) :
      OpenStep place process opening process
        (opening.enter (.returned (.ok
          { cipher := cipher, security := opening.request.plan.security })))

/-- Opens of one process. -/
abbrev Openings (Location : Type) := Interleaving (Process Location) Opening

/-- A process that is about to open databases. -/
def Openings.initial (files : Location → Option Content) (defaults : CipherSettings)
    (requests : List OpenRequest) : Openings Location where
  shared := { files := files, defaults := defaults, profileLock := none }
  threads := requests.map OpenRequest.call

end Steps

/-! ## The engine -/

/-- Documented behaviour of the engine: it opens a file that is there or may be created,
takes keys and pragmas, and reads what is empty or what the codec of the connection
wrote. -/
structure Engine.Documented (engine : Engine Location) : Prop where
  opens : ∀ (flags : SqlOpenFlags) (content : Option Content),
    engine.openFile flags content = .ok () ↔ content ≠ none ∨ flags.create = true
  keys : ∀ bytes, engine.key bytes = sqliteKeyed
  updates : ∀ pragma, engine.pragmaUpdate pragma = .ok ()
  reads : ∀ (cipher : Cipher) (content : Content),
    engine.read (some cipher) content = .ok () ↔
      content = .empty ∨ content = .written cipher.settings cipher.key

end Csgdb.Storage
