/-
Module: Csgdb.Proofs.ProviderReferences
Purpose: The provider references of the page codec: looked up at most once, alive for as
  long as a thread has to do with them, and given back at exit.
Trusted boundary: none
Main exports: ProviderSound, ProviderSound.runs, provider_references_balanced
-/
import Csgdb.Crypto.ProviderLifetime

namespace Csgdb.Crypto

open Foundation

/-! ## What a thread amounts to -/

namespace FetchStage

/-- The guard of the provider has been passed. -/
def passed : FetchStage → Bool
  | .entering | .initializing => false
  | .checking | .cleaning | .registering | .returning => true

/-- The provider was not `NULL`. -/
def found : FetchStage → Bool
  | .entering | .initializing | .checking => false
  | .cleaning | .registering | .returning => true

end FetchStage

namespace ProviderThread

def initializing (kind : ProviderKind) (thread : ProviderThread) : Nat :=
  if thread.control = .fetching kind .initializing then 1 else 0

def registering (thread : ProviderThread) : Nat :=
  match thread.control with
  | .fetching _ .registering => 1
  | _ => 0

theorem initializing_pos {kind : ProviderKind} {thread : ProviderThread}
    (inside : 0 < thread.initializing kind) :
    thread.control = .fetching kind .initializing := by
  unfold initializing at inside
  split at inside
  · assumption
  · cases inside

theorem registering_pos {thread : ProviderThread} (inside : 0 < thread.registering) :
    ∃ kind, thread.control = .fetching kind .registering := by
  unfold registering at inside
  split at inside
  · exact ⟨_, ‹_›⟩
  · cases inside

def owns (object : Nat) (handle : ProviderHandle) : Bool :=
  !handle.borrowed && handle.object == object

/-- References to an object that the thread has to give back. -/
def owned (object : Nat) (thread : ProviderThread) : Nat :=
  thread.held.countP (owns object)

variable {thread : ProviderThread}

theorem held_eq (notFreeing : ∀ handle, thread.control ≠ .freeing handle) :
    thread.held = thread.handles := by
  unfold held
  split
  · exact absurd ‹_› (notFreeing _)
  · rfl

theorem held_outside (isOutside : thread.control = .outside) :
    thread.held = thread.handles :=
  held_eq fun handle => by rw [isOutside]; nofun

theorem held_fetching {kind : ProviderKind} {stage : FetchStage}
    (isFetching : thread.control = .fetching kind stage) : thread.held = thread.handles :=
  held_eq fun handle => by rw [isFetching]; nofun

@[simp]
theorem held_moveTo (kind : ProviderKind) (stage : FetchStage) :
    (thread.moveTo kind stage).held = thread.handles := rfl

@[simp]
theorem held_returns (result : Option ProviderHandle) :
    (thread.returns result).held = result.toList ++ thread.handles := rfl

/-- One handle less. -/
theorem countP_erase {handle : ProviderHandle} {handles : List ProviderHandle}
    (has : handle ∈ handles) (object : Nat) :
    handles.countP (owns object) =
      (handles.erase handle).countP (owns object) + if owns object handle then 1 else 0 := by
  rw [(List.perm_cons_erase has).countP_eq, List.countP_cons]

end ProviderThread

/-! ## What a move does -/

namespace ProviderProcess

/-- Handlers only release the providers. -/
theorem runHandlers_frame (handlers : Nat) (process : ProviderProcess) :
    (runHandlers handlers process).once = process.once ∧
      (runHandlers handlers process).cleanupOnce = process.cleanupOnce ∧
      (runHandlers handlers process).fetches = process.fetches ∧
      (runHandlers handlers process).registrations = process.registrations ∧
      (runHandlers handlers process).leaked = process.leaked := by
  induction handlers generalizing process with
  | zero => exact ⟨rfl, rfl, rfl, rfl, rfl⟩
  | succ handlers inductionHypothesis =>
      obtain ⟨once, cleanup, fetches, registrations, leaked⟩ :=
        inductionHypothesis process.releaseCryptoProviders
      exact ⟨once, cleanup, fetches, registrations, leaked⟩

@[simp]
theorem release_provider (process : ProviderProcess) (kind : ProviderKind) :
    process.releaseCryptoProviders.provider kind = none := by
  cases kind <;> simp [releaseCryptoProviders, setProvider, free]

theorem runHandlers_unset {kind : ProviderKind} (handlers : Nat) {process : ProviderProcess}
    (unset : process.provider kind = none) :
    (runHandlers handlers process).provider kind = none := by
  induction handlers generalizing process with
  | zero => exact unset
  | succ handlers inductionHypothesis =>
      exact inductionHypothesis (process.release_provider kind)

end ProviderProcess

namespace ProviderMove

variable {place : Nat} {process process' : ProviderProcess} {thread thread' : ProviderThread}

/-- What a move does to the guard of a provider. -/
theorem discovery (moved : ProviderMove place process thread process' thread')
    (kind : ProviderKind) :
    Once.Moves (process.once kind) (process'.once kind) (thread.initializing kind)
      (thread'.initializing kind) (process.fetches kind) (process'.fetches kind) := by
  cases moved with
  | @begins kind' isEntering idle =>
      by_cases same : kind' = kind
      · subst same
        simpa [ProviderProcess.setOnce, ProviderThread.initializing, ProviderThread.moveTo,
          isEntering, idle] using Once.Moves.begins (process.fetches kind')
      · simp only [ProviderProcess.setOnce, Function.update_of_ne (Ne.symm same)]
        exact .still (by
          simp [ProviderThread.initializing, isEntering, ProviderThread.moveTo, same])
  | @initializes kind' found isInitializing =>
      by_cases same : kind' = kind
      · subst same
        have completes := Once.Moves.completes (process.once kind') (process.fetches kind')
        cases found <;>
          simpa [ProviderProcess.initializeProvider, ProviderProcess.setOnce,
            ProviderThread.initializing, ProviderThread.moveTo, isInitializing] using completes
      · cases found <;>
        · simp only [ProviderProcess.initializeProvider, ProviderProcess.setOnce,
            ProviderProcess.setProvider, ProviderProcess.fetch,
            Function.update_of_ne (Ne.symm same)]
          exact .still (by
            simp [ProviderThread.initializing, isInitializing, ProviderThread.moveTo, same])
  | exits isOutside =>
      obtain ⟨once, -, fetches, -⟩ := ProviderProcess.runHandlers_frame process.handlers process
      simp only [ProviderProcess.exit, once, fetches]
      exact .still (by simp [ProviderThread.initializing, isOutside])
  | passesOn _ _ here | passesOnMissing _ here | fetchesMac _ here | fetchesCipher here
  | guardFails here | passes here | misses here | finds here | cleanupFails here
  | beginsCleanup here | registers _ here | passesCleanup here | returns here | keeps here
  | compares here | frees here | forgets here =>
      exact .still (by
        simp [ProviderThread.initializing, here, ProviderThread.moveTo, ProviderThread.returns])

/-- What a move does to the guard of the cleanup. -/
theorem cleanup (moved : ProviderMove place process thread process' thread') :
    Once.Moves process.cleanupOnce process'.cleanupOnce thread.registering
      thread'.registering process.registrations process'.registrations := by
  cases moved with
  | beginsCleanup isCleaning idle =>
      simp only [idle, ProviderThread.registering, isCleaning, ProviderThread.moveTo]
      exact .begins _
  | registers registered isRegistering =>
      simp only [ProviderProcess.registerCryptoCleanup, ProviderThread.registering,
        isRegistering, ProviderThread.moveTo]
      exact .completes _ _
  | exits isOutside =>
      obtain ⟨-, once, -, registrations, -⟩ :=
        ProviderProcess.runHandlers_frame process.handlers process
      simp only [ProviderProcess.exit, once, registrations]
      exact .still (by simp [ProviderThread.registering, isOutside])
  | initializes found here =>
      cases found <;>
        exact .still (by simp [ProviderThread.registering, here, ProviderThread.moveTo])
  | passesOn _ _ here | passesOnMissing _ here | fetchesMac _ here | fetchesCipher here
  | guardFails here | begins here | passes here | misses here | finds here
  | cleanupFails here | passesCleanup here | returns here | keeps here
  | compares here | frees here | forgets here =>
      exact .still (by
        simp [ProviderThread.registering, here, ProviderThread.moveTo, ProviderThread.returns])

end ProviderMove

/-! ## What a thread may rely on -/

/-- What the moves of other threads leave alone. -/
structure Steady (process process' : ProviderProcess) : Prop where
  exits : process.exited = true → process'.exited = true
  done : ∀ kind, process.once kind = .done → process'.once kind = .done
  kept : process'.exited = false → ∀ kind object, process.provider kind = some object →
    process'.provider kind = some object

theorem Steady.running {process process' : ProviderProcess} (steady : Steady process process')
    (running : process'.exited = false) : process.exited = false := by
  cases exited : process.exited with
  | false => rfl
  | true => rw [steady.exits exited] at running; cases running

/-- A borrowed object is the one of the cache, until the process exits. -/
structure HandleSound (process : ProviderProcess) (handle : ProviderHandle) : Prop where
  owned : handle.borrowed = false → handle.kind = .hmac
  borrowed : process.exited = false → handle.borrowed = true →
    process.provider handle.kind = some handle.object

/-- Where a thread is tells what was done before. -/
def ControlSound (process : ProviderProcess) : ProviderControl → Prop
  | .fetching kind stage => (stage.passed = true → process.once kind = .done) ∧
      (stage.found = true → process.exited = false → (process.provider kind).isSome = true)
  | .freeing handle => process.exited = false → handle.borrowed = false
  | .outside | .stopped => True

structure ThreadSound (process : ProviderProcess) (thread : ProviderThread) : Prop where
  handles : ∀ handle ∈ thread.held, HandleSound process handle
  control : ControlSound process thread.control

section Threads

variable {place : Nat} {process process' : ProviderProcess} {thread thread' : ProviderThread}

theorem HandleSound.steady {handle : ProviderHandle} (sound : HandleSound process handle)
    (steady : Steady process process') : HandleSound process' handle where
  owned := sound.owned
  borrowed running isBorrowed :=
    steady.kept running _ _ (sound.borrowed (steady.running running) isBorrowed)

theorem ControlSound.steady {control : ProviderControl} (sound : ControlSound process control)
    (steady : Steady process process') : ControlSound process' control := by
  cases control with
  | fetching kind stage =>
      refine ⟨fun passed => steady.done kind (sound.1 passed), fun found running => ?_⟩
      obtain ⟨object, present⟩ :=
        Option.isSome_iff_exists.mp (sound.2 found (steady.running running))
      rw [steady.kept running kind object present]
      rfl
  | freeing handle => exact fun running => sound (steady.running running)
  | outside | stopped => trivial

/-- The moves of other threads. -/
theorem ThreadSound.steady (sound : ThreadSound process thread)
    (steady : Steady process process') : ThreadSound process' thread where
  handles handle member := (sound.handles handle member).steady steady
  control := sound.control.steady steady

namespace ProviderMove

theorem once_done (moved : ProviderMove place process thread process' thread')
    {kind : ProviderKind} (done : process.once kind = .done) : process'.once kind = .done :=
  (moved.discovery kind).done done

/-- The variable of a provider is set behind its guard, and unset at exit. -/
theorem provider_eq (moved : ProviderMove place process thread process' thread')
    (kind : ProviderKind) : process'.provider kind = process.provider kind ∨
      thread.control = .fetching kind .initializing ∨ process'.exited = true := by
  cases moved with
  | @initializes kind' found isInitializing =>
      by_cases same : kind = kind'
      · subst same
        exact .inr (.inl isInitializing)
      · left
        cases found <;>
          exact Function.update_of_ne same _ _
  | exits => exact .inr (.inr rfl)
  | _ => exact .inl rfl

theorem exited_mono (moved : ProviderMove place process thread process' thread')
    (exited : process.exited = true) : process'.exited = true := by
  cases moved with
  | initializes found => cases found <;> exact exited
  | exits => rfl
  | _ => exact exited

/-- A move leaves alone what other threads rely on. -/
theorem steady (moved : ProviderMove place process thread process' thread')
    (unset : ∀ kind, thread.control = .fetching kind .initializing →
      process.provider kind = none) : Steady process process' where
  exits := moved.exited_mono
  done _ := moved.once_done
  kept running kind object present := by
    rcases moved.provider_eq kind with same | initializing | exited
    · rw [same, present]
    · rw [unset kind initializing] at present
      cases present
    · rw [exited] at running
      cases running

/-- The handles that a thread has after a move are old ones, or sound. -/
theorem handles (moved : ProviderMove place process thread process' thread') :
    ∀ handle ∈ thread'.held, handle ∈ thread.held ∨ HandleSound process' handle := by
  intro handle member
  cases moved with
  | passesOn request object isOutside other =>
      rcases List.mem_cons.mp member with rfl | old
      · exact .inr ⟨fun _ => rfl, nofun⟩
      · rw [ProviderThread.held_outside isOutside]
        exact .inl old
  | @returns kind isReturning =>
      rw [ProviderThread.held_returns, List.mem_append] at member
      rcases member with new | old
      · obtain ⟨object, found, rfl⟩ := Option.map_eq_some_iff.mp (Option.mem_toList.mp new)
        exact .inr ⟨nofun, fun _ _ => found⟩
      · rw [ProviderThread.held_fetching isReturning]
        exact .inl old
  | keeps isOutside | forgets isOutside =>
      rw [ProviderThread.held_eq (by simp [isOutside])] at member
      rw [ProviderThread.held_outside isOutside]
      exact .inl (List.mem_of_mem_erase member)
  | compares isOutside has =>
      rw [ProviderThread.held_outside isOutside]
      rcases List.mem_cons.mp member with rfl | old
      · exact .inl has
      · exact .inl (List.mem_of_mem_erase old)
  | frees isFreeing =>
      left
      simp only [ProviderThread.held, isFreeing]
      exact List.mem_cons_of_mem _ member
  | passesOnMissing _ here | fetchesMac _ here | fetchesCipher here | exits here =>
      rw [ProviderThread.held_outside here]
      exact .inl member
  | guardFails here | begins here | initializes _ here | passes here | misses here
  | finds here | cleanupFails here | beginsCleanup here | registers _ here
  | passesCleanup here =>
      rw [ProviderThread.held_fetching here]
      exact .inl member

/-- Where a thread is after a move. -/
theorem control (moved : ProviderMove place process thread process' thread')
    (sound : ThreadSound process thread) : ControlSound process' thread'.control := by
  have before := sound.control
  cases moved with
  | passesOn | passesOnMissing | guardFails | misses | returns | frees | exits => trivial
  | fetchesMac | fetchesCipher | begins => exact ⟨nofun, nofun⟩
  | initializes found =>
      refine ⟨fun _ => ?_, nofun⟩
      cases found <;> exact Function.update_self _ _ _
  | passes _ done => exact ⟨fun _ => done, nofun⟩
  | finds isChecking found =>
      rw [isChecking] at before
      exact ⟨fun _ => before.1 rfl, fun _ _ => by rw [found]; rfl⟩
  | cleanupFails here | beginsCleanup here | registers _ here | passesCleanup here =>
      rw [here] at before
      exact ⟨fun _ => before.1 rfl, fun _ => before.2 rfl⟩
  | keeps isOutside | forgets isOutside =>
      simp only [isOutside]
      trivial
  | @compares handle isOutside has isMac differs =>
      intro running
      cases isBorrowed : handle.borrowed with
      | false => rfl
      | true =>
          rw [← ProviderThread.held_outside isOutside] at has
          have same := (sound.handles handle has).borrowed running isBorrowed
          rw [isMac] at same
          exact absurd same differs

/-- A thread keeps what it relies on when it moves. -/
theorem threadSound (moved : ProviderMove place process thread process' thread')
    (steady : Steady process process') (sound : ThreadSound process thread) :
    ThreadSound process' thread' where
  handles handle member :=
    (moved.handles handle member).elim
      (fun old => (sound.handles handle old).steady steady) id
  control := moved.control sound

end ProviderMove

end Threads

/-! ## References -/

namespace ProviderProcess

/-- The reference that the cache has to an object. -/
def cached (process : ProviderProcess) (kind : ProviderKind) (object : Nat) : Nat :=
  if process.provider kind = some object then 1 else 0

variable {process : ProviderProcess} {kind other : ProviderKind} {object another : Nat}

theorem count_apply (references : ProviderKind → Nat → Nat) (change : Nat → Nat) :
    count references kind object change other another =
      if other = kind ∧ another = object then change (references other another)
      else references other another := by
  unfold count
  by_cases sameKind : other = kind
  · subst sameKind
    by_cases same : another = object
    · subst same
      simp
    · simp [same]
  · simp [sameKind]

@[simp]
theorem fetch_references : (process.fetch kind object).references other another =
    process.references other another + if other = kind ∧ another = object then 1 else 0 :=
  (count_apply process.references (· + 1)).trans (by split <;> rfl)

@[simp]
theorem free_references : (process.free kind (some object)).references other another =
    process.references other another - if other = kind ∧ another = object then 1 else 0 :=
  (count_apply process.references (· - 1)).trans (by split <;> rfl)

@[simp]
theorem fetch_cached : (process.fetch kind object).cached other another =
    process.cached other another := rfl

@[simp]
theorem free_cached {freed : Option Nat} :
    (process.free kind freed).cached other another = process.cached other another := rfl

theorem initializeProvider_provider (found : Option Nat) :
    (process.initializeProvider kind found).provider other =
      if other = kind then found else process.provider other := by
  by_cases same : other = kind
  · subst same
    cases found <;> simp [initializeProvider, setOnce, setProvider, fetch]
  · cases found <;> simp [initializeProvider, setOnce, setProvider, fetch, same]

/-- What an initialization fetches is in the cache. -/
theorem initializeProvider_balance (unset : process.provider kind = none)
    (found : Option Nat) :
    (process.initializeProvider kind found).references other another +
        process.cached other another =
      process.references other another +
        (process.initializeProvider kind found).cached other another := by
  unfold cached
  rw [initializeProvider_provider]
  cases found with
  | none =>
      change process.references other another + _ = _
      by_cases same : other = kind
      · simp [same, unset]
      · simp [same]
  | some object =>
      change (process.fetch kind object).references other another + _ = _
      rw [fetch_references]
      by_cases same : other = kind
      · by_cases this : another = object
        · simp [same, this, unset]
        · simp [same, this, Ne.symm this, unset]
      · simp [same]

end ProviderProcess

namespace ProviderThread

variable {thread : ProviderThread} {object : Nat}

theorem owned_outside (isOutside : thread.control = .outside) :
    thread.owned object = thread.handles.countP (owns object) := by
  rw [owned, held_outside isOutside]

/-- A thread that gives a handle up. -/
theorem owned_erase {handle : ProviderHandle} (isOutside : thread.control = .outside)
    (has : handle ∈ thread.handles) :
    thread.owned object = ({ thread with handles := thread.handles.erase handle }).owned object +
      if owns object handle then 1 else 0 := by
  have after : ({ thread with handles := thread.handles.erase handle }).owned object =
      (thread.handles.erase handle).countP (owns object) := owned_outside isOutside
  rw [owned_outside isOutside, after, countP_erase has object]

theorem owned_fetching {kind : ProviderKind} {stage : FetchStage}
    (isFetching : thread.control = .fetching kind stage) :
    thread.owned object = thread.handles.countP (owns object) := by
  rw [owned, held_fetching isFetching]

theorem owned_freeing {handle : ProviderHandle} (isFreeing : thread.control = .freeing handle) :
    thread.owned object =
      thread.handles.countP (owns object) + if owns object handle then 1 else 0 := by
  rw [owned, held, isFreeing, List.countP_cons]

end ProviderThread

namespace ProviderMove

variable {place : Nat} {process process' : ProviderProcess} {thread thread' : ProviderThread}

/-- The references to an object, and those who have them, change alike. -/
theorem balance (moved : ProviderMove place process thread process' thread')
    (running : process'.exited = false)
    (sound : ThreadSound process thread)
    (unset : ∀ kind, thread.control = .fetching kind .initializing →
      process.provider kind = none)
    (enough : ∀ object, thread.owned object ≤ process.references .hmac object)
    (object : Nat) :
    process'.references .hmac object + thread.owned object + process.cached .hmac object +
        process.leaked object =
      process.references .hmac object + thread'.owned object + process'.cached .hmac object +
        process'.leaked object := by
  cases moved with
  | passesOn request found isOutside other =>
      rw [ProviderThread.owned_outside isOutside, ProviderThread.owned_outside rfl]
      simp only [ProviderProcess.fetch_references, ProviderProcess.fetch_cached,
        ProviderThread.returns, Option.toList_some, List.singleton_append, List.countP_cons]
      change _ + process.leaked object = _ + process.leaked object
      by_cases same : object = found
      · simp [ProviderThread.owns, same]
        omega
      · simp [ProviderThread.owns, same, Ne.symm same]
  | @initializes kind found isInitializing =>
      have balanced := @ProviderProcess.initializeProvider_balance process kind .hmac object
        (unset kind isInitializing) found
      have sameLeaked : (process.initializeProvider kind found).leaked = process.leaked := by
        cases found <;> rfl
      have sameOwned : (thread.moveTo kind .checking).owned object = thread.owned object := by
        rw [ProviderThread.owned_fetching isInitializing, ProviderThread.owned_fetching rfl]
        rfl
      rw [sameOwned, sameLeaked]
      omega
  | @returns kind isReturning =>
      rw [ProviderThread.owned_fetching isReturning, ProviderThread.owned_outside rfl]
      cases process.provider kind <;> simp [ProviderThread.owns, ProviderThread.returns]
  | @keeps handle isOutside has isMac same =>
      rw [ProviderThread.owned_erase isOutside has]
      change _ + _ + process.cached .hmac object + _ = _ + _ + process.cached .hmac object + _
      cases isBorrowed : handle.borrowed with
      | true => simp [ProviderThread.owns, isBorrowed]
      | false =>
          by_cases this : handle.object = object
          · subst this
            simp [ProviderThread.owns, isBorrowed]
            omega
          · simp [ProviderThread.owns, isBorrowed, this, Ne.symm this]
  | @compares handle isOutside has isMac differs =>
      rw [ProviderThread.owned_outside isOutside, ProviderThread.owned_freeing rfl,
        ProviderThread.countP_erase has object]
  | @frees handle isFreeing =>
      have given := enough object
      rw [ProviderThread.owned_freeing isFreeing] at given ⊢
      rw [ProviderThread.owned_outside rfl]
      have isOwned : handle.borrowed = false := by
        have control := sound.control
        rw [isFreeing] at control
        exact control running
      simp only [ProviderProcess.free_references, ProviderProcess.free_cached]
      change _ + process.leaked object = _ + process.leaked object
      by_cases same : handle.object = object
      · simp [ProviderThread.owns, isOwned, same] at given ⊢
        omega
      · simp [ProviderThread.owns, same, Ne.symm same]
  | @forgets handle isOutside has isCipher =>
      have notOwned : handle.borrowed = true := by
        cases isBorrowed : handle.borrowed with
        | true => rfl
        | false =>
            rw [← ProviderThread.held_outside isOutside] at has
            have isMac := (sound.handles handle has).owned isBorrowed
            rw [isMac] at isCipher
            cases isCipher
      rw [ProviderThread.owned_erase isOutside has]
      simp [ProviderThread.owns, notOwned]
  | exits => cases running
  | passesOnMissing _ here | fetchesMac _ here | fetchesCipher here =>
      rw [ProviderThread.owned_outside here]
      rfl
  | guardFails here | begins here | passes here | misses here
  | finds here | cleanupFails here | beginsCleanup here | registers _ here
  | passesCleanup here =>
      rw [ProviderThread.owned_fetching here]
      rfl

/-- Only the cache has references to ciphers. -/
theorem cipher_balance (moved : ProviderMove place process thread process' thread')
    (running : process'.exited = false)
    (unset : ∀ kind, thread.control = .fetching kind .initializing →
      process.provider kind = none) (object : Nat) :
    process'.references .aes object + process.cached .aes object =
      process.references .aes object + process'.cached .aes object := by
  cases moved with
  | initializes found isInitializing =>
      exact ProviderProcess.initializeProvider_balance (unset _ isInitializing) found
  | passesOn => simp
  | frees => simp
  | exits => cases running
  | _ => rfl

/-- The reference that is not given back is one to the object of the cache. -/
theorem leaked_cause (moved : ProviderMove place process thread process' thread')
    {object : Nat} (leaked : 0 < process'.leaked object) :
    0 < process.leaked object ∨ process'.provider .hmac = some object := by
  cases moved with
  | @keeps handle isOutside has isMac same =>
      dsimp only at leaked ⊢
      split at leaked
      case isTrue => exact .inl leaked
      case isFalse =>
          by_cases this : object = handle.object
          · subst this
            exact .inr same
          · rw [Function.update_of_ne this] at leaked
            exact .inl leaked
  | initializes found => cases found <;> exact .inl leaked
  | exits =>
      obtain ⟨-, -, -, -, same⟩ := ProviderProcess.runHandlers_frame process.handlers process
      simp only [ProviderProcess.exit, same] at leaked
      exact .inl leaked
  | _ => exact .inl leaked

/-- The release is registered as often as the registration ran, at most. -/
theorem handlers_le (moved : ProviderMove place process thread process' thread')
    (before : process.handlers ≤ process.registrations) :
    process'.handlers ≤ process'.registrations := by
  cases moved with
  | registers registered =>
      cases registered with
      | true => exact Nat.succ_le_succ before
      | false => exact before.trans (Nat.le_succ _)
  | initializes found => cases found <;> exact before
  | exits => exact Nat.zero_le _
  | _ => exact before

/-- The cleanup is begun behind a provider that was found. -/
theorem cleanup_cause (moved : ProviderMove place process thread process' thread')
    (sound : ThreadSound process thread) (running : process.exited = false)
    (begun : process'.cleanupOnce ≠ .idle) :
    process.cleanupOnce ≠ .idle ∨ ∃ kind, (process.provider kind).isSome = true := by
  cases moved with
  | @beginsCleanup kind isCleaning idle =>
      have control := sound.control
      rw [isCleaning] at control
      exact .inr ⟨kind, control.2 rfl running⟩
  | @registers kind registered isRegistering =>
      have control := sound.control
      rw [isRegistering] at control
      exact .inr ⟨kind, control.2 rfl running⟩
  | initializes found => cases found <;> exact .inl begun
  | exits =>
      obtain ⟨-, same, -⟩ := ProviderProcess.runHandlers_frame process.handlers process
      simp only [ProviderProcess.exit, same] at begun
      exact .inl begun
  | _ => exact .inl begun

theorem initialized (moved : ProviderMove place process thread process' thread')
    {kind : ProviderKind} (inside : thread.control = .fetching kind .initializing) :
    process'.once kind = .done := by
  cases moved with
  | initializes found here =>
      rw [here] at inside
      cases inside
      cases found <;> exact Function.update_self _ _ _
  | passesOn _ _ here | passesOnMissing _ here | fetchesMac _ here | fetchesCipher here
  | guardFails here | begins here | passes here | misses here | finds here
  | cleanupFails here | beginsCleanup here | registers _ here | passesCleanup here
  | returns here | keeps here | compares here | frees here | forgets here | exits here =>
      rw [here] at inside
      cases inside

/-- A provider is set by the initialization only. -/
theorem provider_set (moved : ProviderMove place process thread process' thread')
    {kind : ProviderKind} (unset : process.provider kind = none)
    (notInitializing : thread.control ≠ .fetching kind .initializing) :
    process'.provider kind = none := by
  cases moved with
  | @initializes other found isInitializing =>
      rw [ProviderProcess.initializeProvider_provider, if_neg, unset]
      rintro rfl
      exact notInitializing isInitializing
  | exits => exact ProviderProcess.runHandlers_unset _ unset
  | _ => exact unset

end ProviderMove

/-! ## Runs -/

/-- What holds of the process and its threads together. -/
structure ProviderSound (state : Interleaving ProviderProcess ProviderThread) : Prop where
  threads : ∀ thread ∈ state.threads, ThreadSound state.shared thread
  discovery : ∀ kind, Once.Counts (state.shared.once kind)
    (total (ProviderThread.initializing kind) state.threads) (state.shared.fetches kind)
  cleanup : Once.Counts state.shared.cleanupOnce
    (total ProviderThread.registering state.threads) state.shared.registrations
  unset : ∀ kind, state.shared.once kind ≠ .done → state.shared.provider kind = none
  handlers : state.shared.handlers ≤ state.shared.registrations
  cause : state.shared.exited = false → state.shared.cleanupOnce ≠ .idle →
    ∃ kind, (state.shared.provider kind).isSome = true
  balance : state.shared.exited = false → ∀ object,
    state.shared.references .hmac object =
      total (ProviderThread.owned object) state.threads + state.shared.cached .hmac object +
        state.shared.leaked object
  ciphers : state.shared.exited = false → ∀ object,
    state.shared.references .aes object = state.shared.cached .aes object
  leaks : state.shared.exited = false → ∀ object, 0 < state.shared.leaked object →
    state.shared.provider .hmac = some object

namespace ProviderSound

variable {state next : Interleaving ProviderProcess ProviderThread}

theorem total_start {amount : ProviderThread → Nat} (nothing : amount .fresh = 0)
    {threads : Nat} : total amount (providerStart threads).threads = 0 :=
  total_replicate nothing threads

theorem initial (threads : Nat) : ProviderSound (providerStart threads) where
  threads thread member := by
    obtain rfl := List.eq_of_mem_replicate member
    exact ⟨nofun, trivial⟩
  discovery kind := by
    rw [total_start rfl]
    exact .idle
  cleanup := by
    rw [total_start rfl]
    exact .idle
  unset _ _ := rfl
  handlers := Nat.le_refl _
  cause _ begun := absurd rfl begun
  balance _ object := by
    rw [total_start rfl]
    rfl
  ciphers _ _ := rfl
  leaks _ _ leaked := absurd leaked (Nat.lt_irrefl 0)

/-- A thread that initializes a provider finds its variable unset. -/
theorem initializing_unset (sound : ProviderSound state) {thread : ProviderThread}
    (member : thread ∈ state.threads) (kind : ProviderKind)
    (inside : thread.control = .fetching kind .initializing) :
    state.shared.once kind = .running ∧ state.shared.provider kind = none := by
  have entered := le_total (ProviderThread.initializing kind) member
  rw [ProviderThread.initializing, if_pos inside] at entered
  have running := (sound.discovery kind).once_eq_running entered
  exact ⟨running, sound.unset kind (by rw [running]; decide)⟩

/-- Whoever owns a reference finds it counted. -/
theorem owned_le (sound : ProviderSound state) (running : state.shared.exited = false)
    {thread : ProviderThread} (member : thread ∈ state.threads) (object : Nat) :
    thread.owned object ≤ state.shared.references .hmac object := by
  have share := le_total (ProviderThread.owned object) member
  have balance := sound.balance running object
  omega

theorem turn (sound : ProviderSound state) (turn : Turn ProviderMove state next) :
    ProviderSound next := by
  cases turn with
  | @of process process' threads place thread thread' present moved =>
      have member : thread ∈ threads := List.mem_of_getElem? present
      have own := sound.threads thread member
      have unset := fun kind inside => (sound.initializing_unset member kind inside).2
      have steady := moved.steady unset
      have changed (amount : ProviderThread → Nat) :=
        @total_set _ amount _ thread' _ _ present
      constructor
      case threads =>
        intro other inThreads
        rcases List.mem_or_eq_of_mem_set inThreads with old | rfl
        · exact (sound.threads other old).steady steady
        · exact moved.threadSound steady own
      case discovery =>
        exact fun kind => (sound.discovery kind).moves (moved.discovery kind) (changed _)
      case cleanup => exact sound.cleanup.moves moved.cleanup (changed _)
      case unset =>
        intro kind notDone
        have before : process.once kind ≠ .done := fun done => notDone (moved.once_done done)
        exact moved.provider_set (sound.unset kind before) fun inside =>
          notDone (moved.initialized inside)
      case handlers => exact moved.handlers_le sound.handlers
      case cause =>
        intro running begun
        have before := steady.running running
        have found : ∃ kind, (process.provider kind).isSome = true :=
          (moved.cleanup_cause own before begun).elim (sound.cause before) id
        obtain ⟨kind, isSome⟩ := found
        obtain ⟨object, present⟩ := Option.isSome_iff_exists.mp isSome
        exact ⟨kind, by rw [steady.kept running kind object present]; rfl⟩
      case balance =>
        intro running object
        have before := steady.running running
        have old := sound.balance before object
        have shares := changed (ProviderThread.owned object)
        have balance := moved.balance running own unset (sound.owned_le before member) object
        dsimp only at old ⊢
        omega
      case ciphers =>
        intro running object
        have old := sound.ciphers (steady.running running) object
        have balance := moved.cipher_balance running unset object
        dsimp only at old ⊢
        omega
      case leaks =>
        intro running object leaked
        rcases moved.leaked_cause leaked with old | now
        · exact steady.kept running _ _ (sound.leaks (steady.running running) object old)
        · exact now

theorem runs (sound : ProviderSound state) (run : Runs ProviderMove state next) :
    ProviderSound next := by
  induction run with
  | refl => exact sound
  | tail _ step inductionHypothesis => exact inductionHypothesis.turn step

/-- Every object that a thread has to do with is alive. -/
theorem live (sound : ProviderSound state) (running : state.shared.exited = false)
    {thread : ProviderThread} (member : thread ∈ state.threads) {handle : ProviderHandle}
    (held : handle ∈ thread.held) :
    0 < state.shared.references handle.kind handle.object := by
  have handleSound := (sound.threads thread member).handles handle held
  cases isBorrowed : handle.borrowed with
  | true =>
      have cached : state.shared.cached handle.kind handle.object = 1 :=
        if_pos (handleSound.borrowed running isBorrowed)
      cases isKind : handle.kind with
      | hmac =>
          rw [isKind] at cached
          have balance := sound.balance running handle.object
          omega
      | aes =>
          rw [isKind] at cached
          rw [sound.ciphers running handle.object, cached]
          decide
  | false =>
      rw [handleSound.owned isBorrowed]
      have counted : 0 < thread.owned handle.object :=
        List.countP_pos_iff.mpr ⟨handle, held, by simp [ProviderThread.owns, isBorrowed]⟩
      exact counted.trans_le (sound.owned_le running member handle.object)

/-- A lookup that found nothing is not repeated. -/
theorem failed (sound : ProviderSound state) {kind : ProviderKind}
    (done : state.shared.once kind = .done) (missing : state.shared.provider kind = none)
    (run : Runs ProviderMove state next) :
    next.shared.once kind = .done ∧ next.shared.provider kind = none := by
  induction run with
  | refl => exact ⟨done, missing⟩
  | @tail middle last earlier step inductionHypothesis =>
      obtain ⟨doneBefore, missingBefore⟩ := inductionHypothesis
      have soundBefore := sound.runs earlier
      cases step with
      | of present moved =>
          refine ⟨moved.once_done doneBefore, moved.provider_set missingBefore fun inside => ?_⟩
          have running := (soundBefore.initializing_unset (List.mem_of_getElem? present) kind
            inside).1
          rw [running] at doneBefore
          cases doneBefore

end ProviderSound

namespace ProviderProcess

/-- The reference of the cache goes. -/
theorem free_provider_references (process : ProviderProcess) (kind other : ProviderKind)
    (object : Nat) :
    (process.free kind (process.provider kind)).references other object =
      process.references other object -
        if other = kind then process.cached other object else 0 := by
  unfold cached
  cases found : process.provider kind with
  | none =>
      change process.references other object = _
      by_cases same : other = kind
      · simp [same, found]
      · simp [same]
  | some object' =>
      rw [free_references]
      by_cases same : other = kind
      · simp [same, found, eq_comm]
      · simp [same]

/-- The release gives back what the cache has. -/
theorem release_references (process : ProviderProcess) (kind : ProviderKind) (object : Nat) :
    process.releaseCryptoProviders.references kind object =
      process.references kind object - process.cached kind object := by
  have first := process.free_provider_references .hmac kind object
  have second := free_provider_references
    ((process.free .hmac (process.provider .hmac)).setProvider .hmac none) .aes kind object
  refine second.trans ?_
  change (process.free .hmac (process.provider .hmac)).references kind object - _ = _
  rw [first]
  cases kind with
  | hmac => rfl
  | aes =>
      unfold cached
      simp [setProvider, free]

end ProviderProcess

/-- What holds in a state of the process. -/
structure ProviderLifecycle (state : Interleaving ProviderProcess ProviderThread) : Prop where
  /-- Each provider is looked up at most once, and the release is registered at most once,
  behind a lookup that found something. -/
  once : (∀ kind, state.shared.fetches kind ≤ 1) ∧ state.shared.handlers ≤ 1 ∧
    (state.shared.exited = false → 0 < state.shared.handlers →
      ∃ kind, (state.shared.provider kind).isSome = true)
  /-- Whoever waits for an initialization waits for a thread that is inside of it. -/
  waits : (∀ kind, state.shared.once kind = .running →
      ∃ thread ∈ state.threads, thread.control = .fetching kind .initializing) ∧
    (state.shared.cleanupOnce = .running →
      ∃ thread ∈ state.threads, ∃ kind, thread.control = .fetching kind .registering)
  /-- A lookup that found nothing is not repeated. -/
  failed : ∀ kind, state.shared.once kind = .done → state.shared.provider kind = none →
    ∀ later, Runs ProviderMove state later → later.shared.provider kind = none
  /-- Until the process exits, what threads got from the cache is the one object in it, and
  every object that a thread has to do with is alive. -/
  live : state.shared.exited = false → ∀ thread ∈ state.threads, ∀ handle ∈ thread.held,
    (handle.borrowed = true → state.shared.provider handle.kind = some handle.object) ∧
      0 < state.shared.references handle.kind handle.object
  /-- Every reference belongs to the cache or to one thread, but for those to the object
  of the cache that were freed. -/
  balance : state.shared.exited = false → ∀ object,
    state.shared.references .hmac object =
        total (ProviderThread.owned object) state.threads + state.shared.cached .hmac object +
          state.shared.leaked object ∧
      state.shared.references .aes object = state.shared.cached .aes object ∧
      (0 < state.shared.leaked object → state.shared.provider .hmac = some object)
  /-- If then the process exits, all other references are given back. -/
  exit : state.shared.exited = false → 0 < state.shared.handlers →
    (∀ thread ∈ state.threads, thread.held = []) → ∀ object,
      state.shared.exit.references .hmac object = state.shared.leaked object ∧
        state.shared.exit.references .aes object = 0

/-- In every interleaving of any number of threads, the provider references of the page
codec are looked up once, alive until the process exits, and accounted for. -/
theorem provider_references_balanced (threads : Nat)
    (state : Interleaving ProviderProcess ProviderThread)
    (run : Runs ProviderMove (providerStart threads) state) : ProviderLifecycle state := by
  have sound := (ProviderSound.initial threads).runs run
  have atMost := sound.cleanup.completed_le
  constructor
  case once =>
    refine ⟨fun kind => (sound.discovery kind).completed_le, sound.handlers.trans atMost, ?_⟩
    intro running registered
    refine sound.cause running fun idle => ?_
    have counts := sound.cleanup
    rw [idle] at counts
    exact absurd (registered.trans_le sound.handlers) (by rw [counts.completed_eq_zero]; decide)
  case waits =>
    constructor
    · intro kind running
      have counts := sound.discovery kind
      rw [running] at counts
      obtain ⟨thread, member, inside⟩ := exists_of_total_pos counts.inside_pos
      exact ⟨thread, member, ProviderThread.initializing_pos inside⟩
    · intro running
      have counts := sound.cleanup
      rw [running] at counts
      obtain ⟨thread, member, inside⟩ := exists_of_total_pos counts.inside_pos
      exact ⟨thread, member, ProviderThread.registering_pos inside⟩
  case failed => exact fun kind done missing later onwards => (sound.failed done missing onwards).2
  case live =>
    intro running thread member handle held
    exact ⟨((sound.threads thread member).handles handle held).borrowed running,
      sound.live running member held⟩
  case balance =>
    exact fun running object => ⟨sound.balance running object, sound.ciphers running object,
      sound.leaks running object⟩
  case exit =>
    intro running registered quiet object
    have noneOwned : total (ProviderThread.owned object) state.threads = 0 := by
      by_contra positive
      obtain ⟨thread, member, owns⟩ := exists_of_total_pos (Nat.pos_of_ne_zero positive)
      rw [ProviderThread.owned, quiet thread member] at owns
      cases owns
    have once : state.shared.handlers = 1 := by
      have := sound.handlers.trans atMost
      omega
    have released (kind : ProviderKind) : state.shared.exit.references kind object =
        state.shared.references kind object - state.shared.cached kind object := by
      rw [← ProviderProcess.release_references]
      unfold ProviderProcess.exit
      rw [once]
      rfl
    have balance := sound.balance running object
    rw [released, released, sound.ciphers running object]
    omega

/-- The request of the page codec. -/
def codecRequest : MacRequest where
  libraryContext := none
  algorithm := some (asciiBytes "HMAC")
  properties := none

/-- The same algorithm, by a request that the cache does not answer. -/
def otherRequest : MacRequest := { codecRequest with properties := some [] }

/-- One thread fetches from the cache and frees; another one gets the same object past the
cache and frees it, which keeps its reference. -/
theorem codecThreads_run :
    ∃ state, Runs ProviderMove (providerStart 2) state ∧ state.shared.handlers = 1 ∧
      state.shared.leaked 7 = 1 ∧ state.shared.exited = false ∧
      ∀ thread ∈ state.threads, thread.held = [] := by
  refine ⟨?state, ?run, ?handlers, ?leaked, ?exited, ?held⟩
  case run =>
    refine .head (Turn.first (.fetchesMac codecRequest rfl (by decide))) ?_
    refine .head (Turn.first (.begins rfl rfl)) ?_
    refine .head (Turn.first (.initializes (some 7) rfl)) ?_
    refine .head (@Turn.of _ _ _ _ _ _ 1 _ _ rfl
      (.passesOn otherRequest 7 rfl (by decide))) ?_
    refine .head (Turn.first (.finds rfl rfl)) ?_
    refine .head (Turn.first (.beginsCleanup rfl rfl)) ?_
    refine .head (Turn.first (.registers true rfl)) ?_
    refine .head (Turn.first (.returns rfl)) ?_
    refine .head (@Turn.of _ _ _ _ _ _ 1 _ _ rfl
      (@ProviderMove.keeps _ _ _ ⟨.hmac, 7, false⟩ rfl (by decide) rfl rfl)) ?_
    refine .head (Turn.first
      (@ProviderMove.keeps _ _ _ ⟨.hmac, 7, true⟩ rfl (by decide) rfl rfl)) ?_
    exact .refl
  case handlers => rfl
  case leaked => rfl
  case exited => rfl
  case held => decide

theorem codecThreads_balanced :
    ∃ state, Runs ProviderMove (providerStart 2) state ∧ ProviderLifecycle state ∧
      state.shared.exit.references .hmac 7 = 1 := by
  obtain ⟨state, run, handlers, leaked, running, quiet⟩ := codecThreads_run
  have lifecycle := provider_references_balanced 2 state run
  have released := (lifecycle.exit running (by rw [handlers]; decide) quiet 7).1
  exact ⟨state, run, lifecycle, released.trans leaked⟩

end Csgdb.Crypto
