/-
Module: Csgdb.Proofs.OpenRule
Purpose: What an open knows of its file and of the cipher defaults, whatever other opens
  of the process do.
Trusted boundary: the documented behaviour of the engine is a named assumption.
Main exports: Grows, Phase.OwnProfile, Opening.Known, Opening.Sound, Guarantee, openRule
-/
import Csgdb.Storage.Opening

namespace Csgdb.Storage

open Foundation

/-! ## Files -/

/-- Nothing was written yet. -/
def Blank (content : Option Content) : Prop :=
  content = none ∨ content = some .empty

/-- What opens do to a file: they create it, and initialize it in the current profile. -/
inductive Grows : Option Content → Option Content → Prop
  | same (content : Option Content) : Grows content content
  | created : Grows none (some .empty)
  | initialized {before : Option Content} {cipher : Option Cipher} (blank : Blank before)
      (current : ∀ keyed, cipher = some keyed →
        keyed.settings = CipherProfile.current.settings) :
      Grows before (some (.initialized cipher))

@[simp] theorem not_blank_initialized (cipher : Option Cipher) :
    ¬ Blank (some (.initialized cipher)) := by
  unfold Blank
  cases cipher <;> simp [Content.initialized]

theorem not_blank_written (settings : CipherSettings) (key : List UInt8) :
    ¬ Blank (some (.written settings key)) := by
  simp [Blank]

theorem not_blank_of_nonempty {content : Content} (nonempty : content ≠ .empty) :
    ¬ Blank (some content) := by
  simpa [Blank] using nonempty

theorem Grows.blank {before after : Option Content} (grows : Grows before after)
    (blank : Blank after) : Blank before := by
  cases grows with
  | same => exact blank
  | created => exact .inl rfl
  | initialized earlier current => exact absurd blank (not_blank_initialized _)

theorem Grows.absent {before : Option Content} (grows : Grows before none) :
    before = none := by
  cases grows with
  | same => rfl

theorem Grows.trans {first second third : Option Content} (grows : Grows first second)
    (later : Grows second third) : Grows first third := by
  cases later with
  | same => exact grows
  | created =>
      cases grows with
      | same => exact .created
  | initialized blank current => exact .initialized (grows.blank blank) current

/-- What was written stays. -/
theorem Grows.frozen {before after : Option Content} (grows : Grows before after)
    (written : ¬ Blank before) : after = before := by
  cases grows with
  | same => rfl
  | created => exact absurd (.inl rfl) written
  | initialized blank current => exact absurd blank written

/-- What was written to a blank file is in the current profile. -/
theorem Grows.current {before : Option Content} {settings : CipherSettings}
    {key : List UInt8} (grows : Grows before (some (.written settings key)))
    (blank : Blank before) : settings = CipherProfile.current.settings := by
  generalize same : some (Content.written settings key) = after at grows
  cases grows with
  | same =>
      subst same
      exact absurd blank (not_blank_written settings key)
  | created => cases same
  | @initialized _ cipher _ current =>
      cases cipher with
      | none => cases same
      | some cipher =>
          cases same
          exact current cipher rfl

theorem CipherProfile.settings_injective {first second : CipherProfile}
    (same : first.settings = second.settings) : first = second := by
  revert same
  cases first <;> cases second <;> decide

/-! ## What an open knows -/

section Known

variable {Location : Type} (engine : Engine Location)

/-- The codec of a profile with the key of a request. -/
def OpenRequest.cipher (request : OpenRequest) (profile : CipherProfile) : Cipher where
  settings := profile.settings
  key := request.key

/-- The answer of the attempt with the current profile. -/
def OpenRequest.currentAnswer (request : OpenRequest) (content : Content) : Result Unit :=
  match applyKey engine request.plan.key CipherProfile.current.settings with
  | .error error => .error error
  | .ok cipher => verifyDatabase engine (some cipher) content

/-- An attempt that has keyed its connection used its own profile. -/
def Phase.OwnProfile : Phase → Prop
  | .keyApplied attempt (.ok cipher) => cipher.settings = attempt.profile.settings
  | .keyed attempt cipher => cipher.settings = attempt.profile.settings
  | _ => True

/-- A file that the connections of some profiles could not read. -/
def OpenRequest.Rejected (request : OpenRequest) (profiles : List CipherProfile)
    (primaryError : Error) (content : Option Content) : Prop :=
  ∃ there, content = some there ∧ there ≠ .empty ∧
    (∀ profile ∈ profiles, there ≠ .written profile.settings request.key) ∧
    request.currentAnswer engine there = .error primaryError

namespace Opening

/-- What is known while an attempt goes on. -/
def Tried (opening : Opening) (now : Option Content) (attempt : Attempt) : Prop :=
  Grows opening.sight.found now ∧
  match attempt with
  | .current candidate => candidate = legacyCandidate opening.sight.probed
  | .previous primaryError => legacyCandidate opening.sight.probed = true ∧
      opening.request.Rejected engine [.current] primaryError now
  | .legacy primaryError => legacyCandidate opening.sight.probed = true ∧
      opening.request.Rejected engine [.current, .previous] primaryError now

/-- What `apply_key` answers. -/
def Keyed (opening : Opening) (profile : CipherProfile) : Result Cipher → Prop
  | .ok cipher =>
      cipher = opening.request.cipher profile ∧ opening.request.key.length ≤ maxKeyBytes
  | .error error => maxKeyBytes < opening.request.key.length ∧
      ∀ content, opening.request.currentAnswer engine content = .error error

/-- What is known once a connection could read the file. -/
structure Won (opening : Opening) (now : Option Content) (cipher : Cipher) : Prop where
  grown : Grows opening.sight.found now
  key : cipher.key = opening.request.key
  inRange : opening.request.key.length ≤ maxKeyBytes
  read : ∃ content, opening.sight.lastRead = some content ∧
    (content = .empty ∨ content = .written cipher.settings opening.request.key)
  profile : (cipher.settings = CipherProfile.current.settings ∧ Blank opening.sight.found) ∨
    (now = some (.written cipher.settings opening.request.key) ∧
      (cipher.settings = CipherProfile.current.settings ∨
        legacyCandidate opening.sight.probed = true))

/-- Why an open failed. -/
inductive Lost (opening : Opening) : Error → Prop
  | absent {error : Error} (absent : opening.sight.found = none)
      (create : opening.request.flags.create = false) : Lost opening error
  | key {error : Error} (long : maxKeyBytes < opening.request.key.length)
      (answer : ∀ content, opening.request.currentAnswer engine content = .error error) :
      Lost opening error
  | rejected {content : Content} {error : Error}
      (read : opening.sight.lastRead = some content) (nonempty : content ≠ .empty)
      (grown : Grows opening.sight.found (some content))
      (unread : ∀ profile : CipherProfile,
        profile = .current ∨ legacyCandidate opening.sight.probed = true →
          content ≠ .written profile.settings opening.request.key)
      (answer : opening.request.currentAnswer engine content = .error error) :
      Lost opening error
  | journal {content : Content} {error : Error} (blank : Blank opening.sight.found)
      (read : opening.sight.lastRead = some content) (nonempty : content ≠ .empty)
      (grown : Grows opening.sight.found (some content))
      (unread : content ≠
        .written CipherProfile.current.settings opening.request.key) :
      Lost opening error

/-- What is known of an encrypted open in each phase. -/
def Known (opening : Opening) (now : Option Content) : Prop :=
  match opening.phase with
  | .called => True
  | .opening (.keyed attempt) | .opened (.keyed attempt) | .locked attempt
  | .hmacUpdated attempt | .pageSizeUpdated attempt => opening.Tried engine now attempt
  | .opening .plaintext | .opened .plaintext => False
  | .keyApplied attempt answer =>
      opening.Tried engine now attempt ∧ opening.Keyed engine attempt.profile answer
  | .keyed attempt cipher =>
      opening.Tried engine now attempt ∧ opening.Keyed engine attempt.profile (.ok cipher)
  | .verified cipher => ∃ keyed, cipher = some keyed ∧ opening.Won now keyed
  | .configuring cipher _ => ∃ keyed, cipher = some keyed ∧ opening.Won now keyed ∧
      opening.request.plan.busyTimeout ≤ maxBusyTimeoutMillis
  | .returned (.ok connection) => ∃ keyed, opening.Won now keyed ∧
      connection = { cipher := some keyed, security := .encrypted } ∧
      opening.request.plan.busyTimeout ≤ maxBusyTimeoutMillis
  | .returned (.error error) => opening.Lost engine error
  | .panicked => ∃ keyed, opening.Won now keyed ∧
      maxBusyTimeoutMillis < opening.request.plan.busyTimeout

end Opening

end Known

/-! ## The file of an open -/

section Location

variable {Location : Type} {process process' : Process Location}
  {location : Option Location}

theorem Process.look_grows
    (files : ∀ place, Grows (process.files place) (process'.files place)) :
    Grows (process.look location) (process'.look location) := by
  cases location with
  | none => exact .same _
  | some place => exact files place

variable [DecidableEq Location]

theorem Process.put_grows {content : Content}
    (grows : Grows (process.look location) (some content)) (place : Location) :
    Grows (process.files place) ((process.put location content).files place) := by
  cases location with
  | none => exact .same _
  | some written =>
      by_cases same : place = written
      · subst same
        simp only [Process.put, Function.update_self]
        exact grows
      · simp only [Process.put, Function.update_of_ne same]
        exact .same _

theorem Process.put_shared (process : Process Location) (location : Option Location)
    (content : Content) :
    (process.put location content).profileLock = process.profileLock ∧
      (process.put location content).defaults = process.defaults := by
  cases location with
  | none => exact ⟨rfl, rfl⟩
  | some place => exact ⟨rfl, rfl⟩

omit [DecidableEq Location] in
/-- A file that is not there is created. -/
theorem Grows.opened (content : Option Content) :
    Grows content (some (content.getD .empty)) := by
  cases content with
  | none => exact .created
  | some there => exact .same _

end Location

/-! ## The engine -/

section Engine

variable {Location : Type} {engine : Engine Location}

theorem Engine.Documented.applyKey_eq (documented : engine.Documented) (key : ResolvedKey)
    (defaults : CipherSettings) :
    applyKey engine (some key) defaults =
      if maxKeyBytes < (keyBytes key).length then
        .error
          { code := .invalidKeyLength, message := "database key material is too large" }
      else .ok { settings := defaults, key := keyBytes key } := by
  rw [applyKey_handedKey]
  unfold handedKey
  by_cases long : maxKeyBytes < (keyBytes key).length
  · simp only [if_pos long]
  · simp only [if_neg long]
    exact if_pos (documented.keys (keyBytes key))

theorem verifyDatabase_ok_iff (cipher : Option Cipher) (content : Content) :
    verifyDatabase engine cipher content = .ok () ↔ engine.read cipher content = .ok () := by
  unfold verifyDatabase
  cases engine.read cipher content with
  | error failure => simp [Except.mapError]
  | ok value => simp [Except.mapError]

/-- The key of an encrypted request. -/
theorem OpenRequest.key_eq {request : OpenRequest}
    (encrypted : request.plan.security = .encrypted) :
    ∃ key, request.plan.key = some key ∧ request.key = keyBytes key := by
  obtain ⟨key, there⟩ := Option.isSome_iff_exists.mp (request.plan.keyed.mp encrypted)
  refine ⟨key, there, ?_⟩
  unfold OpenRequest.key
  rw [there]
  rfl

theorem Engine.Documented.keyed (documented : engine.Documented) {opening : Opening}
    (encrypted : opening.request.plan.security = .encrypted) (profile : CipherProfile) :
    opening.Keyed engine profile
      (applyKey engine opening.request.plan.key profile.settings) := by
  obtain ⟨key, there, bytes⟩ := opening.request.key_eq encrypted
  by_cases long : maxKeyBytes < (keyBytes key).length
  · rw [there, documented.applyKey_eq, if_pos long]
    refine ⟨by rw [bytes]; exact long, fun content => ?_⟩
    unfold OpenRequest.currentAnswer
    rw [there, documented.applyKey_eq, if_pos long]
  · rw [there, documented.applyKey_eq, if_neg long]
    exact ⟨by unfold OpenRequest.cipher; rw [bytes],
      by rw [bytes]; exact Nat.le_of_not_lt long⟩

/-- With a key in range the current attempt answers what its verification answers. -/
theorem Engine.Documented.currentAnswer_eq (documented : engine.Documented)
    {request : OpenRequest} (encrypted : request.plan.security = .encrypted)
    (inRange : request.key.length ≤ maxKeyBytes) (content : Content) :
    request.currentAnswer engine content =
      verifyDatabase engine (some (request.cipher .current)) content := by
  obtain ⟨key, there, bytes⟩ := request.key_eq encrypted
  unfold OpenRequest.currentAnswer
  rw [there, documented.applyKey_eq, if_neg (by rw [← bytes]; exact Nat.not_lt.mpr inRange),
    ← bytes]
  rfl

end Engine

/-! ## The rule of an open -/

section Rule

variable {Location : Type}

/-- The phases that hold `CIPHER_PROFILE_LOCK`. -/
def Phase.inside : Phase → Bool
  | .locked _ | .hmacUpdated _ | .pageSizeUpdated _ | .keyApplied _ _ => true
  | _ => false

/-- The defaults that an attempt has set. -/
def Phase.Prepared (defaults : CipherSettings) : Phase → Prop
  | .hmacUpdated attempt =>
      defaults.hmacAlgorithm = attempt.profile.settings.hmacAlgorithm
  | .pageSizeUpdated attempt => defaults = attempt.profile.settings
  | _ => True

/-- Opens without a key key no connection. -/
def Phase.Unkeyed : Phase → Prop
  | .called | .opening .plaintext | .opened .plaintext | .verified none
  | .configuring none _ | .returned _ | .panicked => True
  | _ => False

/-- What the steps of an open do to what all share. -/
structure Guarantee (place : Nat) (process process' : Process Location) : Prop where
  lock : process'.profileLock = process.profileLock ∨
    (process.profileLock = none ∧ process'.profileLock = some place) ∨
    (process.profileLock = some place ∧ process'.profileLock = none)
  defaults : process'.defaults = process.defaults ∨ process.profileLock = some place
  files : ∀ location, Grows (process.files location) (process'.files location)

variable (engine : Engine Location)

/-- What an open asserts, whatever the others do. -/
structure Opening.Sound (place : Nat) (process : Process Location) (opening : Opening) :
    Prop where
  lock : opening.phase.inside = true ↔ process.profileLock = some place
  defaults : opening.phase.Prepared process.defaults
  profile : opening.phase.OwnProfile
  unkeyed : opening.request.plan.security = .plaintext → opening.phase.Unkeyed
  known : opening.request.plan.security = .encrypted →
    opening.Known engine (process.look (opening.request.location engine))
  path : opening.request.location engine =
    some (engine.metadata opening.request.plan.path) →
      opening.sight.found = opening.sight.probed

variable {engine} {place other : Nat} {process process' : Process Location}
  {opening opening' : Opening}

/-! ### The others -/

theorem OpenRequest.Rejected.grows {request : OpenRequest} {profiles : List CipherProfile}
    {primaryError : Error} {now later : Option Content}
    (rejected : request.Rejected engine profiles primaryError now)
    (grows : Grows now later) : request.Rejected engine profiles primaryError later := by
  obtain ⟨there, same, nonempty, unread, answer⟩ := rejected
  subst same
  rw [grows.frozen (not_blank_of_nonempty nonempty)]
  exact ⟨there, rfl, nonempty, unread, answer⟩

theorem Opening.Tried.grows {now later : Option Content} {attempt : Attempt}
    (tried : opening.Tried engine now attempt) (grows : Grows now later) :
    opening.Tried engine later attempt := by
  obtain ⟨grown, seen⟩ := tried
  refine ⟨grown.trans grows, ?_⟩
  cases attempt with
  | current candidate => exact seen
  | previous primaryError => exact ⟨seen.1, seen.2.grows grows⟩
  | legacy primaryError => exact ⟨seen.1, seen.2.grows grows⟩

theorem Opening.Won.grows {now later : Option Content} {cipher : Cipher}
    (won : opening.Won now cipher) (grows : Grows now later) : opening.Won later cipher where
  grown := won.grown.trans grows
  key := won.key
  inRange := won.inRange
  read := won.read
  profile := by
    cases won.profile with
    | inl blank => exact .inl blank
    | inr written =>
        obtain ⟨there, profile⟩ := written
        subst there
        exact .inr ⟨grows.frozen (not_blank_written _ _), profile⟩

theorem Opening.Known.grows {now later : Option Content} (known : opening.Known engine now)
    (grows : Grows now later) : opening.Known engine later := by
  unfold Opening.Known at *
  generalize opening.phase = phase at *
  cases phase with
  | called => exact known
  | opening trial | opened trial =>
      cases trial with
      | keyed attempt => exact Opening.Tried.grows known grows
      | plaintext => exact known
  | locked attempt | hmacUpdated attempt | pageSizeUpdated attempt =>
      exact Opening.Tried.grows known grows
  | keyApplied attempt answer | keyed attempt cipher =>
      exact ⟨known.1.grows grows, known.2⟩
  | verified cipher =>
      obtain ⟨keyed, same, won⟩ := known
      exact ⟨keyed, same, won.grows grows⟩
  | configuring cipher left =>
      obtain ⟨keyed, same, won, inRange⟩ := known
      exact ⟨keyed, same, won.grows grows, inRange⟩
  | returned answer =>
      cases answer with
      | error error => exact known
      | ok connection =>
          obtain ⟨keyed, won, same, inRange⟩ := known
          exact ⟨keyed, won.grows grows, same, inRange⟩
  | panicked =>
      obtain ⟨keyed, won, outOfRange⟩ := known
      exact ⟨keyed, won.grows grows, outOfRange⟩

theorem Phase.Prepared.of_outside {phase : Phase} {defaults : CipherSettings}
    (outside : phase.inside = false) : phase.Prepared defaults := by
  cases phase with
  | hmacUpdated attempt | pageSizeUpdated attempt => cases outside
  | _ => exact trivial

/-- What the others guarantee does not disturb an open. -/
theorem Opening.Sound.stable (apart : place ≠ other)
    (guarantee : Guarantee other process process') (sound : opening.Sound engine place process) :
    opening.Sound engine place process' where
  lock := by
    rw [sound.lock]
    rcases guarantee.lock with same | ⟨free, taken⟩ | ⟨held, left⟩
    · rw [same]
    · rw [free, taken]
      simpa using Ne.symm apart
    · rw [held, left]
      simpa using Ne.symm apart
  defaults := by
    rcases guarantee.defaults with same | held
    · rw [same]
      exact sound.defaults
    · refine .of_outside ?_
      rw [Bool.eq_false_iff]
      intro inside
      have mine := sound.lock.mp inside
      rw [held] at mine
      exact apart (Option.some.inj mine).symm
  profile := sound.profile
  unkeyed := sound.unkeyed
  known := fun encrypted => (sound.known encrypted).grows (Process.look_grows guarantee.files)
  path := sound.path

/-! ### Its own steps -/

/-- A blank file is initialized in the current profile. -/
theorem Opening.Sound.initializes (sound : opening.Sound engine place process)
    {cipher : Option Cipher} {left : List Pragma}
    (here : opening.phase = .configuring cipher left)
    (blank : Blank (process.look (opening.request.location engine))) :
    ∀ keyed, cipher = some keyed → keyed.settings = CipherProfile.current.settings := by
  intro keyed same
  cases security : opening.request.plan.security with
  | plaintext =>
      have unkeyed := sound.unkeyed security
      rw [here, same] at unkeyed
      exact unkeyed.elim
  | encrypted =>
      have known := sound.known security
      unfold Opening.Known at known
      rw [here] at known
      obtain ⟨winner, won, knows, -⟩ := known
      obtain rfl : keyed = winner := Option.some.inj (same.symm.trans won)
      cases knows.profile with
      | inl current => exact current.1
      | inr written =>
          rw [written.1] at blank
          exact absurd blank (not_blank_written _ _)

/-- Content that is not empty is there. -/
theorem there_of_nonempty {now : Option Content} {content : Content}
    (holds : now.getD .empty = content) (nonempty : content ≠ .empty) : now = some content := by
  cases now with
  | none => exact absurd holds.symm nonempty
  | some there => exact congrArg some holds

theorem blank_of_empty {now : Option Content} (holds : now.getD .empty = .empty) :
    Blank now := by
  cases now with
  | none => exact .inl rfl
  | some there => exact .inr (congrArg some holds)

/-- What the journal mode leaves in a file. -/
theorem Grows.journalled {now : Option Content} {content : Content} {cipher : Option Cipher}
    (holds : now.getD .empty = content)
    (current : Blank now → ∀ keyed, cipher = some keyed →
      keyed.settings = CipherProfile.current.settings) :
    Grows now (some (if content.nonempty then content else .initialized cipher)) := by
  cases content with
  | empty =>
      have blank := blank_of_empty holds
      exact .initialized blank (current blank)
  | written settings key =>
      rw [there_of_nonempty holds (by simp)]
      exact .same _
  | foreign =>
      rw [there_of_nonempty holds (by simp)]
      exact .same _

variable [DecidableEq Location]

theorem OpenStep.guarantee (step : OpenStep engine place process opening process' opening')
    (sound : opening.Sound engine place process) : Guarantee place process process' := by
  have unchanged : Guarantee place process process := ⟨.inl rfl, .inl rfl, fun _ => .same _⟩
  cases step with
  | probed | openFailed | hmacFailed | pageSizeFailed | keyApplied | verified
  | plaintextVerified | timed | timeoutPanicked | journalFailed | pragmaUpdated
  | pragmaFailed | configured => exact unchanged
  | opened here there opens =>
      obtain ⟨lock, defaults⟩ :=
        process.put_shared (opening.request.location engine) (Option.getD _ .empty)
      exact ⟨.inl lock, .inl defaults, Process.put_grows (by rw [there]; exact .opened _)⟩
  | locked here free => exact ⟨.inr (.inl ⟨free, rfl⟩), .inl rfl, fun _ => .same _⟩
  | hmacUpdated here | pageSizeUpdated here =>
      have held := sound.lock.mp (by rw [here]; rfl)
      exact ⟨.inl rfl, .inr held, fun _ => .same _⟩
  | unlocked here =>
      have held := sound.lock.mp (by rw [here]; rfl)
      exact ⟨.inr (.inr ⟨held, rfl⟩), .inl rfl, fun _ => .same _⟩
  | journalled here journal holds reads =>
      obtain ⟨lock, defaults⟩ := process.put_shared (opening.request.location engine) _
      exact ⟨.inl lock, .inl defaults,
        Process.put_grows (.journalled holds (sound.initializes here))⟩

omit [DecidableEq Location] in
/-- Keying captures the defaults. -/
theorem applyKey_settings {key : Option ResolvedKey} {defaults : CipherSettings}
    {cipher : Cipher} (applied : applyKey engine key defaults = .ok cipher) :
    cipher.settings = defaults := by
  unfold applyKey applyKeyBytes at applied
  split at applied
  · cases applied
  · split at applied
    · cases applied
    · split at applied
      · exact (congrArg Cipher.settings (Except.ok.inj applied)).symm
      · cases applied

theorem Attempt.next_inside (attempt : Attempt) (cipher : Cipher) (answer : Result Unit) :
    (attempt.next cipher answer).inside = false := by
  unfold Attempt.next
  split <;> rfl

theorem Phase.afterPlaintext_inside (answer : Result Unit) :
    (afterPlaintext answer).inside = false := by
  cases answer <;> rfl

theorem Phase.afterUnlock_inside (attempt : Attempt) (answer : Result Cipher) :
    (afterUnlock attempt answer).inside = false := by
  cases answer <;> rfl

theorem OpenStep.lock (step : OpenStep engine place process opening process' opening')
    (sound : opening.Sound engine place process) :
    opening'.phase.inside = true ↔ process'.profileLock = some place := by
  have lock := sound.lock
  cases step with
  | probed here | openFailed here | timed here | timeoutPanicked here | journalFailed here
  | pragmaUpdated here | pragmaFailed here | configured here | hmacUpdated here
  | hmacFailed here | pageSizeUpdated here | pageSizeFailed here | keyApplied here =>
      rw [here] at lock
      exact lock
  | verified here =>
      rw [here] at lock
      change (Attempt.next _ _ _).inside = true ↔ _
      rw [Attempt.next_inside]
      exact lock
  | plaintextVerified here =>
      rw [here] at lock
      change (Phase.afterPlaintext _).inside = true ↔ _
      rw [Phase.afterPlaintext_inside]
      exact lock
  | opened here | journalled here =>
      rw [here] at lock
      rw [(Process.put_shared _ _ _).1]
      exact lock
  | locked here => simp [Opening.enter, Phase.inside]
  | unlocked here =>
      change (Phase.afterUnlock _ _).inside = true ↔ none = some place
      rw [Phase.afterUnlock_inside]
      simp

theorem OpenStep.defaults (step : OpenStep engine place process opening process' opening')
    (sound : opening.Sound engine place process) :
    opening'.phase.Prepared process'.defaults := by
  have prepared := sound.defaults
  cases step with
  | hmacUpdated here => rfl
  | pageSizeUpdated here =>
      rw [here] at prepared
      change CipherSettings.mk process.defaults.hmacAlgorithm _ = _
      rw [prepared]
  | verified here => exact .of_outside (Attempt.next_inside _ _ _)
  | plaintextVerified here => exact .of_outside (Phase.afterPlaintext_inside _)
  | unlocked here => exact .of_outside (Phase.afterUnlock_inside _ _)
  | _ => exact trivial

theorem OpenStep.profile (step : OpenStep engine place process opening process' opening')
    (sound : opening.Sound engine place process) : opening'.phase.OwnProfile := by
  have own := sound.profile
  have prepared := sound.defaults
  cases step with
  | @keyApplied attempt here =>
      rw [here] at prepared
      change Phase.OwnProfile (.keyApplied attempt (applyKey _ _ _))
      cases applied : applyKey engine opening.request.plan.key process.defaults with
      | error error => exact trivial
      | ok cipher => exact (applyKey_settings applied).trans prepared
  | @unlocked attempt answer here =>
      rw [here] at own
      cases answer with
      | error error => exact trivial
      | ok cipher => exact own
  | @verified attempt cipher content here holds =>
      change Phase.OwnProfile (attempt.next _ _)
      unfold Attempt.next
      split <;> exact trivial
  | @plaintextVerified content here holds =>
      change Phase.OwnProfile (.afterPlaintext _)
      unfold Phase.afterPlaintext
      split <;> exact trivial
  | _ => exact trivial

/-- An open without a key goes on without one. -/
theorem OpenStep.unkeyed (step : OpenStep engine place process opening process' opening')
    (sound : opening.Sound engine place process)
    (plaintext : opening.request.plan.security = .plaintext) : opening'.phase.Unkeyed := by
  have unkeyed := sound.unkeyed plaintext
  cases step with
  | probed here =>
      change Phase.Unkeyed (.opening (Opening.firstTrial opening.request.plan.security _))
      rw [plaintext]
      exact trivial
  | @opened trial before here =>
      rw [here] at unkeyed
      cases trial with
      | keyed attempt => exact unkeyed
      | plaintext => exact trivial
  | locked here | hmacUpdated here | hmacFailed here | pageSizeUpdated here
  | pageSizeFailed here | keyApplied here | unlocked here | verified here =>
      rw [here] at unkeyed
      exact unkeyed.elim
  | @plaintextVerified content here holds =>
      change Phase.Unkeyed (.afterPlaintext _)
      unfold Phase.afterPlaintext
      split <;> exact trivial
  | @timed cipher here | @journalled cipher _ _ _ here | @pragmaUpdated cipher _ _ here =>
      rw [here] at unkeyed
      cases cipher with
      | none => exact trivial
      | some cipher => exact unkeyed
  | openFailed | timeoutPanicked | journalFailed | pragmaFailed | configured => exact trivial

theorem OpenStep.request_eq
    (step : OpenStep engine place process opening process' opening') :
    opening'.request = opening.request := by
  cases step <;> rfl

/-- The probe of a path sees the file that the engine opens under it. -/
theorem OpenStep.path (step : OpenStep engine place process opening process' opening')
    (sound : opening.Sound engine place process)
    (plain : opening.request.location engine =
      some (engine.metadata opening.request.plan.path)) :
    opening'.sight.found = opening'.sight.probed := by
  have same := sound.path plain
  cases step with
  | probed here finds =>
      change process.look (opening.request.location engine) = _
      rw [plain]
      exact finds
  | _ => exact same

/-! ### What an open learns -/

omit [DecidableEq Location] in
/-- A connection that could read the file has the profile that the file is in. -/
theorem Opening.Tried.won {now : Option Content} {attempt : Attempt} {content : Content}
    (tried : opening.Tried engine now attempt)
    (inRange : opening.request.key.length ≤ maxKeyBytes)
    (holds : now.getD .empty = content)
    (readable : content = .empty ∨
      content = .written attempt.profile.settings opening.request.key) (phase : Phase) :
    (opening.reading content phase).Won now (opening.request.cipher attempt.profile) where
  grown := tried.1
  key := rfl
  inRange := inRange
  read := ⟨content, rfl, readable⟩
  profile := by
    obtain ⟨grown, seen⟩ := tried
    rcases readable with empty | written
    · -- A later attempt is only made on a file that is not empty.
      have blank := blank_of_empty (holds.trans empty)
      cases attempt with
      | current candidate => exact .inl ⟨rfl, grown.blank blank⟩
      | previous primaryError | legacy primaryError =>
          obtain ⟨-, there, same, nonempty, -⟩ := seen
          rw [same] at blank
          exact absurd blank (not_blank_of_nonempty nonempty)
    · have there := there_of_nonempty (holds.trans written) (by simp)
      cases attempt with
      | current candidate => exact .inr ⟨there, .inl rfl⟩
      | previous primaryError | legacy primaryError => exact .inr ⟨there, .inr seen.1⟩

omit [DecidableEq Location] in
/-- Configuring the connection goes on with what its profile has won. -/
theorem Opening.Won.enter {now : Option Content} {cipher : Cipher}
    (won : opening.Won now cipher) (phase : Phase) : (opening.enter phase).Won now cipher where
  grown := won.grown
  key := won.key
  inRange := won.inRange
  read := won.read
  profile := won.profile

omit [DecidableEq Location] in
/-- Another read of the file, which succeeded, is the last one. -/
theorem Opening.Won.reading {now : Option Content} {cipher : Cipher} {content : Content}
    (won : opening.Won now cipher)
    (readable : content = .empty ∨ content = .written cipher.settings opening.request.key)
    (phase : Phase) : (opening.reading content phase).Won now cipher where
  grown := won.grown
  key := won.key
  inRange := won.inRange
  read := ⟨content, rfl, readable⟩
  profile := won.profile

omit [DecidableEq Location] in
/-- What follows an attempt whose connection could not read the file. -/
theorem Opening.Tried.rejected (documented : engine.Documented)
    (encrypted : opening.request.plan.security = .encrypted) {now : Option Content}
    {attempt : Attempt} {content : Content} {cipher : Cipher} {error : Error}
    (tried : opening.Tried engine now attempt)
    (keyed : opening.Keyed engine attempt.profile (.ok cipher))
    (holds : now.getD .empty = content)
    (fails : verifyDatabase engine (some cipher) content = .error error) :
    (opening.reading content (attempt.next cipher (.error error))).Known engine now := by
  obtain ⟨grown, seen⟩ := tried
  obtain ⟨rfl, inRange⟩ := keyed
  have unread : ¬ (content = .empty ∨
      content = .written attempt.profile.settings opening.request.key) := by
    intro readable
    have reads := (documented.reads (opening.request.cipher attempt.profile) content).mpr
      readable
    rw [(verifyDatabase_ok_iff _ _).mpr reads] at fails
    cases fails
  obtain ⟨nonempty, unread⟩ := not_or.mp unread
  have there := there_of_nonempty holds nonempty
  subst there
  have answer := documented.currentAnswer_eq encrypted inRange content
  cases attempt with
  | current candidate =>
      have answer := answer.trans fails
      cases candidate with
      | true =>
          refine ⟨grown, seen.symm, content, rfl, nonempty, ?_, answer⟩
          intro profile only
          obtain rfl := List.mem_singleton.mp only
          exact unread
      | false =>
          refine .rejected rfl nonempty grown ?_ answer
          rintro profile (rfl | candidate)
          · exact unread
          · have both : false = true := Eq.trans seen candidate
            cases both
  | previous primaryError =>
      obtain ⟨candidate, before, same, -, earlier, primary⟩ := seen
      obtain rfl := Option.some.inj same
      refine ⟨grown, candidate, content, rfl, nonempty, ?_, primary⟩
      intro profile tried
      rcases List.mem_cons.mp tried with rfl | tried
      · exact earlier _ (List.mem_singleton.mpr rfl)
      · obtain rfl := List.mem_singleton.mp tried
        exact unread
  | legacy primaryError =>
      obtain ⟨candidate, before, same, -, earlier, primary⟩ := seen
      obtain rfl := Option.some.inj same
      refine .rejected rfl nonempty grown ?_ primary
      intro profile _
      cases profile with
      | current | previous => exact earlier _ (by simp)
      | legacy => exact unread

/-- The lock, the defaults and the file are those of the open when its connection is
keyed, and it learns what the file says. -/
theorem OpenStep.known (documented : engine.Documented)
    (step : OpenStep engine place process opening process' opening')
    (sound : opening.Sound engine place process)
    (encrypted : opening.request.plan.security = .encrypted) :
    opening'.Known engine (process'.look (opening.request.location engine)) := by
  have grows : Grows (process.look (opening.request.location engine))
      (process'.look (opening.request.location engine)) :=
    Process.look_grows (step.guarantee sound).files
  have known := (sound.known encrypted).grows grows
  have prepared := sound.defaults
  unfold Opening.Known at known
  cases step with
  | probed here finds =>
      change Opening.Known engine { opening with
        sight := _, phase := .opening (Opening.firstTrial opening.request.plan.security _) } _
      rw [encrypted]
      exact ⟨.same _, rfl⟩
  | @opened trial before here =>
      rw [here] at known
      cases trial with
      | keyed attempt => exact known
      | plaintext => exact known
  | @openFailed trial error here fails =>
      rw [here] at known
      have closed := mt (documented.opens opening.request.flags
        (process.look (opening.request.location engine))).mpr (by rw [fails]; simp)
      obtain ⟨missing, create⟩ := not_or.mp closed
      cases trial with
      | plaintext => exact known.elim
      | keyed attempt =>
          have grown := known.1
          rw [not_not.mp missing] at grown
          exact .absent grown.absent (Bool.eq_false_iff.mpr create)
  | locked here | hmacUpdated here | pageSizeUpdated here =>
      rw [here] at known
      exact known
  | hmacFailed here fails | pageSizeFailed here fails | pragmaFailed here other fails =>
      rw [documented.updates] at fails
      cases fails
  | keyApplied here =>
      rw [here] at known prepared
      rw [prepared]
      exact ⟨known, documented.keyed encrypted _⟩
  | @unlocked attempt answer here =>
      rw [here] at known
      cases answer with
      | ok cipher => exact known
      | error error => exact .key known.2.1 known.2.2
  | @verified attempt cipher content here holds =>
      rw [here] at known
      cases verification : verifyDatabase engine (some cipher) content with
      | error error => exact known.1.rejected documented encrypted known.2 holds verification
      | ok value =>
          obtain ⟨tried, rfl, inRange⟩ := known
          have readable := (documented.reads _ _).mp ((verifyDatabase_ok_iff _ _).mp verification)
          cases attempt <;> exact ⟨_, rfl, tried.won inRange holds readable _⟩
  | plaintextVerified here =>
      rw [here] at known
      exact known.elim
  | timed here inRange =>
      rw [here] at known
      obtain ⟨keyed, same, won⟩ := known
      exact ⟨keyed, same, won.enter _, inRange⟩
  | timeoutPanicked here outOfRange =>
      rw [here] at known
      obtain ⟨keyed, same, won⟩ := known
      exact ⟨keyed, won.enter _, outOfRange⟩
  | @journalled cipher pragma left content here journal holds reads =>
      rw [here] at known
      obtain ⟨keyed, rfl, won, inRange⟩ := known
      have readable := (documented.reads _ _).mp reads
      rw [won.key] at readable
      exact ⟨keyed, rfl, won.reading readable _, inRange⟩
  | @journalFailed cipher pragma left content error here journal holds fails =>
      rw [here] at known
      obtain ⟨keyed, rfl, won, inRange⟩ := known
      have unread := mt (documented.reads keyed content).mpr (by rw [fails]; simp)
      rw [won.key] at unread
      obtain ⟨nonempty, unread⟩ := not_or.mp unread
      have there := there_of_nonempty holds nonempty
      rcases won.profile with ⟨current, blank⟩ | ⟨written, -⟩
      · have grown := won.grown
        rw [there] at grown
        rw [current] at unread
        exact .journal blank rfl nonempty grown unread
      · rw [there] at written
        exact absurd (Option.some.inj written) unread
  | pragmaUpdated here =>
      rw [here] at known
      obtain ⟨keyed, same, won, inRange⟩ := known
      exact ⟨keyed, same, won.enter _, inRange⟩
  | configured here =>
      rw [here] at known
      obtain ⟨keyed, same, won, inRange⟩ := known
      subst same
      exact ⟨keyed, won.enter _, by rw [encrypted], inRange⟩

/-- Opens next to each other. -/
theorem openRule (documented : engine.Documented) :
    RelyGuarantee (OpenStep engine)
      (fun place process opening => Opening.Sound engine place process opening)
      (@Guarantee Location) where
  own := by
    intro place process opening process' opening' step sound
    have request := step.request_eq
    exact
      { lock := step.lock sound
        defaults := step.defaults sound
        profile := step.profile sound
        unkeyed := by
          rw [request]
          exact step.unkeyed sound
        known := by
          rw [request]
          exact step.known documented sound
        path := by
          rw [request]
          exact step.path sound }
  guaranteed := fun step sound => step.guarantee sound
  stable := fun apart guarantee sound => sound.stable apart guarantee

end Rule

end Csgdb.Storage
