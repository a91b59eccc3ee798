/-
Module: Csgdb.Proofs.CipherProfiles
Purpose: Whatever other opens of the process do, every attempt of an open keys its
  connection with its own profile, and an open ends as it should with databases of every
  profile exactly when the probe of the path finds the bytes of an older one.
Trusted boundary: the documented behaviour of the engine is a named assumption.
Main exports: Opening.AsClaimed, Opening.Unhindered, opens_every_profile_iff,
  uri_hides_previous_database
-/
import Csgdb.Proofs.OpenRule

namespace Csgdb.Storage

open Foundation

variable {Location : Type} {engine : Engine Location} {opening : Opening}

/-! ## What is claimed of an open -/

namespace Opening

/-- The connection of an open with a profile. -/
def connection (opening : Opening) (profile : CipherProfile) : OpenedConnection where
  cipher := some (opening.request.cipher profile)
  security := .encrypted

/-- The file is new. -/
def Fresh (opening : Opening) : Prop :=
  opening.sight.found = some .empty ∨
    opening.sight.found = none ∧ opening.request.flags.create = true

/-- The file was written under a profile with the key of the open. -/
def Wrote (opening : Opening) (profile : CipherProfile) : Prop :=
  opening.sight.found = some (.written profile.settings opening.request.key)

/-- An open succeeds with its key, whatever the profile of the file, and then uses that
profile; with another key it fails as the first attempt does. -/
structure AsClaimed (engine : Engine Location) (opening : Opening) : Prop where
  own : ∀ profile, opening.Wrote profile →
    opening.phase = .returned (.ok (opening.connection profile))
  fresh : opening.Fresh → opening.phase = .returned (.ok (opening.connection .current))
  other : ∀ content, opening.sight.found = some content → content ≠ .empty →
    (∀ settings, content ≠ .written settings opening.request.key) →
      ∃ error, opening.request.currentAnswer engine content = .error error ∧
        opening.phase = .returned (.error error)

/-- The probe of the path finds bytes where the file is of an older profile. -/
def ProbeFinds (opening : Opening) : Prop :=
  ∀ profile, opening.Wrote profile →
    profile = .current ∨ legacyCandidate opening.sight.probed = true

/-- The probe finds an older database, nobody else initializes a new file with another
key before this open has read it for the last time, and key and timeout are in the range
of the engine. -/
structure Unhindered (opening : Opening) : Prop where
  probe : opening.ProbeFinds
  alone : opening.Fresh → ∀ content, opening.sight.lastRead = some content →
    content = .empty ∨ ∃ settings, content = .written settings opening.request.key
  key : (opening.Fresh ∨ ∃ profile, opening.Wrote profile) →
    opening.request.key.length ≤ maxKeyBytes
  timeout : (opening.Fresh ∨ ∃ profile, opening.Wrote profile) →
    opening.request.plan.busyTimeout ≤ maxBusyTimeoutMillis

end Opening

def Phase.finished : Phase → Bool
  | .returned _ | .panicked => true
  | _ => false

/-! ## The ends of an open -/

namespace Opening

variable {now : Option Content} {cipher : Cipher}

/-- A connection that reads a file of a profile has that profile. -/
theorem Won.of_wrote (won : opening.Won now cipher) {profile : CipherProfile}
    (wrote : opening.Wrote profile) :
    cipher = opening.request.cipher profile ∧
      (profile = .current ∨ legacyCandidate opening.sight.probed = true) := by
  have grown := won.grown
  rw [wrote] at grown
  have there := grown.frozen (not_blank_written _ _)
  rcases won.profile with ⟨-, blank⟩ | ⟨written, seen⟩
  · rw [wrote] at blank
    exact absurd blank (not_blank_written _ _)
  · have same : some (Content.written cipher.settings opening.request.key) =
        some (.written profile.settings opening.request.key) := written.symm.trans there
    have settings : cipher.settings = profile.settings := by
      injection Option.some.inj same
    constructor
    · cases cipher
      have key := won.key
      subst key settings
      rfl
    · rw [settings] at seen
      exact seen.imp_left CipherProfile.settings_injective

/-- A connection that reads a new file has the current profile. -/
theorem Won.of_blank (won : opening.Won now cipher) (blank : Blank opening.sight.found) :
    cipher = opening.request.cipher .current := by
  have settings : cipher.settings = CipherProfile.current.settings := by
    rcases won.profile with ⟨current, -⟩ | ⟨written, -⟩
    · exact current
    · have grown := won.grown
      rw [written] at grown
      exact grown.current blank
  cases cipher
  have key := won.key
  subst key settings
  rfl

/-- No connection reads a file of another key. -/
theorem Won.not_other (won : opening.Won now cipher) {content : Content}
    (found : opening.sight.found = some content) (nonempty : content ≠ .empty)
    (other : ∀ settings, content ≠ .written settings opening.request.key) : False := by
  have grown := won.grown
  rw [found] at grown
  have written := not_blank_of_nonempty nonempty
  rcases won.profile with ⟨-, blank⟩ | ⟨there, -⟩
  · rw [found] at blank
    exact written blank
  · rw [grown.frozen written] at there
    exact other _ (Option.some.inj there)

theorem Fresh.blank (fresh : opening.Fresh) : Blank opening.sight.found :=
  fresh.symm.imp_left And.left

/-- An open whose connection was returned was not hindered. -/
theorem Won.unhindered (won : opening.Won now cipher)
    (inRange : opening.request.plan.busyTimeout ≤ maxBusyTimeoutMillis) :
    opening.Unhindered where
  probe := fun _ wrote => (won.of_wrote wrote).2
  alone := by
    intro _ content read
    obtain ⟨last, same, readable⟩ := won.read
    obtain rfl := Option.some.inj (read.symm.trans same)
    exact readable.imp_right fun written => ⟨_, written⟩
  key := fun _ => won.inRange
  timeout := fun _ => inRange

/-- An open whose connection was returned did as is claimed. -/
theorem Won.asClaimed (won : opening.Won now cipher)
    (returned : opening.phase =
      .returned (.ok { cipher := some cipher, security := .encrypted })) :
    opening.AsClaimed engine where
  own := by
    intro profile wrote
    rw [returned, (won.of_wrote wrote).1]
    rfl
  fresh := by
    intro fresh
    rw [returned, won.of_blank fresh.blank]
    rfl
  other := fun _ found nonempty other => (won.not_other found nonempty other).elim

/-- Nothing that is claimed of its own files befalls an open that does not return. -/
theorem AsClaimed.unhindered_of_ne (claimed : opening.AsClaimed engine)
    (fails : ∀ connection, opening.phase ≠ .returned (.ok connection)) :
    opening.Unhindered where
  probe := fun _ wrote => absurd (claimed.own _ wrote) (fails _)
  alone := fun fresh => absurd (claimed.fresh fresh) (fails _)
  key := by
    rintro (fresh | ⟨profile, wrote⟩)
    · exact absurd (claimed.fresh fresh) (fails _)
    · exact absurd (claimed.own _ wrote) (fails _)
  timeout := by
    rintro (fresh | ⟨profile, wrote⟩)
    · exact absurd (claimed.fresh fresh) (fails _)
    · exact absurd (claimed.own _ wrote) (fails _)

/-- An open that nothing hinders does not lose a new file or one of its key. -/
theorem Lost.not_own {error : Error} (lost : opening.Lost engine error)
    (unhindered : opening.Unhindered) {profile : CipherProfile} :
    ¬ opening.Wrote profile := by
  intro wrote
  cases lost with
  | absent absent create => cases wrote.symm.trans absent
  | key long answer =>
      exact absurd (unhindered.key (.inr ⟨profile, wrote⟩)) (Nat.not_le.mpr long)
  | rejected read nonempty grown unread answer =>
      rw [wrote] at grown
      have same := grown.frozen (not_blank_written _ _)
      exact unread profile (unhindered.probe profile wrote) (Option.some.inj same)
  | journal blank read nonempty grown unread =>
      rw [wrote] at blank
      exact not_blank_written _ _ blank

theorem Lost.not_fresh {error : Error} (lost : opening.Lost engine error)
    (unhindered : opening.Unhindered) : ¬ opening.Fresh := by
  intro fresh
  -- What a new file was initialized with by others is in the current profile.
  have unreadable {content : Content} (read : opening.sight.lastRead = some content)
      (nonempty : content ≠ .empty) (grown : Grows opening.sight.found (some content))
      (unread : content ≠
        .written CipherProfile.current.settings opening.request.key) : False := by
    rcases unhindered.alone fresh content read with empty | ⟨settings, written⟩
    · exact nonempty empty
    · rw [written] at grown
      rw [grown.current fresh.blank] at written
      exact unread written
  cases lost with
  | absent absent create =>
      rcases fresh with empty | ⟨-, creates⟩
      · cases empty.symm.trans absent
      · rw [create] at creates
        cases creates
  | key long answer => exact absurd (unhindered.key (.inl fresh)) (Nat.not_le.mpr long)
  | rejected read nonempty grown unread answer =>
      exact unreadable read nonempty grown (unread .current (.inl rfl))
  | journal blank read nonempty grown unread => exact unreadable read nonempty grown unread

/-- With another key the error is that of the first attempt. -/
theorem Lost.answer {error : Error} (lost : opening.Lost engine error) {content : Content}
    (found : opening.sight.found = some content) (nonempty : content ≠ .empty) :
    opening.request.currentAnswer engine content = .error error := by
  have written := not_blank_of_nonempty nonempty
  cases lost with
  | absent absent create => cases found.symm.trans absent
  | key long answer => exact answer content
  | rejected read there grown unread answer =>
      rw [found] at grown
      rw [← Option.some.inj (grown.frozen written)]
      exact answer
  | journal blank read there grown unread =>
      rw [found] at blank
      exact absurd blank written

/-- A finished open did as is claimed exactly when nothing hindered it. -/
theorem Known.asClaimed_iff (known : opening.Known engine now)
    (finished : opening.phase.finished = true) :
    opening.AsClaimed engine ↔ opening.Unhindered := by
  unfold Known at known
  cases here : opening.phase with
  | returned answer =>
      rw [here] at known
      cases answer with
      | ok connection =>
          obtain ⟨cipher, won, rfl, inRange⟩ := known
          exact ⟨fun _ => won.unhindered inRange, fun _ => won.asClaimed here⟩
      | error error =>
          constructor
          · intro claimed
            exact claimed.unhindered_of_ne fun connection returned => by
              cases here.symm.trans returned
          · intro unhindered
            exact
              { own := fun _ wrote => absurd wrote (known.not_own unhindered)
                fresh := fun fresh => absurd fresh (known.not_fresh unhindered)
                other := fun content found nonempty _ =>
                  ⟨error, known.answer found nonempty, here⟩ }
  | panicked =>
      rw [here] at known
      obtain ⟨cipher, won, outOfRange⟩ := known
      constructor
      · intro claimed
        exact claimed.unhindered_of_ne fun connection returned => by
          cases here.symm.trans returned
      · intro unhindered
        have late := Nat.not_le.mpr outOfRange
        exact
          { own := fun _ wrote => absurd (unhindered.timeout (.inr ⟨_, wrote⟩)) late
            fresh := fun fresh => absurd (unhindered.timeout (.inl fresh)) late
            other := fun _ found nonempty other =>
              (won.not_other found nonempty other).elim }
  | _ =>
      rw [here] at finished
      cases finished

end Opening

/-! ## Opens end -/

section Ends

/-- Steps that the attempts after this one may take. -/
def Attempt.left : Attempt → Nat
  | .current _ => 14
  | .previous _ => 7
  | .legacy _ => 0

/-- Steps that an open may still take. -/
def Phase.left : Phase → Nat
  | .called => 28
  | .opening (.keyed attempt) => 13 + attempt.left
  | .opened (.keyed attempt) => 12 + attempt.left
  | .locked attempt => 11 + attempt.left
  | .hmacUpdated attempt => 10 + attempt.left
  | .pageSizeUpdated attempt => 9 + attempt.left
  | .keyApplied attempt _ => 8 + attempt.left
  | .keyed attempt _ => 7 + attempt.left
  | .opening .plaintext => 8
  | .opened .plaintext => 7
  | .verified _ => 6
  | .configuring _ pragmas => 1 + pragmas.length
  | .returned _ | .panicked => 0

theorem configurePragmas_length (request : OpenRequest) :
    (configurePragmas request).length ≤ 4 := by
  unfold configurePragmas
  split <;> simp

variable [DecidableEq Location] {place : Nat} {process process' : Process Location}
  {opening opening' : Opening}

omit [DecidableEq Location] in
theorem Attempt.next_left_lt (attempt : Attempt) (cipher : Cipher) (answer : Result Unit) :
    (attempt.next cipher answer).left < 7 + attempt.left := by
  cases answer with
  | ok value => cases attempt <;> simp [Attempt.next, Phase.left, Attempt.left]
  | error error =>
      cases attempt with
      | current candidate =>
          cases candidate <;> simp [Attempt.next, Phase.left, Attempt.left]
      | previous primaryError | legacy primaryError =>
          simp [Attempt.next, Phase.left, Attempt.left]

/-- Every step leaves an open fewer. -/
theorem OpenStep.left_lt (step : OpenStep engine place process opening process' opening') :
    opening'.phase.left < opening.phase.left := by
  cases step with
  | probed here =>
      rw [here]
      change (Phase.opening (Opening.firstTrial opening.request.plan.security _)).left < 28
      cases opening.request.plan.security <;>
        simp [Opening.firstTrial, Phase.left, Attempt.left]
  | @opened trial before here | @openFailed trial error here =>
      rw [here]
      cases trial <;> simp only [Opening.enter, Phase.left] <;> omega
  | @unlocked attempt answer here =>
      rw [here]
      cases answer <;> simp only [Opening.enter, Phase.afterUnlock, Phase.left] <;> omega
  | verified here =>
      rw [here]
      exact Attempt.next_left_lt _ _ _
  | @plaintextVerified content here holds =>
      rw [here]
      change (Phase.afterPlaintext _).left < 7
      unfold Phase.afterPlaintext
      split <;> simp [Phase.left]
  | timed here =>
      rw [here]
      have few := configurePragmas_length opening.request
      simp only [Opening.enter, Phase.left]
      omega
  | locked here | hmacUpdated here | hmacFailed here | pageSizeUpdated here
  | pageSizeFailed here | keyApplied here | timeoutPanicked here | journalled here
  | journalFailed here | pragmaUpdated here | pragmaFailed here | configured here =>
      rw [here]
      simp only [Opening.enter, Opening.reading, Phase.left, List.length_cons]
      omega

/-- An open that has not ended moves, unless it waits for the lock. -/
theorem Opening.moves (engine : Engine Location) (place : Nat) (process : Process Location)
    (opening : Opening) (unfinished : opening.phase.finished = false)
    (free : opening.phase.inside = false → process.profileLock = none) :
    ∃ process' opening', OpenStep engine place process opening process' opening' := by
  cases here : opening.phase with
  | called => exact ⟨_, _, .probed here rfl⟩
  | opening trial =>
      cases opens : engine.openFile opening.request.flags
          (process.look (opening.request.location engine)) with
      | ok value => exact ⟨_, _, .opened here rfl opens⟩
      | error error => exact ⟨_, _, .openFailed here opens⟩
  | opened trial =>
      cases trial with
      | keyed attempt => exact ⟨_, _, .locked here (free (by rw [here]; rfl))⟩
      | plaintext => exact ⟨_, _, .plaintextVerified here rfl⟩
  | locked attempt =>
      cases updates : engine.pragmaUpdate (hmacPragma attempt.profile.settings) with
      | ok value => exact ⟨_, _, .hmacUpdated here updates⟩
      | error error => exact ⟨_, _, .hmacFailed here updates⟩
  | hmacUpdated attempt =>
      cases updates : engine.pragmaUpdate (pageSizePragma attempt.profile.settings) with
      | ok value => exact ⟨_, _, .pageSizeUpdated here updates⟩
      | error error => exact ⟨_, _, .pageSizeFailed here updates⟩
  | pageSizeUpdated attempt => exact ⟨_, _, .keyApplied here⟩
  | keyApplied attempt answer => exact ⟨_, _, .unlocked here⟩
  | keyed attempt cipher => exact ⟨_, _, .verified here rfl⟩
  | verified cipher =>
      rcases Nat.lt_or_ge maxBusyTimeoutMillis opening.request.plan.busyTimeout with late | inRange
      · exact ⟨_, _, .timeoutPanicked here late⟩
      · exact ⟨_, _, .timed here inRange⟩
  | configuring cipher pragmas =>
      cases pragmas with
      | nil => exact ⟨_, _, .configured here⟩
      | cons pragma left =>
          by_cases journal : pragma.name = "journal_mode"
          · cases reads : engine.read cipher
                ((process.look (opening.request.location engine)).getD .empty) with
            | ok value => exact ⟨_, _, .journalled here journal rfl reads⟩
            | error error => exact ⟨_, _, .journalFailed here journal rfl reads⟩
          · cases updates : engine.pragmaUpdate pragma with
            | ok value => exact ⟨_, _, .pragmaUpdated here journal updates⟩
            | error error => exact ⟨_, _, .pragmaFailed here journal updates⟩
  | returned answer | panicked =>
      rw [here] at unfinished
      cases unfinished

/-- The lock is held by one of the opens. -/
def Openings.Held (openings : Openings Location) : Prop :=
  ∀ place, openings.shared.profileLock = some place → place < openings.threads.length

theorem Openings.Held.turn {openings next : Openings Location} (held : openings.Held)
    (turn : Turn (OpenStep engine) openings next) : next.Held := by
  intro holder locked
  rw [turn.length_eq]
  cases turn with
  | @of process process' threads place opening opening' present step =>
      have inRange := (List.getElem?_eq_some_iff.mp present).1
      cases step with
      | locked here free =>
          obtain rfl := Option.some.inj locked
          exact inRange
      | unlocked here => cases locked
      | opened here | journalled here =>
          rw [(Process.put_shared _ _ _).1] at locked
          exact held holder locked
      | _ => exact held holder locked

theorem Openings.Held.runs {openings next : Openings Location} (held : openings.Held)
    (run : Runs (OpenStep engine) openings next) : next.Held := by
  induction run with
  | refl => exact held
  | tail _ turn ih => exact ih.turn turn

end Ends

/-! ## All opens of a process -/

section Opens

theorem Openings.initial_sound (files : Location → Option Content)
    (defaults : CipherSettings) (requests : List OpenRequest) :
    Asserted (fun place process opening => Opening.Sound engine place process opening)
      (Openings.initial files defaults requests) := by
  intro place opening present
  obtain ⟨request, _, rfl⟩ := List.mem_map.mp (List.mem_of_getElem? present)
  constructor
  case lock => simp [OpenRequest.call, Phase.inside, Openings.initial]
  case defaults => exact trivial
  case profile => exact trivial
  case unkeyed => exact fun _ => trivial
  case known => exact fun _ => trivial
  case path => exact fun _ => rfl

theorem Phase.unfinished_of_inside {phase : Phase} (inside : phase.inside = true) :
    phase.finished = false := by
  cases phase with
  | called | opening | opened | keyed | verified | configuring => rfl
  | locked | hmacUpdated | pageSizeUpdated | keyApplied => rfl
  | returned | panicked => cases inside

variable [DecidableEq Location]

/-- Opens that can no longer move have ended. -/
theorem Openings.finished_of_stuck {openings : Openings Location}
    (sound : Asserted (fun place process opening => Opening.Sound engine place process opening)
      openings)
    (held : openings.Held) (stuck : ∀ next, ¬ Turn (OpenStep engine) openings next)
    (opening : Opening) (member : opening ∈ openings.threads) :
    opening.phase.finished = true := by
  have ends {place : Nat} {thread : Opening} (present : openings.threads[place]? = some thread)
      (free : thread.phase.inside = false → openings.shared.profileLock = none) :
      thread.phase.finished = true := by
    rw [← Bool.not_eq_false]
    intro unfinished
    obtain ⟨process', thread', step⟩ :=
      thread.moves engine place openings.shared unfinished free
    exact stuck _ (.of present step)
  obtain ⟨place, present⟩ := List.mem_iff_getElem?.mp member
  cases locked : openings.shared.profileLock with
  | none => exact ends present fun _ => locked
  | some holder =>
      -- The holder of the lock is never kept from moving.
      obtain ⟨owner, there⟩ : ∃ owner, openings.threads[holder]? = some owner :=
        ⟨_, List.getElem?_eq_getElem (held holder locked)⟩
      have inside := (sound holder owner there).lock.mpr locked
      have ended := ends there fun outside => by
        rw [inside] at outside
        cases outside
      rw [Phase.unfinished_of_inside inside] at ended
      cases ended

/-- In every interleaving of opens each attempt keys its connection with its own profile;
an encrypted open that has ended did as is claimed exactly when nothing hindered it, and
the probe of a path that names the file of the engine never does; and all opens end. -/
theorem opens_every_profile_iff (engine : Engine Location) (documented : engine.Documented)
    (files : Location → Option Content) (defaults : CipherSettings)
    (requests : List OpenRequest) (openings : Openings Location)
    (run : Runs (OpenStep engine) (Openings.initial files defaults requests) openings) :
    (∀ opening ∈ openings.threads,
      opening.phase.OwnProfile ∧
      (opening.request.location engine =
        some (engine.metadata opening.request.plan.path) → opening.ProbeFinds) ∧
      (opening.request.plan.security = .encrypted → opening.phase.finished = true →
        (opening.AsClaimed engine ↔ opening.Unhindered))) ∧
    ((∀ next, ¬ Turn (OpenStep engine) openings next) →
      ∀ opening ∈ openings.threads, opening.phase.finished = true) ∧
    WellFounded fun next state : Openings Location => Turn (OpenStep engine) state next := by
  have sound := (openRule documented).runs (Openings.initial_sound files defaults requests) run
  have held : openings.Held := by
    refine Openings.Held.runs ?_ run
    intro place locked
    cases locked
  refine ⟨?opens, Openings.finished_of_stuck sound held,
    turn_wellFounded fun step => step.left_lt⟩
  intro opening member
  obtain ⟨place, present⟩ := List.mem_iff_getElem?.mp member
  have known := sound place opening present
  refine ⟨known.profile, ?path, fun encrypted => (known.known encrypted).asClaimed_iff⟩
  intro plain profile wrote
  right
  rw [← known.path plain, wrote]
  rfl

end Opens

/-! ## A path that is a URI -/

/-- An engine with one database, that a URI names. -/
def uriEngine : Engine String where
  metadata := id
  located flags _ path :=
    some (if flags.uri && path = "file:notes.db" then "notes.db" else path)
  openFile flags content :=
    if content ≠ none ∨ flags.create = true then .ok ()
    else .error (.sqliteFailure .other 14)
  key _ := sqliteKeyed
  read cipher content :=
    if content = .empty ∨ content = .initialized cipher then .ok ()
    else .error (.sqliteFailure .notADatabase 26)
  pragmaUpdate _ := .ok ()

theorem uriEngine_documented : uriEngine.Documented where
  opens flags content := by
    by_cases opens : content ≠ none ∨ flags.create = true
    · simp [uriEngine, opens]
    · simp [uriEngine, opens]
  keys _ := rfl
  updates _ := rfl
  reads cipher content := by
    by_cases reads : content = .empty ∨ content = .written cipher.settings cipher.key
    · simp [uriEngine, Content.initialized, reads]
    · simp [uriEngine, Content.initialized, reads]

def uriOptions : OpenOptions where
  flags := .union .readwrite .uri
  busyTimeout := 5000
  cacheSizeBytes := 16777216
  vfs := none
  key := .passphrase [1, 2, 3]
  autoKeyProvider := none

def uriPlan : ResolvedOpenPlan where
  path := "file:notes.db"
  flags := .union (.union .readwrite .uri) .encrypted
  security := .encrypted
  busyTimeout := 5000
  cacheSizeBytes := 16777216
  vfs := none
  key := some (.passphrase [1, 2, 3])
  normal := ⟨by decide, by decide, by decide, by decide⟩
  secured := by decide
  keyed := by decide

def uriRequest : OpenRequest where
  plan := uriPlan
  access := .readWrite
  owner := .shared
  cacheSizeBytes := 16777216

/-- A database of the previous profile. -/
def previousDatabase : Content :=
  .written CipherProfile.previous.settings [1, 2, 3]

def uriFiles (location : String) : Option Content :=
  if location = "notes.db" then some previousDatabase else none

/-- The open after its first attempt. -/
def uriOpening : Opening where
  request := uriRequest
  sight :=
    { found := some previousDatabase, probed := none, lastRead := some previousDatabase }
  phase := .returned (.error
    { code := .invalidDatabaseKey
      message := "database key is incorrect or the file is not a supported database" })

def uriFailed : Openings String where
  shared :=
    { files := Function.update uriFiles "notes.db" (some previousDatabase)
      defaults := CipherProfile.current.settings
      profileLock := none }
  threads := [uriOpening]

theorem uriFailed_reached :
    Runs (OpenStep uriEngine)
      (Openings.initial uriFiles CipherProfile.legacy.settings [uriRequest]) uriFailed := by
  refine .head (.first (.probed rfl rfl)) ?_
  refine .head (.first (.opened rfl rfl rfl)) ?_
  refine .head (.first (.locked rfl rfl)) ?_
  refine .head (.first (.hmacUpdated rfl rfl)) ?_
  refine .head (.first (.pageSizeUpdated rfl rfl)) ?_
  refine .head (.first (.keyApplied rfl)) ?_
  refine .head (.first (.unlocked rfl)) ?_
  refine .head (.first (.verified rfl rfl)) ?_
  exact .refl

/-- A database of the previous profile does not open with its key through a URI: the probe
takes the URI for a path, finds nothing, and no older profile is tried. -/
theorem uri_hides_previous_database :
    (prepareOpen "file:notes.db" uriOptions >>= OpenPlan.resolveKey) = .ok uriPlan ∧
    Runs (OpenStep uriEngine)
      (Openings.initial uriFiles CipherProfile.legacy.settings [uriRequest]) uriFailed ∧
    uriOpening ∈ uriFailed.threads ∧ uriOpening.Wrote .previous ∧
    uriOpening.phase.finished = true ∧ ¬ uriOpening.AsClaimed uriEngine := by
  refine ⟨rfl, uriFailed_reached, List.mem_singleton.mpr rfl, rfl, rfl, ?_⟩
  intro claimed
  have returned := claimed.own .previous rfl
  cases returned

/-- What was proved of all opens, of this one. -/
theorem uri_open_hindered :
    uriOpening.AsClaimed uriEngine ↔ uriOpening.Unhindered :=
  ((opens_every_profile_iff uriEngine uriEngine_documented uriFiles
    CipherProfile.legacy.settings [uriRequest] uriFailed uriFailed_reached).1 uriOpening
    (List.mem_singleton.mpr rfl)).2.2 rfl rfl

end Csgdb.Storage
