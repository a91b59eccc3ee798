/-
Module: Csgdb.Proofs.BusyTimeouts
Purpose: Which of the calls that configure a connection check the busy timeout before the
  engine's wrapper gets it.
Trusted boundary: none
Main exports: TimeoutCall, TimeoutCall.Passes, TimeoutCall.Ends, TimeoutCall.RangeChecked,
  busy_timeouts_checked_iff
-/
import Csgdb.Ffi.Open
import Csgdb.Pool.Open

namespace Csgdb

open Ffi Foundation Pool Storage

/-! ## The front ends -/

/-- The calls that configure a connection with a busy timeout, with the value that they are
given. -/
inductive TimeoutCall where
  /-- `DatabaseBuilder::open` and `open_single_owner`. -/
  | openDatabase (owner : ConnectionOwner) (timeout : Duration)
  | openPool (timeout : Duration)
  | csgdbOpenV3 (timeoutMs : UInt32)
  | setBusyTimeout (timeout : Duration)
  | csgdbBusyTimeout (timeoutMs : Int32)
deriving DecidableEq

/-- The value in milliseconds. -/
def TimeoutCall.millis : TimeoutCall → Int
  | .openDatabase _ timeout | .openPool timeout | .setBusyTimeout timeout => timeout.asMillis
  | .csgdbOpenV3 timeoutMs => timeoutMs.toNat
  | .csgdbBusyTimeout timeoutMs => timeoutMs.toInt

/-- The call changes the timeout of a connection that is open. -/
def TimeoutCall.setsTimeout : TimeoutCall → Bool
  | .setBusyTimeout _ | .csgdbBusyTimeout _ => true
  | .openDatabase _ _ | .openPool _ | .csgdbOpenV3 _ => false

/-- How such a call ends: in Rust it returns or panics, in C it returns a code. -/
inductive CallEnding where
  | rust (ending : Ending)
  | code (code : Code)

/-- `DatabaseBuilder::plan`. -/
def planned (path : String) (options : OpenOptions) : Result ResolvedOpenPlan :=
  prepareOpen path options >>= OpenPlan.resolveKey

def openRequest (owner : ConnectionOwner) (plan : ResolvedOpenPlan) : OpenRequest where
  plan := plan
  access := .readWrite
  owner := owner
  cacheSizeBytes := plan.cacheSizeBytes

/-- The code that the C interface makes of the end of an open; a panic does not come back
through it. -/
def CallEnding.ofC : Ending → CallEnding
  | .returned (.ok ()) => .code .ok
  | .returned (.error error) => .code (errorCode error)
  | .panicked => .rust .panicked

/-- The milliseconds that a call can hand to the engine's wrapper. -/
inductive TimeoutCall.Passes : TimeoutCall → Nat → Prop
  | openDatabase {Location : Type} [DecidableEq Location] (engine : Engine Location)
      {owner : ConnectionOwner} {timeout : Duration} {path : String} {options : OpenOptions}
      {plan : ResolvedOpenPlan} {millis : Nat} (given : options.busyTimeout = timeout.asMillis)
      (accepted : planned path options = .ok plan)
      (passes : (openRequest owner plan).Passes engine millis) :
      Passes (.openDatabase owner timeout) millis
  | openPool {Location : Type} [DecidableEq Location] (engine : Engine Location)
      {timeout : Duration} {path : String} {options : OpenOptions} {plan : ResolvedOpenPlan}
      {memoryBudgetBytes : Nat} {poolOptions : PoolOptions} {requests : List OpenRequest}
      {request : OpenRequest} {millis : Nat} (given : options.busyTimeout = timeout.asMillis)
      (accepted : planned path options = .ok plan)
      (managed : poolRequests plan memoryBudgetBytes poolOptions = .ok requests)
      (member : request ∈ requests) (passes : request.Passes engine millis) :
      Passes (.openPool timeout) millis
  | csgdbOpenV3 {Location : Type} [DecidableEq Location] (engine : Engine Location)
      {timeoutMs : UInt32} {path : CString} {hasOutput : Bool}
      {arguments : CsgdbOpenOptions} {opened : String × OpenOptions}
      {plan : ResolvedOpenPlan} {millis : Nat} (given : arguments.busyTimeoutMs = timeoutMs)
      (checked : openV3Arguments path hasOutput (some arguments) = .ok opened)
      (accepted : planned opened.1 opened.2 = .ok plan)
      (passes : (openRequest .shared plan).Passes engine millis) :
      Passes (.csgdbOpenV3 timeoutMs) millis
  | setBusyTimeout {timeout : Duration} {answer : Except EngineError Unit} {millis : Nat}
      (passes : (Storage.setBusyTimeout answer timeout).1 = some millis) :
      Passes (.setBusyTimeout timeout) millis
  | csgdbBusyTimeout {timeoutMs : Int32} {answer : Except EngineError Unit} {millis : Nat}
      (unsigned : 0 ≤ timeoutMs.toInt)
      (passes : (Storage.setBusyTimeout answer (.fromMillis timeoutMs.toInt.toNat)).1 =
        some millis) :
      Passes (.csgdbBusyTimeout timeoutMs) millis

/-- The ways in which a call can end. -/
inductive TimeoutCall.Ends : TimeoutCall → CallEnding → Prop
  | unplanned {owner : ConnectionOwner} {timeout : Duration} {path : String}
      {options : OpenOptions} {error : Error}
      (given : options.busyTimeout = timeout.asMillis)
      (refused : planned path options = .error error) :
      Ends (.openDatabase owner timeout) (.rust (.returned (.error error)))
  | openDatabase {Location : Type} [DecidableEq Location] (engine : Engine Location)
      {owner : ConnectionOwner} {timeout : Duration} {path : String} {options : OpenOptions}
      {plan : ResolvedOpenPlan} {ending : Ending}
      (given : options.busyTimeout = timeout.asMillis)
      (accepted : planned path options = .ok plan)
      (ends : (openRequest owner plan).Ends engine ending) :
      Ends (.openDatabase owner timeout) (.rust ending)
  | poolUnplanned {timeout : Duration} {path : String} {options : OpenOptions}
      {error : Error} (given : options.busyTimeout = timeout.asMillis)
      (refused : planned path options = .error error) :
      Ends (.openPool timeout) (.rust (.returned (.error error)))
  | poolRefused {timeout : Duration} {path : String} {options : OpenOptions}
      {plan : ResolvedOpenPlan} {memoryBudgetBytes : Nat} {poolOptions : PoolOptions}
      {error : Error} (given : options.busyTimeout = timeout.asMillis)
      (accepted : planned path options = .ok plan)
      (refused : poolRequests plan memoryBudgetBytes poolOptions = .error error) :
      Ends (.openPool timeout) (.rust (.returned (.error error)))
  | openPool {Location : Type} [DecidableEq Location] (engine : Engine Location)
      {timeout : Duration} {path : String} {options : OpenOptions} {plan : ResolvedOpenPlan}
      {memoryBudgetBytes : Nat} {poolOptions : PoolOptions} {requests : List OpenRequest}
      {ending : Ending} (given : options.busyTimeout = timeout.asMillis)
      (accepted : planned path options = .ok plan)
      (managed : poolRequests plan memoryBudgetBytes poolOptions = .ok requests)
      (ends : OpenEach engine requests ending) :
      Ends (.openPool timeout) (.rust ending)
  -- Behind the writer's open, its checkpoint threshold or its thread can fail.
  | poolUnstarted {Location : Type} [DecidableEq Location] (engine : Engine Location)
      {timeout : Duration} {path : String} {options : OpenOptions} {plan : ResolvedOpenPlan}
      {memoryBudgetBytes : Nat} {poolOptions : PoolOptions} {writer : OpenRequest}
      {readers : List OpenRequest} {error : Error}
      (given : options.busyTimeout = timeout.asMillis)
      (accepted : planned path options = .ok plan)
      (managed : poolRequests plan memoryBudgetBytes poolOptions = .ok (writer :: readers))
      (opened : writer.Ends engine (.returned (.ok ()))) :
      Ends (.openPool timeout) (.rust (.returned (.error error)))
  | argument {timeoutMs : UInt32} {path : CString} {hasOutput : Bool}
      {arguments : CsgdbOpenOptions} {code : Code}
      (given : arguments.busyTimeoutMs = timeoutMs)
      (refused : openV3Arguments path hasOutput (some arguments) = .error code) :
      Ends (.csgdbOpenV3 timeoutMs) (.code code)
  | csgdbUnplanned {timeoutMs : UInt32} {path : CString} {hasOutput : Bool}
      {arguments : CsgdbOpenOptions} {opened : String × OpenOptions} {error : Error}
      (given : arguments.busyTimeoutMs = timeoutMs)
      (checked : openV3Arguments path hasOutput (some arguments) = .ok opened)
      (refused : planned opened.1 opened.2 = .error error) :
      Ends (.csgdbOpenV3 timeoutMs) (.code (errorCode error))
  | csgdbOpenV3 {Location : Type} [DecidableEq Location] (engine : Engine Location)
      {timeoutMs : UInt32} {path : CString} {hasOutput : Bool}
      {arguments : CsgdbOpenOptions} {opened : String × OpenOptions}
      {plan : ResolvedOpenPlan} {ending : Ending}
      (given : arguments.busyTimeoutMs = timeoutMs)
      (checked : openV3Arguments path hasOutput (some arguments) = .ok opened)
      (accepted : planned opened.1 opened.2 = .ok plan)
      (ends : (openRequest .shared plan).Ends engine ending) :
      Ends (.csgdbOpenV3 timeoutMs) (.ofC ending)
  | setBusyTimeout {timeout : Duration} (answer : Except EngineError Unit) :
      Ends (.setBusyTimeout timeout) (.rust (Storage.setBusyTimeout answer timeout).2)
  | csgdbBusyTimeout {timeoutMs : Int32} {handle : CsgdbHandle} {answers : DatabaseAnswers}
      {answer : Except EngineError Unit}
      (wired : ∀ millis result,
        (Storage.setBusyTimeout answer (.fromMillis millis)).2 = .returned result →
          answers.setBusyTimeout millis = result) :
      Ends (.csgdbBusyTimeout timeoutMs)
        (.code (handle.busyTimeout answers timeoutMs.toInt).1)
  | csgdbPanicked {timeoutMs : Int32} {answer : Except EngineError Unit}
      (unsigned : 0 ≤ timeoutMs.toInt)
      (panics : (Storage.setBusyTimeout answer (.fromMillis timeoutMs.toInt.toNat)).2 =
        .panicked) :
      Ends (.csgdbBusyTimeout timeoutMs) (.rust .panicked)

/-- The end says that the timeout is out of range. -/
def CallEnding.Reports : CallEnding → Prop
  | .rust (.returned (.error error)) => error.code = .invalidBusyTimeout
  | .code returned => returned = .invalidArgument
  | _ => False

/-- No call with this value hands the wrapper more than it takes or panics, and a larger
value is reported. -/
def TimeoutCall.RangeChecked (call : TimeoutCall) : Prop :=
  (∀ millis, call.Passes millis → millis ≤ maxBusyTimeoutMillis) ∧
  ∀ ending, call.Ends ending →
    ending ≠ .rust .panicked ∧ (maxBusyTimeoutMillis < call.millis → ending.Reports)

/-! ## Plans keep the timeout -/

theorem planned_busyTimeout {path : String} {options : OpenOptions} {plan : ResolvedOpenPlan}
    (accepted : planned path options = .ok plan) : plan.busyTimeout = options.busyTimeout := by
  obtain ⟨prepared, isPrepared, resolved⟩ := bind_eq_ok_iff.mp accepted
  have kept : prepared.busyTimeout = options.busyTimeout := by
    unfold prepareOpen at isPrepared
    split at isPrepared
    case h_1 => cases isPrepared
    case h_2 =>
      split at isPrepared
      case h_1 => cases isPrepared
      case h_2 =>
        split at isPrepared
        case h_1 => cases isPrepared
        case h_2 =>
          obtain rfl := Except.ok.inj isPrepared
          rfl
  rw [← kept]
  unfold OpenPlan.resolveKey at resolved
  dsimp only at resolved
  split at resolved
  case h_1 =>
    obtain rfl := Except.ok.inj resolved
    rfl
  case h_2 =>
    split at resolved
    case h_1 => cases resolved
    case h_2 =>
      obtain rfl := Except.ok.inj resolved
      rfl

/-- Every connection of a pool has the plan of the pool. -/
theorem poolRequests_plan {plan : ResolvedOpenPlan} {memoryBudgetBytes : Nat}
    {options : PoolOptions} {requests : List OpenRequest}
    (managed : poolRequests plan memoryBudgetBytes options = .ok requests) :
    ∀ request ∈ requests, request.plan = plan := by
  obtain ⟨⟨⟩, -, managed⟩ := bind_eq_ok_iff.mp managed
  obtain ⟨cacheBytes, -, managed⟩ := bind_eq_ok_iff.mp managed
  obtain rfl := Except.ok.inj managed
  intro request member
  rcases List.mem_cons.mp member with rfl | reader
  · rfl
  · rw [List.eq_of_mem_replicate reader]

theorem openV3Arguments_busyTimeout {path : CString} {hasOutput : Bool}
    {arguments : CsgdbOpenOptions} {opened : String × OpenOptions}
    (checked : openV3Arguments path hasOutput (some arguments) = .ok opened) :
    opened.2.busyTimeout = arguments.busyTimeoutMs.toNat := by
  unfold openV3Arguments at checked
  split at checked
  case isTrue => cases checked
  case isFalse =>
    dsimp only at checked
    split at checked
    case isTrue => cases checked
    case isFalse =>
      split at checked
      case h_1 => cases checked
      case h_2 flags known =>
        cases vfs : optionalCString arguments.vfs with
        | error code =>
            rw [vfs] at checked
            cases checked
        | ok vfsName =>
            cases key : (parseKeySource arguments.key).mapError errorCode with
            | error code =>
                rw [vfs, key] at checked
                cases checked
            | ok source =>
                cases text : cString path with
                | error code =>
                    rw [vfs, key, text] at checked
                    cases checked
                | ok name =>
                    rw [vfs, key, text] at checked
                    obtain rfl := Except.ok.inj checked
                    exact Nat.mul_div_cancel _ (by decide)

/-! ## Opens pass the timeout on -/

section Opens

variable {Location : Type} [DecidableEq Location] {engine : Engine Location}

theorem attempt_next_ne_panicked (attempt : Attempt) (cipher : Cipher) (answer : Result Unit) :
    attempt.next cipher answer ≠ .panicked := by
  cases answer with
  | ok value => cases attempt <;> exact Phase.noConfusion
  | error error =>
      cases attempt with
      | current candidate => cases candidate <;> exact Phase.noConfusion
      | previous primaryError | legacy primaryError => exact Phase.noConfusion

/-- A panicked open has a timeout that is out of range. -/
def PanicsOutOfRange (opening : Opening) : Prop :=
  opening.phase = .panicked → maxBusyTimeoutMillis < opening.request.plan.busyTimeout

theorem openStep_panicsOutOfRange {place : Nat} {process process' : Process Location}
    {opening opening' : Opening}
    (step : OpenStep engine place process opening process' opening') :
    PanicsOutOfRange opening' := by
  intro isPanicked
  cases step with
  | timeoutPanicked here outOfRange => exact outOfRange
  | verified => exact absurd isPanicked (attempt_next_ne_panicked _ _ _)
  | @unlocked attempt answer here =>
      cases answer <;> cases isPanicked
  | @plaintextVerified content here holds =>
      change Phase.afterPlaintext (verifyDatabase engine none content) = .panicked at isPanicked
      cases verified : verifyDatabase engine none content with
      | ok value | error error =>
          rw [verified] at isPanicked
          cases isPanicked
  | _ => cases isPanicked

/-- An open panics only on a timeout that is out of range. -/
theorem panicked_outOfRange {request : OpenRequest}
    (reached : request.Reaches engine .panicked) :
    maxBusyTimeoutMillis < request.plan.busyTimeout := by
  obtain ⟨files, defaults, requests, openings, opening, run, member, rfl, isPanicked⟩ := reached
  have rule : RelyGuarantee (OpenStep engine)
      (fun _ _ opening => PanicsOutOfRange opening) (fun _ _ _ => True) :=
    { own := fun step _ => openStep_panicsOutOfRange step
      guaranteed := fun _ _ => trivial
      stable := fun _ _ outOfRange => outOfRange }
  obtain ⟨place, present⟩ := List.mem_iff_getElem?.mp member
  refine rule.runs ?_ run place opening present isPanicked
  intro place opening called
  obtain ⟨request, -, rfl⟩ := List.mem_map.mp (List.mem_of_getElem? called)
  intro isPanicked
  cases isPanicked

end Opens

/-- An engine that opens and reads everything. -/
def obligingEngine : Engine Unit where
  metadata _ := ()
  located _ _ _ := some ()
  openFile _ _ := .ok ()
  key _ := sqliteKeyed
  read _ _ := .ok ()
  pragmaUpdate _ := .ok ()

/-- An open without a key that gets as far as its timeout panics when that is out of
range. -/
theorem plaintext_panics {request : OpenRequest} (plaintext : request.plan.security = .plaintext)
    (outOfRange : maxBusyTimeoutMillis < request.plan.busyTimeout) :
    request.Reaches obligingEngine .panicked := by
  have trial : Opening.firstTrial request.plan.security none = .plaintext := by
    rw [plaintext]
    rfl
  have run : ∃ shared sight, Runs (OpenStep obligingEngine)
      (Openings.initial (fun _ => none) CipherProfile.current.settings [request])
      { shared := shared
        threads := [{ request := request, sight := sight, phase := .panicked }] } := by
    apply Exists.intro
    apply Exists.intro
    apply Relation.ReflTransGen.head (.first (.probed rfl rfl))
    apply Relation.ReflTransGen.head (.first (.opened (congrArg _ trial) rfl rfl))
    apply Relation.ReflTransGen.head (.first (.plaintextVerified rfl rfl))
    apply Relation.ReflTransGen.head (.first (.timeoutPanicked rfl outOfRange))
    exact .refl
  obtain ⟨shared, sight, run⟩ := run
  exact ⟨_, _, _, _, _, run, List.mem_singleton.mpr rfl, rfl, rfl⟩

theorem ends_panicked {Location : Type} [DecidableEq Location] {engine : Engine Location}
    {request : OpenRequest} (ends : request.Ends engine .panicked) :
    request.Reaches engine .panicked := by
  cases ends with
  | panicked reached => exact reached

theorem openEach_panicked {Location : Type} [DecidableEq Location] {engine : Engine Location}
    {requests : List OpenRequest} (ends : OpenEach engine requests .panicked) :
    ∃ request ∈ requests, request.Reaches engine .panicked := by
  induction requests with
  | nil => cases ends
  | cons request rest ih =>
      cases ends with
      | next opened others =>
          obtain ⟨later, member, reached⟩ := ih others
          exact ⟨later, .tail request member, reached⟩
      | stopped ends unopened => exact ⟨request, .head rest, ends_panicked ends⟩

/-! ## Setters -/

theorem setBusyTimeout_inRange (answer : Except EngineError Unit) (timeout : Duration) :
    (∀ millis, (setBusyTimeout answer timeout).1 = some millis →
      millis ≤ maxBusyTimeoutMillis) ∧
    (setBusyTimeout answer timeout).2 ≠ .panicked ∧
    (maxBusyTimeoutMillis < timeout.asMillis →
      (CallEnding.rust (setBusyTimeout answer timeout).2).Reports) := by
  unfold setBusyTimeout validateBusyTimeout
  by_cases outOfRange : maxBusyTimeoutMillis < timeout.asMillis
  · rw [if_pos outOfRange]
    refine ⟨fun _ passed => ?_, Ending.noConfusion, fun _ => rfl⟩
    cases passed
  · rw [if_neg outOfRange]
    unfold wrapperBusyTimeout
    dsimp only
    rw [if_neg outOfRange]
    refine ⟨fun millis passed => ?_, Ending.noConfusion, fun large => absurd large outOfRange⟩
    obtain rfl := Option.some.inj passed
    exact Nat.le_of_not_lt outOfRange

/-! ## All front ends -/

namespace TimeoutCall

variable {call : TimeoutCall}

theorem passes_inRange (fine : call.setsTimeout = true ∨ call.millis ≤ maxBusyTimeoutMillis)
    {millis : Nat} (passes : call.Passes millis) : millis ≤ maxBusyTimeoutMillis := by
  cases passes with
  | openDatabase engine given accepted passes =>
      have inRange := Int.ofNat_le.mp (fine.resolve_left Bool.noConfusion)
      rw [passes.2]
      exact ((planned_busyTimeout accepted).trans given).trans_le inRange
  | openPool engine given accepted managed member passes =>
      have inRange := Int.ofNat_le.mp (fine.resolve_left Bool.noConfusion)
      rw [passes.2, poolRequests_plan managed _ member]
      exact ((planned_busyTimeout accepted).trans given).trans_le inRange
  | csgdbOpenV3 engine given checked accepted passes =>
      have inRange := Int.ofNat_le.mp (fine.resolve_left Bool.noConfusion)
      have kept := openV3Arguments_busyTimeout checked
      rw [given] at kept
      rw [passes.2]
      exact ((planned_busyTimeout accepted).trans kept).trans_le inRange
  | setBusyTimeout passes | csgdbBusyTimeout _ passes =>
      exact (setBusyTimeout_inRange _ _).1 millis passes

/-- No call with a value in range panics, and no setter does. -/
theorem ends_ne_panicked
    (fine : call.setsTimeout = true ∨ call.millis ≤ maxBusyTimeoutMillis)
    {ending : CallEnding} (ends : call.Ends ending) : ending ≠ .rust .panicked := by
  intro isPanicked
  cases ends with
  | openDatabase engine given accepted ends =>
      have inRange := Int.ofNat_le.mp (fine.resolve_left Bool.noConfusion)
      obtain rfl := CallEnding.rust.inj isPanicked
      have outOfRange := panicked_outOfRange (ends_panicked ends)
      exact absurd (((planned_busyTimeout accepted).trans given).trans_le inRange)
        outOfRange.not_ge
  | openPool engine given accepted managed ends =>
      have inRange := Int.ofNat_le.mp (fine.resolve_left Bool.noConfusion)
      obtain rfl := CallEnding.rust.inj isPanicked
      obtain ⟨request, member, reached⟩ := openEach_panicked ends
      have outOfRange := panicked_outOfRange reached
      rw [poolRequests_plan managed _ member] at outOfRange
      exact absurd (((planned_busyTimeout accepted).trans given).trans_le inRange)
        outOfRange.not_ge
  | @csgdbOpenV3 _ _ engine _ _ _ _ _ _ ending given checked accepted ends =>
      have inRange := Int.ofNat_le.mp (fine.resolve_left Bool.noConfusion)
      have kept := openV3Arguments_busyTimeout checked
      rw [given] at kept
      rcases ending with (error | ⟨⟩) | _
      · cases isPanicked
      · cases isPanicked
      · have outOfRange := panicked_outOfRange (ends_panicked ends)
        exact absurd (((planned_busyTimeout accepted).trans kept).trans_le inRange)
          outOfRange.not_ge
  | setBusyTimeout answer =>
      exact (setBusyTimeout_inRange _ _).2.1 (CallEnding.rust.inj isPanicked)
  | csgdbPanicked unsigned panics =>
      exact (setBusyTimeout_inRange _ _).2.1 panics
  | _ => cases isPanicked

/-- The setters report what is out of range. -/
theorem reports_of_large
    (fine : call.setsTimeout = true ∨ call.millis ≤ maxBusyTimeoutMillis)
    {ending : CallEnding} (ends : call.Ends ending)
    (large : maxBusyTimeoutMillis < call.millis) : ending.Reports := by
  have sets := fine.resolve_right (not_le_of_gt large)
  cases ends with
  | setBusyTimeout answer =>
      exact (setBusyTimeout_inRange _ _).2.2 (Int.ofNat_lt.mp large)
  | @csgdbBusyTimeout timeoutMs | @csgdbPanicked timeoutMs =>
      exact absurd timeoutMs.toInt_lt (not_lt_of_ge large)
  | _ => cases sets

/-- The flags of an open without a key. -/
def plainFlags : OpenFlags :=
  .union (.union .readwrite .create) .plaintext

def plainOptions (millis : Nat) : OpenOptions where
  flags := plainFlags
  busyTimeout := millis
  cacheSizeBytes := 16777216
  vfs := none
  key := .auto
  autoKeyProvider := none

theorem plainFlags_normalized : normalizeAndValidateFlags plainFlags = .ok plainFlags := rfl

theorem plain_planned (millis : Nat) :
    ∃ plan, planned "notes.db" (plainOptions millis) = .ok plan ∧ plan.flags = plainFlags ∧
      plan.security = .plaintext ∧ plan.cacheSizeBytes = 16777216 := by
  have identity : DatabaseIdentity.fromPath "notes.db" = .ok ⟨"notes.db", by decide⟩ := rfl
  unfold planned prepareOpen
  simp only [identity]
  split
  case h_1 refused => cases plainFlags_normalized.symm.trans refused
  case h_2 flags normalized =>
    obtain rfl := Except.ok.inj (plainFlags_normalized.symm.trans normalized)
    exact ⟨_, rfl, rfl, rfl, rfl⟩

def plainArguments (timeoutMs : UInt32) : CsgdbOpenOptions where
  structSize := 80
  abiVersion := 1
  flags := 0x46
  busyTimeoutMs := timeoutMs
  cacheSizeBytes := 16777216
  memoryBudgetBytes := 67108864
  vfs := .null
  hasDeviceProfile := false
  key := { structSize := 32, kind := 0, data := none }

theorem plain_checked (timeoutMs : UInt32) :
    openV3Arguments (.text "notes.db") true (some (plainArguments timeoutMs)) =
      .ok ("notes.db", plainOptions (Duration.fromMillis timeoutMs.toNat).asMillis) := by
  have flags : OpenFlags.fromBits (UInt32.toBitVec 0x46) = some plainFlags := rfl
  unfold openV3Arguments plainArguments
  dsimp only
  rw [if_neg (by decide), if_neg (by decide), flags]
  rfl

theorem plain_pooled {plan : ResolvedOpenPlan} (flags : plan.flags = plainFlags)
    (cache : plan.cacheSizeBytes = 16777216) :
    ∃ writer readers,
      poolRequests plan 67108864 .default = .ok (writer :: readers) ∧
        writer.plan = plan := by
  have valid : validatePoolOptions plan .default = .ok () := by
    unfold validatePoolOptions
    rw [flags, if_neg (by decide), if_neg (by decide)]
    rfl
  have share : poolCacheBytesPerConnection plan 67108864 .default = .ok 16777216 := by
    unfold poolCacheBytesPerConnection
    rw [cache]
    simp [PoolOptions.default]
  unfold poolRequests
  rw [valid, share]
  exact ⟨_, _, rfl, rfl⟩

/-- Every open hands the wrapper a larger value, which panics. -/
theorem panics_of_large (opens : call.setsTimeout = false)
    (large : maxBusyTimeoutMillis < call.millis) : call.Ends (.rust .panicked) := by
  cases call with
  | openDatabase owner timeout =>
      obtain ⟨plan, accepted, -, plaintext, -⟩ := plain_planned timeout.asMillis
      have kept := planned_busyTimeout accepted
      have outOfRange : maxBusyTimeoutMillis < plan.busyTimeout := by
        rw [kept]
        exact Int.ofNat_lt.mp large
      have panics : (openRequest owner plan).Reaches obligingEngine .panicked :=
        plaintext_panics plaintext outOfRange
      exact .openDatabase obligingEngine rfl accepted (.panicked panics)
  | openPool timeout =>
      obtain ⟨plan, accepted, flags, plaintext, cache⟩ := plain_planned timeout.asMillis
      have kept := planned_busyTimeout accepted
      have outOfRange : maxBusyTimeoutMillis < plan.busyTimeout := by
        rw [kept]
        exact Int.ofNat_lt.mp large
      obtain ⟨writer, readers, managed, same⟩ := plain_pooled flags cache
      rw [← same] at plaintext outOfRange
      have panics := plaintext_panics plaintext outOfRange
      exact .openPool obligingEngine rfl accepted managed
        (.stopped (.panicked panics) Ending.noConfusion)
  | csgdbOpenV3 timeoutMs =>
      obtain ⟨plan, accepted, -, plaintext, -⟩ :=
        plain_planned (Duration.fromMillis timeoutMs.toNat).asMillis
      have kept := openV3Arguments_busyTimeout (plain_checked timeoutMs)
      have outOfRange : maxBusyTimeoutMillis < plan.busyTimeout := by
        rw [planned_busyTimeout accepted]
        exact (Int.ofNat_lt.mp large).trans_eq kept.symm
      have panics : (openRequest .shared plan).Reaches obligingEngine .panicked :=
        plaintext_panics plaintext outOfRange
      exact .csgdbOpenV3 obligingEngine rfl (plain_checked timeoutMs) accepted
        (.panicked panics)
  | setBusyTimeout | csgdbBusyTimeout => cases opens

/-- Calls check the busy timeout exactly when they set it on an open connection, or have
nothing to refuse: an open hands any value to the wrapper. -/
theorem busy_timeouts_checked_iff (call : TimeoutCall) :
    call.RangeChecked ↔
      call.setsTimeout = true ∨ call.millis ≤ maxBusyTimeoutMillis := by
  constructor
  · intro checked
    by_contra unfine
    obtain ⟨opens, large⟩ := not_or.mp unfine
    have panics := panics_of_large (Bool.eq_false_of_not_eq_true opens) (not_le.mp large)
    exact (checked.2 _ panics).1 rfl
  · intro fine
    refine ⟨fun millis passes => passes_inRange fine passes, fun ending ends => ?_⟩
    exact ⟨ends_ne_panicked fine ends, reports_of_large fine ends⟩

/-- Opening a database for C with a timeout of 2 ^ 31 ms. -/
theorem csgdbOpenV3_panics :
    TimeoutCall.Ends (.csgdbOpenV3 2147483648) (.rust .panicked) ∧
      ¬ TimeoutCall.RangeChecked (.csgdbOpenV3 2147483648) := by
  have panics : TimeoutCall.Ends (.csgdbOpenV3 2147483648) (.rust .panicked) :=
    panics_of_large rfl (by decide)
  exact ⟨panics, fun checked => (checked.2 _ panics).1 rfl⟩

end TimeoutCall

end Csgdb
