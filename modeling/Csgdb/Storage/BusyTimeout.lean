/-
Module: Csgdb.Storage.BusyTimeout
Purpose: Busy timeouts on their way to the engine's wrapper: the check of the setter, and
  how opens end that pass the timeout of their plan.
Trusted boundary: the wrapper panics exactly on what does not fit its signed 32-bit
  milliseconds.
Main exports: Duration, Ending, validateBusyTimeout, setBusyTimeout, OpenRequest.Passes,
  OpenRequest.Ends, OpenEach
-/
import Csgdb.Storage.Opening

namespace Csgdb.Storage

open Foundation

/-- A span of time. -/
structure Duration where
  nanos : Nat
deriving Repr, DecidableEq

/-- `as_millis`, which drops what is no whole millisecond. -/
def Duration.asMillis (duration : Duration) : Nat :=
  duration.nanos / 1000000

def Duration.fromMillis (millis : Nat) : Duration where
  nanos := millis * 1000000

/-- How a call ends that configures a connection. -/
inductive Ending where
  | returned (answer : Result Unit)
  | panicked

/-- `busy_timeout` of the engine's wrapper. -/
def wrapperBusyTimeout (answer : Except EngineError Unit) (millis : Nat) : Ending :=
  if maxBusyTimeoutMillis < millis then .panicked
  else .returned (answer.mapError mapStorageError)

/-! ## The setter -/

def validateBusyTimeout (timeout : Duration) : Result Unit :=
  if maxBusyTimeoutMillis < timeout.asMillis then
    .error
      { code := .invalidBusyTimeout
        message := "busy timeout exceeds the supported millisecond range" }
  else .ok ()

/-- `Connection::set_busy_timeout`, with the milliseconds that reach the wrapper. -/
def setBusyTimeout (answer : Except EngineError Unit) (timeout : Duration) :
    Option Nat × Ending :=
  match validateBusyTimeout timeout with
  | .error error => (none, .returned (.error error))
  | .ok () => (some timeout.asMillis, wrapperBusyTimeout answer timeout.asMillis)

/-! ## Opens -/

section Opens

variable {Location : Type} [DecidableEq Location] (engine : Engine Location)

/-- An open of a request gets to a phase, from any files and defaults and next to any other
opens of the process. -/
def OpenRequest.Reaches (request : OpenRequest) (phase : Phase) : Prop :=
  ∃ files defaults requests openings opening,
    Runs (OpenStep engine) (Openings.initial files defaults requests) openings ∧
      opening ∈ openings.threads ∧ opening.request = request ∧ opening.phase = phase

/-- A verified connection is given the busy timeout of its plan next. -/
def OpenRequest.Passes (request : OpenRequest) (millis : Nat) : Prop :=
  (∃ cipher, request.Reaches engine (.verified cipher)) ∧ millis = request.plan.busyTimeout

/-- One `open_with_access`. -/
inductive OpenRequest.Ends (request : OpenRequest) : Ending → Prop
  | opened {connection : OpenedConnection}
      (reached : request.Reaches engine (.returned (.ok connection))) :
      Ends request (.returned (.ok ()))
  | failed {error : Error} (reached : request.Reaches engine (.returned (.error error))) :
      Ends request (.returned (.error error))
  | panicked (reached : request.Reaches engine .panicked) : Ends request .panicked

/-- Opens one after the other, up to the first one that does not succeed. -/
inductive OpenEach : List OpenRequest → Ending → Prop
  | done : OpenEach [] (.returned (.ok ()))
  | next {request : OpenRequest} {rest : List OpenRequest} {ending : Ending}
      (opened : request.Ends engine (.returned (.ok ()))) (others : OpenEach rest ending) :
      OpenEach (request :: rest) ending
  | stopped {request : OpenRequest} {rest : List OpenRequest} {ending : Ending}
      (ends : request.Ends engine ending) (unopened : ending ≠ .returned (.ok ())) :
      OpenEach (request :: rest) ending

end Opens

end Csgdb.Storage
