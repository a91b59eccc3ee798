/-
Module: Csgdb.Storage.Fault
Purpose: The storage layer that fails one selected operation: its rules, the controller of
  the process, and the operations of a wrapped file.
Trusted boundary: the operations of the file below are a parameter.
Main exports: FaultRule, Controller, Controller.intercept, FaultEvent, Controller.step,
  FaultFile, ioWrite, ioTruncate, ioSync
-/
import Csgdb.Foundation.EventRun
import Csgdb.Storage.Open

namespace Csgdb.Storage.Fault

open Foundation

/-! ## Rules -/

/-- The file that a fault is for.  A file that is neither the main database nor a log has
the target `any`, too. -/
inductive FaultTarget where
  | any
  | mainDatabase
  | writeAheadLog
deriving Repr, DecidableEq

inductive FaultOperation where
  | write
  | sync
  | truncate
deriving Repr, DecidableEq

inductive FaultAction where
  | error
  | partialWrite (prefixBytes : Nat)
deriving Repr, DecidableEq

/-- A rule that fires once. -/
structure FaultRule where
  operation : FaultOperation
  target : FaultTarget
  occurrence : UInt64
  action : FaultAction
  positive : occurrence ≠ 0
  partly : ∀ prefixBytes, action = .partialWrite prefixBytes →
    operation = .write ∧ prefixBytes ≠ 0
deriving Repr, DecidableEq

def invalidRule (message : String) : Error :=
  { code := .invalidFaultRule, message := message }

namespace FaultRule

/-- The check that all rules have in common. -/
def new (operation : FaultOperation) (target : FaultTarget) (occurrence : UInt64)
    (action : FaultAction)
    (partly : ∀ prefixBytes, action = .partialWrite prefixBytes →
      operation = .write ∧ prefixBytes ≠ 0) : Result FaultRule :=
  if zero : occurrence = 0 then
    .error (invalidRule "fault occurrence must be greater than zero")
  else
    .ok
      { operation := operation
        target := target
        occurrence := occurrence
        action := action
        positive := zero
        partly := partly }

def writeError (target : FaultTarget) (occurrence : UInt64) : Result FaultRule :=
  new .write target occurrence .error nofun

def partialWrite (target : FaultTarget) (occurrence : UInt64) (prefixBytes : Nat) :
    Result FaultRule :=
  if zero : prefixBytes = 0 then
    .error (invalidRule "partial-write prefix must be greater than zero")
  else
    new .write target occurrence (.partialWrite prefixBytes) fun _ same =>
      ⟨rfl, FaultAction.partialWrite.inj same ▸ zero⟩

def syncError (target : FaultTarget) (occurrence : UInt64) : Result FaultRule :=
  new .sync target occurrence .error nofun

def truncateError (target : FaultTarget) (occurrence : UInt64) : Result FaultRule :=
  new .truncate target occurrence .error nofun

end FaultRule

/-! ## The controller -/

/-- Counters since the session was started. -/
structure FaultStats where
  writes : Nat
  syncs : Nat
  truncates : Nat
  matchingOperations : Nat
  injections : Nat
deriving Repr, DecidableEq

/-- The controller of the process. -/
structure Controller where
  rule : Option FaultRule
  matchCount : Nat
  stats : FaultStats
deriving Repr, DecidableEq

/-- Range of `u64`. -/
def maxCount : Nat := 18446744073709551615

def targetMatches (expected actual : FaultTarget) : Bool :=
  expected == .any || expected == actual

/-- An operation is counted whether or not a rule is armed. -/
def FaultStats.seen (stats : FaultStats) : FaultOperation → FaultStats
  | .write => { stats with writes := saturatingSucc maxCount stats.writes }
  | .sync => { stats with syncs := saturatingSucc maxCount stats.syncs }
  | .truncate => { stats with truncates := saturatingSucc maxCount stats.truncates }

namespace Controller

/-- What `FaultSession::start` and the drop of a session leave. -/
def new : Controller where
  rule := none
  matchCount := 0
  stats := { writes := 0, syncs := 0, truncates := 0, matchingOperations := 0, injections := 0 }

/-- `FaultSession::arm`. -/
def arm (controller : Controller) (rule : FaultRule) : Controller :=
  { controller with rule := some rule, matchCount := 0 }

/-- `FaultSession::disarm`. -/
def disarm (controller : Controller) : Controller :=
  { controller with rule := none, matchCount := 0 }

/-- The action that an operation on a file is failed with, if it is. -/
def intercept (controller : Controller) (operation : FaultOperation) (target : FaultTarget) :
    Option FaultAction × Controller :=
  let controller := { controller with stats := controller.stats.seen operation }
  match controller.rule with
  | none => (none, controller)
  | some rule =>
      if rule.operation ≠ operation || !targetMatches rule.target target then
        (none, controller)
      else
        let controller := { controller with
          matchCount := saturatingSucc maxCount controller.matchCount
          stats := { controller.stats with
            matchingOperations :=
              saturatingSucc maxCount controller.stats.matchingOperations } }
        if controller.matchCount ≠ rule.occurrence.toNat then (none, controller)
        else
          (some rule.action, { controller with
            rule := none
            stats := { controller.stats with
              injections := saturatingSucc maxCount controller.stats.injections } })

end Controller

/-! ## Runs -/

/-- An operation on a file of some target. -/
structure Access where
  operation : FaultOperation
  target : FaultTarget
deriving Repr, DecidableEq

/-- What happens to the controller, one under its lock after the other. -/
inductive FaultEvent where
  | arm (rule : FaultRule)
  | disarm
  | access (access : Access)
deriving Repr, DecidableEq

/-- The action that an event is answered with. -/
def Controller.answer (controller : Controller) : FaultEvent → Option FaultAction
  | .arm _ | .disarm => none
  | .access access => (controller.intercept access.operation access.target).1

def Controller.step (controller : Controller) : FaultEvent → Controller
  | .arm rule => controller.arm rule
  | .disarm => controller.disarm
  | .access access => (controller.intercept access.operation access.target).2

/-- The controller of a session after some events. -/
def Controller.after (events : List FaultEvent) : Controller :=
  events.foldl Controller.step .new

/-! ## Files -/

def sqliteOk : Int := 0

/-- Range of `c_int`. -/
def maxInt : Int := 2147483647

def sqliteOpenMainDb : BitVec 32 := 0x00000100#32
def sqliteOpenWal : BitVec 32 := 0x00080000#32

def targetFromFlags (flags : BitVec 32) : FaultTarget :=
  if flags &&& sqliteOpenWal ≠ 0#32 then .writeAheadLog
  else if flags &&& sqliteOpenMainDb ≠ 0#32 then .mainDatabase
  else .any

/-- The operations of the file below, where it has them.  They give a result code and the
file after them; a write is given a buffer, the amount of it, and an offset. -/
structure IoMethods (File : Type) where
  write : Option (File → List UInt8 → Int → Int → Int × File)
  truncate : Option (File → Int → Int × File)
  sync : Option (File → Int → Int × File)

/-- A file with the file below. -/
structure FaultFile (File : Type) where
  methods : IoMethods File
  real : File
  target : FaultTarget

variable {File : Type}

/-- What `fault_open` installs when the open below succeeds. -/
def FaultFile.opened (methods : IoMethods File) (real : File) (flags : BitVec 32) :
    FaultFile File where
  methods := methods
  real := real
  target := targetFromFlags flags

/-- What an operation of a wrapped file gives. -/
structure IoOutcome (File : Type) where
  result : Int
  controller : Controller
  real : File

def ioWrite (controller : Controller) (file : FaultFile File) (buffer : List UInt8)
    (amount offset : Int) : IoOutcome File :=
  match file.methods.write with
  | none => ⟨sqliteIoerrWrite, controller, file.real⟩
  | some write =>
      match controller.intercept .write file.target with
      | (some .error, controller) => ⟨sqliteIoerrWrite, controller, file.real⟩
      | (some (.partialWrite prefixBytes), controller) =>
          -- a negative amount does not convert to `usize`
          let prefixBytes := if amount < 0 then 0 else min amount.toNat prefixBytes
          if 0 < prefixBytes then
            let written := write file.real buffer
              (if (prefixBytes : Int) ≤ maxInt then prefixBytes else amount) offset
            if written.1 ≠ sqliteOk then ⟨written.1, controller, written.2⟩
            else ⟨sqliteIoerrWrite, controller, written.2⟩
          else ⟨sqliteIoerrWrite, controller, file.real⟩
      | (none, controller) =>
          let written := write file.real buffer amount offset
          ⟨written.1, controller, written.2⟩

/-- Truncation and synchronization only differ in their operation and their error. -/
def ioForward (operation : FaultOperation) (failure : Int) (method : Option (File → Int × File))
    (controller : Controller) (file : FaultFile File) : IoOutcome File :=
  match method with
  | none => ⟨failure, controller, file.real⟩
  | some method =>
      match controller.intercept operation file.target with
      | (some _, controller) => ⟨failure, controller, file.real⟩
      | (none, controller) =>
          let done := method file.real
          ⟨done.1, controller, done.2⟩

def ioTruncate (controller : Controller) (file : FaultFile File) (size : Int) :
    IoOutcome File :=
  ioForward .truncate sqliteIoerrTruncate
    (file.methods.truncate.map fun truncate real => truncate real size) controller file

def ioSync (controller : Controller) (file : FaultFile File) (flags : Int) :
    IoOutcome File :=
  ioForward .sync sqliteIoerrFsync (file.methods.sync.map fun sync real => sync real flags)
    controller file

end Csgdb.Storage.Fault
