/-
Module: Csgdb.Storage.FaultVfs
Purpose: The file system that fails one selected operation, as the engine sees it: how it is
  registered, how its files are opened, and what each of their methods does.
Trusted boundary: the file system below and its methods are a parameter.
Main exports: Vfs, registerVfsOnce_ok, VfsMethods, ParentVfs, FaultVfs, faultOpen, IoCall,
  FaultVfs.call, FaultVfs.machine
-/
import Csgdb.Foundation.Lockstep
import Csgdb.Storage.Fault

namespace Csgdb.Storage.Fault

open Foundation

def sqliteIoerr : Int := 10
def sqliteCantopen : Int := 14

/-- `size_of::<FaultFile>()`: two pointers and the target, padded. -/
def fileOffset : Nat := 24

/-! ## Registration -/

/-- What the registration reads and writes of a file system's table. -/
structure Vfs (Open Rest : Type) where
  szOsFile : Int
  zName : String
  xOpen : Open
  /-- The callbacks that are not changed. -/
  rest : Rest
deriving Repr, DecidableEq

def vfsName : String := "csgdb-fault-v1"

def unavailable (message : String) : Error :=
  { code := .storageBackendUnavailable, message := message }

/-- Range of `usize`. -/
def maxUsize : Nat := 18446744073709551615

/-- The room that the engine is told to have for a file: the wrapper and the file below. -/
def wrapperSize (szOsFile : Int) : Option Int :=
  let below := if szOsFile < 0 then maxUsize else szOsFile.toNat
  if maxUsize < fileOffset + below then none
  else if maxInt < (fileOffset + below : Nat) then none
  else some (fileOffset + below : Nat)

/-- The engine as the registration needs it: its initialization, its default file system,
and what comes of registering one. -/
structure VfsRegistry (Open Rest : Type) where
  initialized : Int
  default : Option (Vfs Open Rest)
  register : Vfs Open Rest → Int

variable {Open Rest : Type}

/-- The table that is registered. -/
def registerVfsOnce (registry : VfsRegistry Open Rest) (faultOpen : Open) :
    Result (Vfs Open Rest) :=
  if registry.initialized ≠ sqliteOk then
    .error (unavailable "storage runtime initialization failed")
  else
    match registry.default with
    | none => .error (unavailable "default storage VFS is unavailable")
    | some parent =>
        match wrapperSize parent.szOsFile with
        | none => .error (unavailable "storage VFS file structure is too large")
        | some size =>
            let wrapper := { parent with szOsFile := size, zName := vfsName, xOpen := faultOpen }
            if registry.register wrapper ≠ sqliteOk then
              .error (unavailable "fault-injection VFS registration failed")
            else .ok wrapper

theorem wrapperSize_eq_some {szOsFile size : Int} (sized : wrapperSize szOsFile = some size) :
    0 ≤ szOsFile ∧ size = fileOffset + szOsFile ∧ size ≤ maxInt := by
  unfold wrapperSize fileOffset maxUsize maxInt at sized
  unfold fileOffset maxInt
  by_cases negative : szOsFile < 0
  · -- a size that does not convert to `usize` overflows
    simp [negative] at sized
  · simp only [negative, if_false] at sized
    obtain ⟨below, rfl⟩ := Int.eq_ofNat_of_zero_le (Int.not_lt.mp negative)
    rw [Int.toNat_natCast] at sized
    split at sized
    case isTrue => cases sized
    case isFalse =>
      split at sized
      case isTrue => cases sized
      case isFalse fits =>
        obtain rfl := Option.some.inj sized
        omega

/-- The file below has all its room behind the wrapper, and nothing else of the table is
changed. -/
theorem registerVfsOnce_ok {registry : VfsRegistry Open Rest} {faultOpen : Open}
    {wrapper : Vfs Open Rest} (registered : registerVfsOnce registry faultOpen = .ok wrapper) :
    ∃ parent, registry.default = some parent ∧
      0 ≤ parent.szOsFile ∧ wrapper.szOsFile = fileOffset + parent.szOsFile ∧
      wrapper.szOsFile ≤ maxInt ∧ wrapper.rest = parent.rest := by
  unfold registerVfsOnce at registered
  split at registered
  case isTrue => cases registered
  case isFalse =>
    cases found : registry.default with
    | none =>
        rw [found] at registered
        cases registered
    | some parent =>
        simp only [found] at registered
        cases sized : wrapperSize parent.szOsFile with
        | none =>
            rw [sized] at registered
            cases registered
        | some size =>
            simp only [sized] at registered
            split at registered
            case isTrue => cases registered
            case isFalse =>
              cases registered
              obtain ⟨nonneg, sum, fits⟩ := wrapperSize_eq_some sized
              exact ⟨parent, rfl, nonneg, sum, fits, rfl⟩

/-! ## Files below -/

/-- A place in memory. -/
abbrev Pointer : Type := Nat

def null : Pointer := 0

/-- What a method writes through the pointers that it is given. -/
inductive IoValue where
  | bytes (bytes : List UInt8)
  | number (number : Int)
  | address (address : Pointer)
deriving Repr, DecidableEq

/-- What comes back of a method.  One that gives nothing back has the result zero. -/
structure IoReply where
  result : Int
  written : Option IoValue
deriving Repr, DecidableEq

/-- The methods of an open file, where it has them.  They work on all that the file system
below consists of. -/
structure VfsMethods (World : Type) extends IoMethods World where
  iVersion : Int
  close : Option (World → IoReply × World)
  read : Option (Int → Int → World → IoReply × World)
  fileSize : Option (World → IoReply × World)
  lock : Option (Int → World → IoReply × World)
  unlock : Option (Int → World → IoReply × World)
  checkReservedLock : Option (World → IoReply × World)
  fileControl : Option (Int → IoValue → World → IoReply × World)
  sectorSize : Option (World → IoReply × World)
  deviceCharacteristics : Option (World → IoReply × World)
  shmMap : Option (Int → Int → Int → World → IoReply × World)
  shmLock : Option (Int → Int → Int → World → IoReply × World)
  shmBarrier : Option (World → IoReply × World)
  shmUnmap : Option (Int → World → IoReply × World)
  fetch : Option (Int → Int → Bool → World → IoReply × World)
  unfetch : Option (Int → Pointer → World → IoReply × World)

/-- The file system below: how it opens a file, and the methods that the file at a place
has. -/
structure ParentVfs (World : Type) where
  xOpen : Option (World → Option (List UInt8) → Pointer → BitVec 32 → IoReply × World)
  pMethods : World → Pointer → Option (VfsMethods World)

variable {World : Type}

/-! ## Methods -/

/-- A method of the file below, or what is answered where it has none. -/
def forward (absent : IoReply) (method : Option (World → IoReply × World)) (world : World) :
    IoReply × World :=
  match method with
  | some method => method world
  | none => (absent, world)

/-- The methods that only differ in their name and their arguments. -/
def forwardIntMethod (method : Option (World → IoReply × World)) (world : World) :
    IoReply × World :=
  forward ⟨sqliteIoerr, none⟩ method world

section Methods

variable (methods : VfsMethods World)

def ioRead (amount offset : Int) (world : World) : IoReply × World :=
  forward ⟨sqliteIoerr, none⟩ (methods.read.map fun read => read amount offset) world

def ioFileSize (world : World) : IoReply × World :=
  forward ⟨sqliteIoerr, none⟩ methods.fileSize world

def ioLock (level : Int) (world : World) : IoReply × World :=
  forwardIntMethod (methods.lock.map fun lock => lock level) world

def ioUnlock (level : Int) (world : World) : IoReply × World :=
  forwardIntMethod (methods.unlock.map fun unlock => unlock level) world

def ioCheckReservedLock (world : World) : IoReply × World :=
  forwardIntMethod methods.checkReservedLock world

def ioFileControl (operation : Int) (argument : IoValue) (world : World) : IoReply × World :=
  forwardIntMethod (methods.fileControl.map fun control => control operation argument) world

def ioShmMap (page pageSize extend : Int) (world : World) : IoReply × World :=
  forwardIntMethod (methods.shmMap.map fun map => map page pageSize extend) world

def ioShmLock (offset count flags : Int) (world : World) : IoReply × World :=
  forwardIntMethod (methods.shmLock.map fun lock => lock offset count flags) world

def ioShmUnmap (delete : Int) (world : World) : IoReply × World :=
  forwardIntMethod (methods.shmUnmap.map fun unmap => unmap delete) world

/-- Without the method nothing is mapped; the output may be null. -/
def ioFetch (offset amount : Int) (output : Bool) (world : World) : IoReply × World :=
  forward ⟨sqliteOk, if output then some (.address null) else none⟩
    (methods.fetch.map fun fetch => fetch offset amount output) world

def ioUnfetch (offset : Int) (buffer : Pointer) (world : World) : IoReply × World :=
  forward ⟨sqliteOk, none⟩ (methods.unfetch.map fun unfetch => unfetch offset buffer) world

def ioSectorSize (world : World) : IoReply × World :=
  forward ⟨0, none⟩ methods.sectorSize world

def ioDeviceCharacteristics (world : World) : IoReply × World :=
  forward ⟨0, none⟩ methods.deviceCharacteristics world

def ioShmBarrier (world : World) : IoReply × World :=
  forward ⟨0, none⟩ methods.shmBarrier world

end Methods

/-! ## Files -/

/-- The memory of a `FaultFile`: the version of the methods that were installed in it, if
any were, the file below, and the target. -/
structure WrappedFile where
  base : Option Int
  real : Pointer
  target : FaultTarget
deriving Repr, DecidableEq

/-- The version of the table that is installed over a file below. -/
def installedVersion (version : Int) : Int :=
  if 3 ≤ version then 3
  else if version = 2 then 2
  else 1

/-- The file system below, the controller of the process, and the memory of the files. -/
structure FaultVfs (World : Type) where
  world : World
  controller : Controller
  files : Pointer → Option WrappedFile

namespace FaultVfs

variable (vfs : FaultVfs World)

/-- No file was opened. -/
def start (world : World) : FaultVfs World where
  world := world
  controller := .new
  files := fun _ => none

def arm (rule : FaultRule) : FaultVfs World :=
  { vfs with controller := vfs.controller.arm rule }

/-- The memory of one file is written. -/
def setFile (file : Pointer) (wrapped : WrappedFile) : FaultVfs World :=
  { vfs with files := fun place => if place = file then some wrapped else vfs.files place }

/-- `fault_open`.  There is no file system below until the registration. -/
def faultOpen (parent : Option (ParentVfs World)) (name : Option (List UInt8))
    (file : Pointer) (flags : BitVec 32) : IoReply × FaultVfs World :=
  match parent with
  | none => (⟨sqliteCantopen, none⟩, vfs)
  | some parent =>
      if file = null then (⟨sqliteCantopen, none⟩, vfs)
      else
        let wrapped : WrappedFile :=
          { base := none, real := file + fileOffset, target := targetFromFlags flags }
        let vfs := vfs.setFile file wrapped
        match parent.xOpen with
        | none => (⟨sqliteCantopen, none⟩, vfs)
        | some xOpen =>
            let (reply, world) := xOpen vfs.world name wrapped.real flags
            let vfs := { vfs with world := world }
            if reply.result ≠ sqliteOk then (reply, vfs)
            else
              match parent.pMethods world wrapped.real with
              -- a successful open of the file below installs its methods
              | none => (reply, vfs)
              | some methods =>
                  (reply, vfs.setFile file { wrapped with
                    base := some (installedVersion methods.iVersion) })

/-- `io_close`. -/
def ioClose (methods : VfsMethods World) (file : Pointer) (wrapped : WrappedFile) :
    IoReply × FaultVfs World :=
  let (reply, world) := forward ⟨sqliteIoerr, none⟩ methods.close vfs.world
  (reply, { vfs with world := world }.setFile file { wrapped with base := none })

end FaultVfs

/-! ## Calls -/

/-- A method with its arguments.  The amount of a write is a `c_int`. -/
inductive IoCall where
  | close
  | read (amount offset : Int)
  | write (buffer : List UInt8) (amount offset : Int) (fits : amount ≤ maxInt)
  | truncate (size : Int)
  | sync (flags : Int)
  | fileSize
  | lock (level : Int)
  | unlock (level : Int)
  | checkReservedLock
  | fileControl (operation : Int) (argument : IoValue)
  | sectorSize
  | deviceCharacteristics
  | shmMap (page pageSize extend : Int)
  | shmLock (offset count flags : Int)
  | shmBarrier
  | shmUnmap (delete : Int)
  | fetch (offset amount : Int) (output : Bool)
  | unfetch (offset : Int) (buffer : Pointer)
deriving DecidableEq

/-- A method that tables of some version have. -/
def IoCall.allowed (version : Int) : IoCall → Bool
  | .shmMap .. | .shmLock .. | .shmBarrier | .shmUnmap _ => decide (2 ≤ version)
  | .fetch .. | .unfetch .. => decide (3 ≤ version)
  | _ => true

/-- What the engine does with the file system. -/
inductive IoEvent where
  | xOpen (name : Option (List UInt8)) (file : Pointer) (flags : BitVec 32)
  | call (file : Pointer) (call : IoCall)
deriving DecidableEq

namespace FaultVfs

variable (parent : ParentVfs World) (vfs : FaultVfs World)

/-- What the file system below was changed to. -/
def below (done : IoReply × World) : IoReply × FaultVfs World :=
  (done.1, { vfs with world := done.2 })

/-- What an intercepted operation did. -/
def after (outcome : IoOutcome World) : IoReply × FaultVfs World :=
  (⟨outcome.result, none⟩,
    { vfs with world := outcome.real, controller := outcome.controller })

/-- A method that is installed. -/
def dispatch (methods : VfsMethods World) (file : Pointer) (wrapped : WrappedFile) :
    IoCall → IoReply × FaultVfs World
  | .close => vfs.ioClose methods file wrapped
  | .read amount offset => vfs.below (ioRead methods amount offset vfs.world)
  | .write buffer amount offset _ =>
      vfs.after (ioWrite vfs.controller ⟨methods.toIoMethods, vfs.world, wrapped.target⟩ buffer
        amount offset)
  | .truncate size =>
      vfs.after (ioTruncate vfs.controller ⟨methods.toIoMethods, vfs.world, wrapped.target⟩ size)
  | .sync flags =>
      vfs.after (ioSync vfs.controller ⟨methods.toIoMethods, vfs.world, wrapped.target⟩ flags)
  | .fileSize => vfs.below (ioFileSize methods vfs.world)
  | .lock level => vfs.below (ioLock methods level vfs.world)
  | .unlock level => vfs.below (ioUnlock methods level vfs.world)
  | .checkReservedLock => vfs.below (ioCheckReservedLock methods vfs.world)
  | .fileControl operation argument =>
      vfs.below (ioFileControl methods operation argument vfs.world)
  | .sectorSize => vfs.below (ioSectorSize methods vfs.world)
  | .deviceCharacteristics => vfs.below (ioDeviceCharacteristics methods vfs.world)
  | .shmMap page pageSize extend => vfs.below (ioShmMap methods page pageSize extend vfs.world)
  | .shmLock offset count flags => vfs.below (ioShmLock methods offset count flags vfs.world)
  | .shmBarrier => vfs.below (ioShmBarrier methods vfs.world)
  | .shmUnmap delete => vfs.below (ioShmUnmap methods delete vfs.world)
  | .fetch offset amount output => vfs.below (ioFetch methods offset amount output vfs.world)
  | .unfetch offset buffer => vfs.below (ioUnfetch methods offset buffer vfs.world)

/-- A method is called through the table that is installed, and of that table's version.
There is no call through a table that is not there. -/
def call (file : Pointer) (call : IoCall) : Option (IoReply × FaultVfs World) := do
  let wrapped ← vfs.files file
  let version ← wrapped.base
  guard (call.allowed version)
  let methods ← parent.pMethods vfs.world wrapped.real
  return vfs.dispatch methods file wrapped call

/-- What the engine is answered.  It opens files in memory of its own. -/
def machine : Machine (FaultVfs World) IoEvent IoReply := fun vfs event =>
  match event with
  | .xOpen name file flags =>
      if file = null then none else some (vfs.faultOpen parent name file flags)
  | .call file call => vfs.call parent file call

end FaultVfs

end Csgdb.Storage.Fault
