/-
Module: Csgdb.Proofs.FaultTransparency
Purpose: The file system that fails one operation is the one below but for that operation,
  over whole runs of the engine with any number of files.
Trusted boundary: none
Main exports: Direct, IoCall.cut, Direct.fail, FaultVfs.Mirrors, dispatch_eq,
  Mirrors.step, Mirrors.failed, fault_vfs_transparent
-/
import Csgdb.Proofs.FaultRules
import Csgdb.Storage.FaultVfs

namespace Csgdb.Storage.Fault

open Foundation

variable {World : Type}

/-! ## The file system below -/

section Direct

/-- What the engine is answered in place of a method that is not there. -/
def IoCall.absent : IoCall → IoReply
  | .write .. => ⟨sqliteIoerrWrite, none⟩
  | .truncate _ => ⟨sqliteIoerrTruncate, none⟩
  | .sync _ => ⟨sqliteIoerrFsync, none⟩
  | .fetch _ _ output => ⟨sqliteOk, if output then some (.address null) else none⟩
  | .unfetch .. => ⟨sqliteOk, none⟩
  | .sectorSize | .deviceCharacteristics | .shmBarrier => ⟨0, none⟩
  | _ => ⟨sqliteIoerr, none⟩

/-- A method that gives nothing but its result. -/
def plainly (done : Int × World) : IoReply × World :=
  (⟨done.1, none⟩, done.2)

/-- The method that a call is for, with its arguments. -/
def VfsMethods.perform (methods : VfsMethods World) :
    IoCall → Option (World → IoReply × World)
  | .close => methods.close
  | .read amount offset => methods.read.map fun read => read amount offset
  | .write buffer amount offset _ =>
      methods.write.map fun write world => plainly (write world buffer amount offset)
  | .truncate size => methods.truncate.map fun truncate world => plainly (truncate world size)
  | .sync flags => methods.sync.map fun sync world => plainly (sync world flags)
  | .fileSize => methods.fileSize
  | .lock level => methods.lock.map fun lock => lock level
  | .unlock level => methods.unlock.map fun unlock => unlock level
  | .checkReservedLock => methods.checkReservedLock
  | .fileControl operation argument =>
      methods.fileControl.map fun control => control operation argument
  | .sectorSize => methods.sectorSize
  | .deviceCharacteristics => methods.deviceCharacteristics
  | .shmMap page pageSize extend => methods.shmMap.map fun map => map page pageSize extend
  | .shmLock offset count flags => methods.shmLock.map fun lock => lock offset count flags
  | .shmBarrier => methods.shmBarrier
  | .shmUnmap delete => methods.shmUnmap.map fun unmap => unmap delete
  | .fetch offset amount output => methods.fetch.map fun fetch => fetch offset amount output
  | .unfetch offset buffer => methods.unfetch.map fun unfetch => unfetch offset buffer

/-- The operation that a call is counted as, when it reaches a method. -/
def VfsMethods.operation (methods : VfsMethods World) : IoCall → Option FaultOperation
  | .write .. => methods.write.map fun _ => .write
  | .truncate _ => methods.truncate.map fun _ => .truncate
  | .sync _ => methods.sync.map fun _ => .sync
  | _ => none

/-- The part of an operation that still reaches the file system below when it is failed: the
leading bytes of a write. -/
def IoCall.cut : FaultAction → IoCall → Option IoCall
  | .partialWrite prefixBytes, .write buffer amount offset fits =>
      if 0 < min amount.toNat prefixBytes then
        some (.write buffer (min amount.toNat prefixBytes : Nat) offset (by
          unfold maxInt at fits ⊢
          omega))
      else none
  | _, _ => none

def IoCall.closes : IoCall → Bool
  | .close => true
  | _ => false

theorem IoCall.cut_closes {action : FaultAction} {call shorter : IoCall}
    (kept : call.cut action = some shorter) : shorter.closes = false := by
  unfold cut at kept
  split at kept
  · split at kept
    · obtain rfl := Option.some.inj kept
      rfl
    · cases kept
  · cases kept

/-- An open file, by the version of its methods and the flags that it was opened with. -/
structure OpenFile where
  version : Int
  flags : BitVec 32
deriving Repr, DecidableEq

/-- The file system below and the files that are open in it. -/
structure Direct (World : Type) where
  world : World
  opened : Pointer → Option OpenFile

namespace Direct

variable (parent : ParentVfs World) (direct : Direct World)

/-- No file was opened. -/
def start (world : World) : Direct World where
  world := world
  opened := fun _ => none

/-- One place has another file, or none. -/
def setFile (file : Pointer) (there : Option OpenFile) : Direct World :=
  { direct with opened := fun place => if place = file then there else direct.opened place }

/-- A file is open after its open succeeded. -/
def xOpen (name : Option (List UInt8)) (file : Pointer) (flags : BitVec 32) :
    IoReply × Direct World :=
  match parent.xOpen with
  | none => (⟨sqliteCantopen, none⟩, direct.setFile file none)
  | some xOpen =>
      let (reply, world) := xOpen direct.world name (file + fileOffset) flags
      let opened := if reply.result ≠ sqliteOk then none
        else (parent.pMethods world (file + fileOffset)).map fun methods =>
          ⟨methods.iVersion, flags⟩
      (reply, { direct with world := world }.setFile file opened)

/-- The methods that a call reaches. -/
def reached (file : Pointer) (call : IoCall) : Option (VfsMethods World) := do
  let there ← direct.opened file
  guard (call.allowed there.version)
  parent.pMethods direct.world (file + fileOffset)

/-- What a call does with methods that it has reached. -/
def perform (methods : VfsMethods World) (file : Pointer) (call : IoCall) :
    IoReply × Direct World :=
  let (reply, world) := forward call.absent (methods.perform call) direct.world
  let direct := { direct with world := world }
  (reply, if call.closes then direct.setFile file none else direct)

/-- What the engine is answered by the file system below. -/
def machine : Machine (Direct World) IoEvent IoReply := fun direct event =>
  match event with
  | .xOpen name file flags =>
      if file = null then none else some (direct.xOpen parent name file flags)
  | .call file call =>
      (direct.reached parent file call).map fun methods => direct.perform methods file call

/-- The operation on some target that an event is. -/
def access : IoEvent → Option Access
  | .xOpen .. => none
  | .call file call => do
      let methods ← direct.reached parent file call
      let there ← direct.opened file
      let operation ← methods.operation call
      return ⟨operation, targetFromFlags there.flags⟩

/-- An event that is a failed operation: no more of it than the leading bytes of a write
reaches the file system below, and it is answered with its error, or with that of the
file system below. -/
def fail (action : FaultAction) : IoEvent → Option (IoReply × Direct World)
  | .xOpen .. => none
  | .call file call =>
      (direct.reached parent file call).map fun methods =>
        match call.cut action with
        | none => (call.absent, direct)
        | some shorter =>
            let (reply, next) := direct.perform methods file shorter
            (if reply.result = sqliteOk then call.absent else reply, next)

end Direct

end Direct

/-! ## Methods -/

section Dispatch

namespace FaultVfs

variable {vfs : FaultVfs World} {methods : VfsMethods World} {file : Pointer}
  {wrapped : WrappedFile}

/-- What is left when the file system below has answered. -/
def settle (vfs : FaultVfs World) (file : Pointer) (wrapped : WrappedFile) (call : IoCall)
    (done : IoReply × World) : IoReply × FaultVfs World :=
  let vfs := { vfs with world := done.2 }
  (done.1, if call.closes then vfs.setFile file { wrapped with base := none } else vfs)

/-- The controller after a call, by the operation that the call is counted as. -/
def observed (vfs : FaultVfs World) (target : FaultTarget) : Option FaultOperation → Controller
  | none => vfs.controller
  | some operation => vfs.controller.step (.access ⟨operation, target⟩)

/-- The action that a call is failed with, if it is. -/
def verdict (vfs : FaultVfs World) (target : FaultTarget) :
    Option FaultOperation → Option FaultAction
  | none => none
  | some operation => vfs.controller.answer (.access ⟨operation, target⟩)

variable {operation : FaultOperation} {failure : Int} {method : Option (World → Int × World)}
  {target : FaultTarget}

/-- An operation that is not failed goes to the file below as it is. -/
theorem ioForward_quiet
    (quiet : vfs.verdict target (method.map fun _ => operation) = none) :
    vfs.after (ioForward operation failure method vfs.controller
        ⟨methods.toIoMethods, vfs.world, target⟩) =
      { vfs with controller := vfs.observed target (method.map fun _ => operation) }.below
        (forward ⟨failure, none⟩ (method.map (plainly ∘ ·)) vfs.world) := by
  cases method with
  | none => rfl
  | some method =>
      have intercepted : vfs.controller.intercept operation target =
          (none, vfs.controller.step (.access ⟨operation, target⟩)) := Prod.ext quiet rfl
      unfold ioForward
      simp only [intercepted]
      rfl

theorem ioForward_failed {action : FaultAction}
    (failed : vfs.verdict target (method.map fun _ => operation) = some action) :
    vfs.after (ioForward operation failure method vfs.controller
        ⟨methods.toIoMethods, vfs.world, target⟩) =
      (⟨failure, none⟩,
        { vfs with controller := vfs.observed target (method.map fun _ => operation) }) := by
  cases method with
  | none => cases failed
  | some method =>
      have intercepted : vfs.controller.intercept operation target =
          (some action, vfs.controller.step (.access ⟨operation, target⟩)) :=
        Prod.ext failed rfl
      unfold ioForward
      simp only [intercepted]
      rfl

/-- A call that is not failed does what the method below does. -/
theorem dispatch_quiet {call : IoCall}
    (quiet : vfs.verdict wrapped.target (methods.operation call) = none) :
    vfs.dispatch methods file wrapped call =
      { vfs with controller := vfs.observed wrapped.target (methods.operation call) }.settle file
        wrapped call (forward call.absent (methods.perform call) vfs.world) := by
  cases call with
  | write buffer amount offset fits =>
      unfold VfsMethods.operation at quiet ⊢
      cases present : methods.write with
      | none =>
          simp only [dispatch, ioWrite, present, VfsMethods.perform, Option.map_none]
          rfl
      | some write =>
          rw [present] at quiet
          have intercepted : vfs.controller.intercept .write wrapped.target =
              (none, vfs.controller.step (.access ⟨.write, wrapped.target⟩)) :=
            Prod.ext quiet rfl
          simp only [dispatch, ioWrite, present, intercepted, VfsMethods.perform,
            Option.map_some]
          rfl
  | truncate size =>
      have counted : (methods.truncate.map fun truncate real => truncate real size).map
          (fun _ => FaultOperation.truncate) = methods.operation (.truncate size) :=
        Option.map_map ..
      have performed : (methods.truncate.map fun truncate real => truncate real size).map
          (plainly ∘ ·) = methods.perform (.truncate size) :=
        Option.map_map ..
      rw [← counted] at quiet ⊢
      rw [← performed]
      exact ioForward_quiet quiet
  | sync flags =>
      have counted : (methods.sync.map fun sync real => sync real flags).map
          (fun _ => FaultOperation.sync) = methods.operation (.sync flags) :=
        Option.map_map ..
      have performed : (methods.sync.map fun sync real => sync real flags).map
          (plainly ∘ ·) = methods.perform (.sync flags) :=
        Option.map_map ..
      rw [← counted] at quiet ⊢
      rw [← performed]
      exact ioForward_quiet quiet
  | _ => rfl

/-- A call that is failed does no more than its part below. -/
theorem dispatch_failed {call : IoCall} {action : FaultAction}
    (failed : vfs.verdict wrapped.target (methods.operation call) = some action) :
    vfs.dispatch methods file wrapped call =
      match call.cut action with
      | none =>
          (call.absent,
            { vfs with controller := vfs.observed wrapped.target (methods.operation call) })
      | some shorter =>
          let done := forward shorter.absent (methods.perform shorter) vfs.world
          (if done.1.result = sqliteOk then call.absent else done.1,
            { vfs with
              world := done.2
              controller := vfs.observed wrapped.target (methods.operation call) }) := by
  cases call with
  | write buffer amount offset fits =>
      unfold VfsMethods.operation at failed ⊢
      cases present : methods.write with
      | none =>
          rw [present] at failed
          cases failed
      | some write =>
          rw [present] at failed
          have intercepted : vfs.controller.intercept .write wrapped.target =
              (some action, vfs.controller.step (.access ⟨.write, wrapped.target⟩)) :=
            Prod.ext failed rfl
          cases action with
          | error =>
              simp only [dispatch, ioWrite, present, intercepted, Option.map_some]
              rfl
          | partialWrite prefixBytes =>
              have kept := @ioWrite_prefix_eq _ _
                ⟨methods.toIoMethods, vfs.world, wrapped.target⟩ _ _ present _ intercepted
                buffer _ fits offset
              simp only [dispatch, kept, Option.map_some, IoCall.cut]
              split
              case isTrue =>
                simp only [VfsMethods.perform, present, Option.map_some, forward, plainly]
                split
                case isTrue => rfl
                case isFalse succeeds =>
                  rw [if_pos (not_not.mp succeeds)]
                  rfl
              case isFalse => rfl
  | truncate size =>
      have counted : (methods.truncate.map fun truncate real => truncate real size).map
          (fun _ => FaultOperation.truncate) = methods.operation (.truncate size) :=
        Option.map_map ..
      rw [← counted] at failed ⊢
      cases action <;> exact ioForward_failed failed
  | sync flags =>
      have counted : (methods.sync.map fun sync real => sync real flags).map
          (fun _ => FaultOperation.sync) = methods.operation (.sync flags) :=
        Option.map_map ..
      rw [← counted] at failed ⊢
      cases action <;> exact ioForward_failed failed
  | _ => cases failed

end FaultVfs

end Dispatch

/-! ## Runs -/

section Runs

/-- The memory of a file at a place, and the file that is open there below. -/
inductive Covers (file : Pointer) : Option WrappedFile → Option OpenFile → Prop
  | untouched : Covers file none none
  | closed {wrapped : WrappedFile} (unset : wrapped.base = none) : Covers file (some wrapped) none
  | opened {version : Int} {flags : BitVec 32} :
      Covers file
        (some ⟨some (installedVersion version), file + fileOffset, targetFromFlags flags⟩)
        (some ⟨version, flags⟩)

/-- The engine sees the same files that are open below. -/
structure FaultVfs.Mirrors (vfs : FaultVfs World) (direct : Direct World) : Prop where
  world : vfs.world = direct.world
  files : ∀ file, Covers file (vfs.files file) (direct.opened file)

/-- The table that is installed has the methods that the table below has. -/
theorem IoCall.allowed_installed (call : IoCall) (version : Int) :
    call.allowed (installedVersion version) = call.allowed version := by
  have two : 2 ≤ installedVersion version ↔ 2 ≤ version := by
    unfold installedVersion
    split <;> [omega; split <;> omega]
  have three : 3 ≤ installedVersion version ↔ 3 ≤ version := by
    unfold installedVersion
    split <;> [omega; split <;> omega]
  cases call <;> first | rfl | exact decide_eq_decide.mpr two | exact decide_eq_decide.mpr three

variable {parent : ParentVfs World} {vfs : FaultVfs World} {direct : Direct World}

namespace FaultVfs.Mirrors

theorem start (world : World) : (FaultVfs.start world).Mirrors (Direct.start world) where
  world := rfl
  files _ := .untouched

theorem setFile {file : Pointer} {wrapped : WrappedFile} {there : Option OpenFile}
    (mirrors : vfs.Mirrors direct) (covers : Covers file (some wrapped) there) :
    (vfs.setFile file wrapped).Mirrors (direct.setFile file there) where
  world := mirrors.world
  files := by
    intro place
    unfold FaultVfs.setFile Direct.setFile
    by_cases same : place = file
    · subst same
      simp only [if_true]
      exact covers
    · simp only [if_neg same]
      exact mirrors.files place

theorem setWorld (mirrors : vfs.Mirrors direct) (world : World) :
    { vfs with world := world }.Mirrors { direct with world := world } where
  world := rfl
  files := mirrors.files

theorem setController (mirrors : vfs.Mirrors direct) (controller : Controller) :
    { vfs with controller := controller }.Mirrors direct where
  world := mirrors.world
  files := mirrors.files

/-- A call reaches the same methods in both, or none. -/
theorem called (mirrors : vfs.Mirrors direct) (file : Pointer) (call : IoCall) :
    vfs.call parent file call = none ∧ direct.reached parent file call = none ∨
    ∃ version flags methods,
      direct.opened file = some ⟨version, flags⟩ ∧
      direct.reached parent file call = some methods ∧
      vfs.call parent file call =
        some (vfs.dispatch methods file
          ⟨some (installedVersion version), file + fileOffset, targetFromFlags flags⟩ call) := by
  have covers := mirrors.files file
  unfold FaultVfs.call Direct.reached
  rw [mirrors.world]
  generalize vfs.files file = memory at covers ⊢
  generalize direct.opened file = there at covers ⊢
  cases covers with
  | untouched => exact .inl ⟨rfl, rfl⟩
  | closed unset => exact .inl ⟨by simp [unset], rfl⟩
  | @opened version flags =>
      simp only [Option.bind_eq_bind, Option.bind_some, IoCall.allowed_installed]
      by_cases allowed : call.allowed version = true
      · cases found : parent.pMethods direct.world (file + fileOffset) with
        | none => simp [allowed]
        | some methods =>
            refine .inr ⟨version, flags, methods, rfl, ?_, ?_⟩ <;> simp [allowed]
      · simp [allowed]

end FaultVfs.Mirrors

/-- The engine is answered the same, and sees the same files afterwards. -/
structure Agree (controller : Controller) (one : IoReply × FaultVfs World)
    (two : IoReply × Direct World) : Prop where
  reply : one.1 = two.1
  mirrors : one.2.Mirrors two.2
  controller : one.2.controller = controller

theorem Agree.same {controller : Controller} {one : IoReply × FaultVfs World}
    {two : IoReply × Direct World} (agree : Agree controller one two) :
    Same (fun vfs direct => vfs.Mirrors direct ∧ vfs.controller = controller) (some one)
      (some two) := by
  obtain ⟨reply, vfs⟩ := one
  obtain ⟨reply', direct⟩ := two
  obtain ⟨rfl, mirrors, rfl⟩ := agree
  exact .answered ⟨mirrors, rfl⟩

namespace FaultVfs.Mirrors

/-- What a method did, it did in both. -/
theorem settle (mirrors : vfs.Mirrors direct) {methods : VfsMethods World} {file : Pointer}
    {wrapped : WrappedFile} {call : IoCall} :
    Agree vfs.controller
      (vfs.settle file wrapped call (forward call.absent (methods.perform call) vfs.world))
      (direct.perform methods file call) := by
  unfold FaultVfs.settle Direct.perform
  rw [mirrors.world]
  generalize forward call.absent (methods.perform call) direct.world = done
  have further := mirrors.setWorld done.2
  dsimp only
  split
  · exact ⟨rfl, further.setFile (.closed rfl), rfl⟩
  · exact ⟨rfl, further, rfl⟩

/-- Opening a file. -/
theorem faultOpen (mirrors : vfs.Mirrors direct) (name : Option (List UInt8)) {file : Pointer}
    (present : file ≠ null) (flags : BitVec 32) :
    Agree vfs.controller (vfs.faultOpen (some parent) name file flags)
      (direct.xOpen parent name file flags) := by
  unfold FaultVfs.faultOpen Direct.xOpen
  dsimp only
  rw [if_neg present]
  cases parent.xOpen with
  | none => exact ⟨rfl, mirrors.setFile (.closed rfl), rfl⟩
  | some xOpen =>
      have world (wrapped : WrappedFile) : (vfs.setFile file wrapped).world = direct.world :=
        mirrors.world
      simp only [world]
      generalize xOpen direct.world name (file + fileOffset) flags = done
      have further := mirrors.setWorld done.2
      split
      · exact ⟨rfl, further.setFile (.closed rfl), rfl⟩
      · cases parent.pMethods done.2 (file + fileOffset) with
        | none => exact ⟨rfl, further.setFile (.closed rfl), rfl⟩
        | some methods =>
            refine ⟨rfl, ?_, rfl⟩
            -- the memory of the file is written twice
            have once := further.setFile (@Covers.opened file methods.iVersion flags)
            refine ⟨once.world, fun place => ?_⟩
            have covers := once.files place
            unfold FaultVfs.setFile at covers ⊢
            by_cases same : place = file
            · simp only [if_pos same] at covers ⊢
              exact covers
            · simp only [if_neg same] at covers ⊢
              exact covers

/-- The access that a call is, when it reaches methods. -/
theorem access_eq {file : Pointer} {call : IoCall} {there : OpenFile}
    {methods : VfsMethods World} (opened : direct.opened file = some there)
    (reached : direct.reached parent file call = some methods) :
    direct.access parent (.call file call) =
      (methods.operation call).map fun operation => ⟨operation, targetFromFlags there.flags⟩ := by
  unfold Direct.access
  simp only [Option.bind_eq_bind, reached, opened, Option.bind_some]
  cases methods.operation call <;> rfl

/-- A step that is not failed. -/
theorem step (mirrors : vfs.Mirrors direct) {event : IoEvent} {controller : Controller}
    (quiet : ∀ access, direct.access parent event = some access →
      vfs.controller.answer (.access access) = none)
    (observed : controller = (direct.access parent event).elim vfs.controller
      fun access => vfs.controller.step (.access access)) :
    Same (fun vfs direct => vfs.Mirrors direct ∧ vfs.controller = controller)
      (vfs.machine parent event) (direct.machine parent event) := by
  subst observed
  cases event with
  | xOpen name file flags =>
      unfold FaultVfs.machine Direct.machine
      by_cases absent : file = null
      · simp only [if_pos absent]
        exact .refused
      · simp only [if_neg absent]
        exact (mirrors.faultOpen name absent flags).same
  | call file call =>
      simp only [FaultVfs.machine, Direct.machine]
      obtain ⟨refused, nothing⟩ | ⟨version, flags, methods, opened, reached, called⟩ :=
        @called _ parent _ _ mirrors file call
      · rw [refused, nothing]
        exact .refused
      · rw [access_eq opened reached] at quiet ⊢
        rw [called, reached, dispatch_quiet]
        · have settled := @settle _ _ _ (mirrors.setController
            (vfs.observed (targetFromFlags flags) (methods.operation call))) methods file
            ⟨some (installedVersion version), file + fileOffset, targetFromFlags flags⟩ call
          cases counted : methods.operation call with
          | none =>
              rw [counted] at settled
              exact settled.same
          | some operation =>
              rw [counted] at settled
              exact settled.same
        · cases counted : methods.operation call with
          | none => rfl
          | some operation =>
              rw [counted] at quiet
              exact quiet _ rfl

/-- A step that is no operation. -/
theorem step_other (mirrors : vfs.Mirrors direct) {event : IoEvent}
    (other : direct.access parent event = none) :
    Same (fun next direct => next.Mirrors direct ∧ next.controller = vfs.controller)
      (vfs.machine parent event) (direct.machine parent event) := by
  apply mirrors.step
  · rw [other]
    exact nofun
  · rw [other]
    rfl

/-- An operation that is not failed. -/
theorem step_quiet (mirrors : vfs.Mirrors direct) {event : IoEvent} {access : Access}
    (accessed : direct.access parent event = some access)
    (quiet : vfs.controller.answer (.access access) = none) :
    Same (fun next direct => next.Mirrors direct ∧
        next.controller = vfs.controller.step (.access access))
      (vfs.machine parent event) (direct.machine parent event) := by
  apply mirrors.step
  · rw [accessed]
    rintro one same
    obtain rfl := Option.some.inj same
    exact quiet
  · rw [accessed]
    rfl

/-- An operation that is failed. -/
theorem step_failed (mirrors : vfs.Mirrors direct) {event : IoEvent} {access : Access}
    {action : FaultAction} (accessed : direct.access parent event = some access)
    (answered : vfs.controller.answer (.access access) = some action) :
    Same (fun next direct => next.Mirrors direct ∧
        next.controller = vfs.controller.step (.access access))
      (vfs.machine parent event) (direct.fail parent action event) := by
  cases event with
  | xOpen name file flags => cases accessed
  | call file call =>
      simp only [FaultVfs.machine, Direct.fail]
      obtain ⟨refused, nothing⟩ | ⟨version, flags, methods, opened, reached, called⟩ :=
        @called _ parent _ _ mirrors file call
      · rw [refused, nothing]
        exact .refused
      · rw [access_eq opened reached] at accessed
        obtain ⟨operation, counted, rfl⟩ := Option.map_eq_some_iff.mp accessed
        rw [called, reached, dispatch_failed (by rw [counted]; exact answered),
          counted]
        simp only [Option.map_some]
        cases kept : call.cut action with
        | none => exact .answered ⟨mirrors.setController _, rfl⟩
        | some shorter =>
            simp only [Direct.perform, IoCall.cut_closes kept, mirrors.world]
            exact .answered ⟨(mirrors.setController _).setWorld _, rfl⟩

end FaultVfs.Mirrors

/-- An event that a rule is for. -/
def Direct.matching (parent : ParentVfs World) (rule : FaultRule) (direct : Direct World)
    (event : IoEvent) : Bool :=
  (direct.access parent event).any rule.matching

/-- With a rule armed, all but the operation that it fails is as below. -/
theorem armed_lockstep (parent : ParentVfs World) (rule : FaultRule) :
    Lockstep (FaultVfs.machine parent) (Direct.machine parent) (Direct.matching parent rule)
      rule.occurrence.toNat
      (fun seen vfs direct => vfs.Mirrors direct ∧ vfs.controller.Tracks rule seen) where
  step := by
    rintro seen vfs direct ⟨mirrors, tracks⟩ event other
    unfold Direct.matching at other ⊢
    cases accessed : direct.access parent event with
    | none =>
        refine (mirrors.step_other accessed).mono ?_
        rintro next goal ⟨further, same⟩
        exact ⟨further, same ▸ tracks⟩
    | some access =>
        rw [accessed, Option.any_some] at other
        obtain ⟨answer, later⟩ := tracks.access access
        refine (mirrors.step_quiet accessed (answer.trans (if_neg other))).mono ?_
        rintro next goal ⟨further, same⟩
        refine ⟨further, ?_⟩
        rw [same, Option.any_some]
        convert later using 1
        unfold seenWith
        split <;> rfl

/-- Without a rule all is as below. -/
theorem disarmed_lockstep (parent : ParentVfs World) :
    Lockstep (FaultVfs.machine parent) (Direct.machine parent) (fun _ _ => false) 0
      (fun _ vfs direct => vfs.Mirrors direct ∧ vfs.controller.rule = none) where
  step := by
    rintro seen vfs direct ⟨mirrors, disarmed⟩ event -
    cases accessed : direct.access parent event with
    | none =>
        refine (mirrors.step_other accessed).mono ?_
        rintro next goal ⟨further, same⟩
        exact ⟨further, same ▸ disarmed⟩
    | some access =>
        obtain ⟨quiet, still⟩ := Controller.intercept_disarmed disarmed access
        refine (mirrors.step_quiet accessed quiet).mono ?_
        rintro next goal ⟨further, same⟩
        exact ⟨further, same ▸ still⟩

/-- What the engine sees of a run in which one event is a failed operation. -/
def Direct.runFailing (parent : ParentVfs World) (action : FaultAction) (direct : Direct World)
    (before : List IoEvent) (event : IoEvent) (after : List IoEvent) :
    Option (List IoReply × Direct World) :=
  ((Direct.machine parent).run direct before).bind fun (replies, middle) =>
    (middle.fail parent action event).bind fun (reply, next) =>
      ((Direct.machine parent).run next after).map fun (later, last) =>
        (replies ++ reply :: later, last)

/-- The states that the engine and the sessions of the process come to.  A session starts and
ends with a new controller. -/
inductive Session (parent : ParentVfs World) : FaultVfs World → Prop
  | start (world : World) : Session parent (.start world)
  | restart {vfs : FaultVfs World} (session : Session parent vfs) :
      Session parent { vfs with controller := .new }
  | arm {vfs : FaultVfs World} (session : Session parent vfs) (rule : FaultRule) :
      Session parent (vfs.arm rule)
  | disarm {vfs : FaultVfs World} (session : Session parent vfs) :
      Session parent { vfs with controller := vfs.controller.disarm }
  | io {vfs next : FaultVfs World} {event : IoEvent} {reply : IoReply}
      (session : Session parent vfs)
      (answered : vfs.machine parent event = some (reply, next)) : Session parent next

/-- Whatever a step does, the engine sees the files that are open below. -/
theorem FaultVfs.Mirrors.next (mirrors : vfs.Mirrors direct) {event : IoEvent} {reply : IoReply}
    {next : FaultVfs World} (answered : vfs.machine parent event = some (reply, next)) :
    ∃ goal : Direct World, next.Mirrors goal := by
  cases accessed : direct.access parent event with
  | none =>
      have same := mirrors.step_other accessed
      rw [answered] at same
      obtain ⟨goal, -, further, -⟩ := same.some_eq
      exact ⟨goal, further⟩
  | some access =>
      cases answer : vfs.controller.answer (.access access) with
      | none =>
          have same := mirrors.step_quiet accessed answer
          rw [answered] at same
          obtain ⟨goal, -, further, -⟩ := same.some_eq
          exact ⟨goal, further⟩
      | some action =>
          have same := mirrors.step_failed accessed answer
          rw [answered] at same
          obtain ⟨goal, -, further, -⟩ := same.some_eq
          exact ⟨goal, further⟩

theorem Session.mirrors (session : Session parent vfs) :
    ∃ direct : Direct World, vfs.Mirrors direct := by
  induction session with
  | start world => exact ⟨.start world, .start world⟩
  | restart _ inductionHypothesis | disarm _ inductionHypothesis | arm _ _ inductionHypothesis =>
      obtain ⟨direct, mirrors⟩ := inductionHypothesis
      exact ⟨direct, mirrors.setController _⟩
  | io _ answered inductionHypothesis =>
      obtain ⟨direct, mirrors⟩ := inductionHypothesis
      exact mirrors.next answered

end Runs

/-- In every state of a session the engine sees files that are open below.  Without a rule,
and with one until its operation comes up, it is answered by the file system below, whatever
files it opens and calls in whatever order.  The operation itself is answered with its
error, and no more of it than the leading bytes of a write reaches the file system below.
Afterwards the engine is answered by the file system below again. -/
theorem fault_vfs_transparent (parent : ParentVfs World) {vfs : FaultVfs World}
    (session : Session parent vfs) :
    ∃ direct : Direct World, vfs.Mirrors direct ∧
      (vfs.controller.rule = none → ∀ events,
        Same (fun vfs direct => vfs.Mirrors direct ∧ vfs.controller.rule = none)
          ((FaultVfs.machine parent).run vfs events)
          ((Direct.machine parent).run direct events)) ∧
      (∀ rule events,
        (Direct.machine parent).count (Direct.matching parent rule) direct events <
            rule.occurrence.toNat →
          Same (fun vfs direct => vfs.Mirrors direct ∧ vfs.controller.rule = some rule)
            ((FaultVfs.machine parent).run (vfs.arm rule) events)
            ((Direct.machine parent).run direct events)) ∧
      ∀ rule before replies middle event after,
        (Direct.machine parent).run direct before = some (replies, middle) →
        (Direct.machine parent).count (Direct.matching parent rule) direct before + 1 =
          rule.occurrence.toNat →
        middle.matching parent rule event = true →
          Same (fun vfs direct => vfs.Mirrors direct ∧ vfs.controller.rule = none)
            ((FaultVfs.machine parent).run (vfs.arm rule) (before ++ event :: after))
            (direct.runFailing parent rule.action before event after) := by
  obtain ⟨direct, mirrors⟩ := session.mirrors
  refine ⟨direct, mirrors, ?_, ?_, ?_⟩
  · intro disarmed events
    exact @Lockstep.run _ _ _ _ _ _ _ _ _ (disarmed_lockstep parent) 0 _ _
      ⟨mirrors, disarmed⟩ _ (.inl (Nat.le_refl 0))
  · intro rule events early
    have armed : (vfs.arm rule).Mirrors direct := mirrors.setController _
    have tracks := vfs.controller.tracks_arm rule
    have same := @Lockstep.run _ _ _ _ _ _ _ _ _ (armed_lockstep parent rule) _ _ _
      ⟨armed, tracks⟩ events (.inr (by omega))
    refine same.mono ?_
    rintro last goal ⟨further, still⟩
    unfold Controller.Tracks at still
    rw [if_pos (by omega)] at still
    exact ⟨further, still.1⟩
  · intro rule before replies middle event after ran due matching
    have armed : (vfs.arm rule).Mirrors direct := mirrors.setController _
    have tracks := vfs.controller.tracks_arm rule
    obtain ⟨access, accessed, own⟩ := (Option.any_eq_true _ _).mp matching
    have upTo := @Lockstep.run _ _ _ _ _ _ _ _ _ (armed_lockstep parent rule) _ _ _
      ⟨armed, tracks⟩ before (.inr (by omega))
    rw [ran] at upTo
    obtain ⟨state, reached, further, still⟩ := upTo.eq_some
    rw [Nat.zero_add] at still
    obtain ⟨answer, gone⟩ := still.access access
    have failed := further.step_failed accessed (answer.trans (if_pos ⟨own, due⟩))
    unfold Direct.runFailing
    rw [Machine.run_append, reached, ran]
    simp only [Option.bind_some, Machine.run]
    generalize FaultVfs.machine parent state event = left at failed ⊢
    generalize middle.fail parent rule.action event = right at failed ⊢
    cases failed with
    | refused => exact .refused
    | @answered reply next goal relates =>
        simp only [Option.bind_some, Option.map_map]
        obtain ⟨onwards, same⟩ := relates
        rw [seenWith, if_pos own, due] at gone
        have rest := @Lockstep.run _ _ _ _ _ _ _ _ _ (armed_lockstep parent rule) _ _ _
          ⟨onwards, same ▸ gone⟩ after (.inl (Nat.le_refl _))
        refine (rest.map (replies ++ reply :: ·)).mono ?_
        rintro last final ⟨mirrored, still⟩
        unfold Controller.Tracks at still
        rw [if_neg (by omega)] at still
        exact ⟨mirrored, still⟩

/-- A file system with one file in memory. -/
def memoryVfs : ParentVfs (Nat → Option UInt8) where
  xOpen := some fun world _ _ _ => (⟨sqliteOk, none⟩, world)
  pMethods := fun _ _ => some
    { memoryMethods with
      iVersion := 1
      close := some fun world => (⟨sqliteOk, none⟩, world)
      read := none
      fileSize := none
      lock := none
      unlock := none
      checkReservedLock := none
      fileControl := none
      sectorSize := none
      deviceCharacteristics := none
      shmMap := none
      shmLock := none
      shmBarrier := none
      shmUnmap := none
      fetch := none
      unfetch := none }

theorem FaultVfs.Mirrors.start_unique {world : World} {direct : Direct World}
    (mirrors : (FaultVfs.start world).Mirrors direct) : direct = .start world := by
  obtain ⟨there, opened⟩ := direct
  obtain ⟨same, files⟩ := mirrors
  obtain rfl : world = there := same
  congr
  funext file
  have covers : Covers file none (opened file) := files file
  generalize opened file = found at covers ⊢
  cases covers with
  | untouched => rfl

/-- The second of two writes keeps two bytes, and the file is closed afterwards. -/
theorem fault_vfs_transparent_second :
    ∃ last,
      (FaultVfs.machine memoryVfs).run ((FaultVfs.start fun _ => none).arm secondWrite)
          [.xOpen none 8 sqliteOpenMainDb, .call 8 (.write [7] 1 0 (by decide)),
            .call 8 (.write [1, 2, 3] 3 1 (by decide)), .call 8 .close] =
        some ([⟨0, none⟩, ⟨0, none⟩, ⟨778, none⟩, ⟨0, none⟩], last) ∧
      [0, 1, 2, 3].map last.world = [some 7, some 1, some 2, none] := by
  obtain ⟨direct, mirrors, -, -, failing⟩ :=
    fault_vfs_transparent memoryVfs (.start fun _ => none)
  obtain rfl := mirrors.start_unique
  have same := failing secondWrite
    [.xOpen none 8 sqliteOpenMainDb, .call 8 (.write [7] 1 0 (by decide))] _ _
    (.call 8 (.write [1, 2, 3] 3 1 (by decide))) [.call 8 .close] rfl rfl rfl
  obtain ⟨last, ran, further, -⟩ := same.eq_some
  refine ⟨last, ran, ?_⟩
  rw [further.world]
  rfl

end Csgdb.Storage.Fault
