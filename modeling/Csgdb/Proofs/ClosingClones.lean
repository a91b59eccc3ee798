/-
Module: Csgdb.Proofs.ClosingClones
Purpose: When the calls of `close` on all clones of a pool report its shutdown to one of
  them.
Trusted boundary: none
Main exports: ClosingMove, Course, ClosingRun.course, closing_clones_iff
-/
import Csgdb.Core.Basic
import Csgdb.Pool.Lending
import Csgdb.Proofs.ReadPoolConservation

namespace Csgdb.Pool

open Storage (storageFailed)

variable {Value : Type}

/-! ## Steps -/

namespace PoolHandle

/-- The handle has got past the writer in its run of `shutdown`. -/
def isBehindWriter : PoolHandle → Bool
  | .locking _ _ => true
  | .draining _ _ _ _ => true
  | _ => false

def isReleased : PoolHandle → Bool
  | .released => true
  | _ => false

def isKeeping : PoolHandle → Bool
  | .keeping => true
  | _ => false

theorem keeping_not_mem {handles : List PoolHandle}
    (unkept : handles.any isKeeping = false) : .keeping ∉ handles :=
  fun member => List.any_eq_false.mp unkept _ member rfl

theorem shutsDown_of_pass {handle : PoolHandle} {pass : Pass}
    (within : handle.pass = some pass) : handle.shutsDown = true := by
  cases handle <;> first | rfl | cases within

theorem eq_released_of {handle : PoolHandle} (unshared : handle.sharesPool = false)
    (atRest : handle.shutsDown = false) : handle = .released := by
  cases handle with
  | released => rfl
  | live | keeping => cases unshared
  | joining | locking | draining => cases atRest

end PoolHandle

/-- What one step does in a run whose handles are given up by `close`. -/
inductive ClosingMove (connections : List Nat) (lending next : Lending Value) : Prop
  /-- A read or a count goes on. -/
  | uses (handles : next.handles = lending.handles) (strong : next.strong = lending.strong)
      (returned : next.returned = lending.returned)
      (taken : next.writerTaken = lending.writerTaken)
      (closed : next.closed = lending.closed)
  | clones (live : .live ∈ lending.handles)
      (handles : next.handles = lending.handles ++ [.live])
      (strong : next.strong = lending.strong + 1)
      (returned : next.returned = lending.returned)
  | keeps {number : Nat} (place : lending.handles[number]? = some .live)
      (shared : lending.strong ≠ 1)
      (handles : next.handles = lending.handles.set number .keeping)
      (strong : next.strong = lending.strong) (returned : next.returned = lending.returned)
  | unwraps {number : Nat} (place : lending.handles[number]? = some .live)
      (last : lending.strong = 1)
      (handles : next.handles = lending.handles.set number (.joining .closes))
      (returned : next.returned = lending.returned)
  | releases {number : Nat} (place : lending.handles[number]? = some .keeping)
      (shared : lending.strong ≠ 1)
      (handles : next.handles = lending.handles.set number .released)
      (strong : next.strong = lending.strong - 1)
      (returned : next.returned = lending.returned ++ [.error connectionManagerInUse])
  | dropsLast {number : Nat} (place : lending.handles[number]? = some .keeping)
      (last : lending.strong = 1)
      (handles : next.handles = lending.handles.set number
        (.joining (.drops (some (.error connectionManagerInUse)))))
      (returned : next.returned = lending.returned)
  /-- A run of `shutdown` goes on. -/
  | shutsOn {number : Nat} {old new : PoolHandle} {pass : Pass}
      (place : lending.handles[number]? = some old) (before : old.pass = some pass)
      (after : new.pass = some pass) (handles : next.handles = lending.handles.set number new)
      (strong : next.strong = lending.strong) (returned : next.returned = lending.returned)
      (behind : (old.isBehindWriter = true → lending.writerTaken = true) →
        new.isBehindWriter = true → next.writerTaken = true)
      (taken : lending.writerTaken = true → next.writerTaken = true)
  | endsPass {number : Nat} {old : PoolHandle} {pass : Pass} (result : Result Unit)
      (place : lending.handles[number]? = some old) (before : old.pass = some pass)
      (handles : next.handles = lending.handles.set number (pass.next result).1)
      (strong : next.strong = lending.strong)
      (returned : next.returned = lending.returned ++ (pass.next result).2)
      (taken : (old.isBehindWriter = true → lending.writerTaken = true) →
        next.writerTaken = true)
      (closed : lending.writerTaken = true → next.closed.Perm connections)

/-- A handle step, when no live handle is dropped. -/
theorem HandleStep.closingMove {connections : List Nat} {lending next : Lending Value}
    (kept : LendingKept connections lending) (step : HandleStep lending next)
    (closes : GivenUpByClose lending next) : ClosingMove connections lending next := by
  cases step with
  | clones live => exact .clones live rfl rfl rfl
  | @drops number place unborrowed =>
      have inRange := (List.getElem?_eq_some_iff.mp place).1
      have given := closes number place
      unfold Lending.dropShare at given
      split at given
      case isTrue =>
        have dropped : (lending.setHandle number (.joining (.drops none))).handles[number]? =
            some (.joining (.drops none)) := List.getElem?_set_self inRange
        dsimp only at given
        rw [dropped] at given
        rcases given with same | same | same <;> cases same
      case isFalse =>
        have dropped : (lending.setHandle number .released).handles[number]? =
            some .released := List.getElem?_set_self inRange
        dsimp only at given
        rw [dropped] at given
        rcases given with same | same | same <;> cases same
  | @closes number place unborrowed =>
      unfold Lending.tryUnwrap
      by_cases last : lending.strong = 1
      · rw [if_pos last]
        exact .unwraps place last rfl rfl
      · rw [if_neg last]
        exact .keeps place last rfl rfl rfl
  | @refuses number place =>
      unfold Lending.dropShare
      by_cases last : lending.strong = 1
      · rw [if_pos last]
        exact .dropsLast place last rfl rfl
      · rw [if_neg last]
        exact .releases place last rfl rfl rfl
  | joins result place again =>
      exact .shutsOn place rfl rfl rfl rfl rfl (fun _ _ => rfl) (fun _ => rfl)
  | writerPanicked place first =>
      refine .endsPass _ place rfl rfl rfl rfl (fun _ => rfl) fun taken => ?_
      cases first.symm.trans taken
  | drains place free =>
      exact .shutsOn place rfl rfl rfl rfl rfl (fun behind _ => behind rfl) id
  | closesOne answer place =>
      exact .shutsOn place rfl rfl rfl rfl rfl (fun behind _ => behind rfl) id
  | shutDown place =>
      exact .endsPass _ place rfl rfl rfl rfl (fun behind => behind rfl)
        fun _ => kept.closed_perm (List.mem_of_getElem? place)

theorem LendingStep.closingMove {connections : List Nat} {lending next : Lending Value}
    (kept : LendingKept connections lending) (step : LendingStep lending next)
    (closes : GivenUpByClose lending next) : ClosingMove connections lending next := by
  cases step with
  | begins place start => exact .uses rfl rfl rfl rfl rfl
  | call place step => exact .uses rfl rfl rfl rfl rfl
  | handle step => exact step.closingMove kept closes

/-! ## Where a run stands -/

/-- Every last test of the steps finds no refused handle. -/
def LastTestsAlone (steps : List (Lending Value × Lending Value)) : Prop :=
  ∀ step ∈ steps, LastTest step.1 step.2 → .keeping ∉ step.1.handles

def Reported (steps : List (Lending Value × Lending Value)) (result : Result Unit) : Prop :=
  ∃ step ∈ steps, Reports step.1 step.2 result

/-- Only this handle has shut the pool down so far. -/
def ShutOnlyBy (number : Nat) (steps : List (Lending Value × Lending Value)) : Prop :=
  ∀ step ∈ steps, ∀ (other : Nat) (handle : PoolHandle),
    step.1.handles[other]? = some handle → handle.shutsDown = true → other = number

/-- The handle is the only one that is not released. -/
structure SoleHandle (lending : Lending Value) (number : Nat) (handle : PoolHandle) :
    Prop where
  place : lending.handles[number]? = some handle
  others : ∀ (other : Nat) (another : PoolHandle),
    lending.handles[other]? = some another → other ≠ number → another = .released

/-- The answers to the refused handles that are released. -/
def Refusals (lending : Lending Value) : List (Result Unit) :=
  List.replicate (lending.handles.countP PoolHandle.isReleased)
    (.error connectionManagerInUse)

/-- Where a run stands: how far its end has come, and whether the shutdown is reported. -/
inductive Course (connections : List Nat) (steps : List (Lending Value × Lending Value))
    (lending : Lending Value) : Prop
  | shared (held : 0 < lending.strong) (unreported : ∀ result, ¬ Reported steps result)
      (unshut : ∀ number, ShutOnlyBy number steps)
      (answers : lending.returned = Refusals lending)
      (alone : .live ∈ lending.handles → LastTestsAlone steps)
      (notAlone : .live ∉ lending.handles → ¬ LastTestsAlone steps)
  | closing {number : Nat} {handle : PoolHandle} (sole : SoleHandle lending number handle)
      (within : handle.pass = some .closes) (shut : ShutOnlyBy number steps)
      (answers : lending.returned = Refusals lending)
      (behind : handle.isBehindWriter = true → lending.writerTaken = true)
      (alone : LastTestsAlone steps)
  | answering {number : Nat} {handle : PoolHandle} {answer : Result Unit}
      (sole : SoleHandle lending number handle)
      (within : handle.pass = some (.drops (some answer))) (shut : ShutOnlyBy number steps)
      (answers : lending.returned = Refusals lending)
      (verdict : LastTestsAlone steps ∧ Reported steps answer ∧ lending.writerTaken = true ∨
        ¬ LastTestsAlone steps ∧ ∀ result, ¬ Reported steps result)
  | ended {number : Nat} {answer : Result Unit}
      (released : ∀ handle ∈ lending.handles, handle = .released)
      (shut : ShutOnlyBy number steps)
      (shutDown : ∃ step ∈ steps, ∃ handle : PoolHandle,
        step.1.handles[number]? = some handle ∧ handle.shutsDown = true)
      (answers : lending.returned = List.replicate (lending.handles.length - 1)
        (.error connectionManagerInUse) ++ [answer])
      (verdict : LastTestsAlone steps ∧ Reported steps answer ∧ lending.writerTaken = true ∧
          lending.closed.Perm connections ∨
        ¬ LastTestsAlone steps ∧ ∀ result, ¬ Reported steps result)

/-! ## One more step -/

section Append

variable {steps : List (Lending Value × Lending Value)} {lending next : Lending Value}

theorem forall_mem_snoc {property : Lending Value × Lending Value → Prop} :
    (∀ step ∈ steps ++ [(lending, next)], property step) ↔
      (∀ step ∈ steps, property step) ∧ property (lending, next) := by
  rw [List.forall_mem_append, List.forall_mem_singleton]

theorem lastTestsAlone_snoc :
    LastTestsAlone (steps ++ [(lending, next)]) ↔
      LastTestsAlone steps ∧ (LastTest lending next → .keeping ∉ lending.handles) :=
  forall_mem_snoc

theorem reported_snoc {result : Result Unit} :
    Reported (steps ++ [(lending, next)]) result ↔
      Reported steps result ∨ Reports lending next result := by
  constructor
  · rintro ⟨step, member, reports⟩
    rcases List.mem_append.mp member with earlier | last
    · exact .inl ⟨step, earlier, reports⟩
    · rw [List.mem_singleton.mp last] at reports
      exact .inr reports
  · rintro (⟨step, member, reports⟩ | reports)
    · exact ⟨step, List.mem_append_left _ member, reports⟩
    · exact ⟨_, List.mem_append_right _ (List.mem_singleton.mpr rfl), reports⟩

/-- A step from a state that nobody else shuts down. -/
theorem ShutOnlyBy.snoc {number : Nat} (shut : ShutOnlyBy number steps)
    (own : ∀ (other : Nat) (handle : PoolHandle), lending.handles[other]? = some handle →
      handle.shutsDown = true → other = number) :
    ShutOnlyBy number (steps ++ [(lending, next)]) :=
  forall_mem_snoc.mpr ⟨shut, own⟩

theorem lastTestsAlone_snoc_iff (noTest : ¬ LastTest lending next) :
    LastTestsAlone (steps ++ [(lending, next)]) ↔ LastTestsAlone steps := by
  rw [lastTestsAlone_snoc, and_iff_left]
  exact fun last => absurd last noTest

/-- A step that moves no live handle is no test. -/
theorem not_lastTest_of_kept
    (kept : ∀ number : Nat, lending.handles[number]? = some .live →
      next.handles[number]? = some .live) : ¬ LastTest lending next := by
  rintro ⟨number, live, moved, -⟩
  exact moved (kept number live)

theorem not_lastTest_of_set {number : Nat} {old new : PoolHandle}
    (place : lending.handles[number]? = some old) (unlive : old ≠ .live)
    (handles : next.handles = lending.handles.set number new) : ¬ LastTest lending next := by
  apply not_lastTest_of_kept
  intro other live
  have apart : number ≠ other := by
    rintro rfl
    exact unlive (Option.some.inj (place.symm.trans live))
  rw [handles, List.getElem?_set_ne apart]
  exact live

/-- The handles that the step does not move are live as before. -/
theorem live_mem_set {number : Nat} {old new : PoolHandle}
    (place : lending.handles[number]? = some old) (unlive : old ≠ .live) :
    .live ∈ lending.handles → .live ∈ lending.handles.set number new := by
  intro live
  obtain ⟨other, present⟩ := List.mem_iff_getElem?.mp live
  have apart : number ≠ other := by
    rintro rfl
    exact unlive (Option.some.inj (place.symm.trans present))
  apply List.mem_of_getElem?
  rw [List.getElem?_set_ne apart]
  exact present

/-- A refusal moves only its own handle. -/
theorem getElem?_of_keeps {number other : Nat} (apart : other ≠ number)
    (handles : next.handles = lending.handles.set number .keeping) :
    next.handles[other]? = lending.handles[other]? := by
  rw [handles, List.getElem?_set_ne (Ne.symm apart)]

/-- A refusal that leaves a live handle is no last test. -/
theorem not_lastTest_of_keeps {number : Nat} (place : lending.handles[number]? = some .live)
    (handles : next.handles = lending.handles.set number .keeping)
    (live : .live ∈ next.handles) : ¬ LastTest lending next := by
  have refused : next.handles[number]? = some .keeping := by
    rw [handles]
    exact List.getElem?_set_self (List.getElem?_eq_some_iff.mp place).1
  rintro ⟨tested, -, moved, only⟩
  obtain ⟨other, present⟩ := List.mem_iff_getElem?.mp live
  have apart : other ≠ number := by
    rintro rfl
    cases refused.symm.trans present
  by_cases same : other = tested
  · exact moved (same ▸ present)
  · exact only other same ((getElem?_of_keeps apart handles).symm.trans present)

/-- A refusal that leaves no live handle is the last test. -/
theorem lastTest_of_keeps {number : Nat} (place : lending.handles[number]? = some .live)
    (handles : next.handles = lending.handles.set number .keeping)
    (untested : .live ∉ next.handles) : LastTest lending next := by
  refine ⟨number, place, fun live => ?_, fun other apart live => ?_⟩
  · exact untested (List.mem_of_getElem? live)
  · exact untested (List.mem_of_getElem? ((getElem?_of_keeps apart handles).trans live))

theorem not_reports_of_passes {result : Result Unit}
    (none : ∀ handle ∈ lending.handles, handle.pass ≠ some .closes) :
    ¬ Reports lending next result := by
  rintro ⟨number, handle, place, within, -⟩
  exact none handle (List.mem_of_getElem? place) within

end Append

/-! ## The last handle -/

section Sole

variable {connections : List Nat} {lending next : Lending Value} {number : Nat}
  {handle : PoolHandle}

theorem refusals_set {old new : PoolHandle} (place : lending.handles[number]? = some old)
    (held : old.isReleased = false) (holds : new.isReleased = false)
    (handles : next.handles = lending.handles.set number new) :
    Refusals next = Refusals lending := by
  have counted := Foundation.countP_set_add place PoolHandle.isReleased new
  rw [held, holds] at counted
  unfold Refusals
  rw [handles, Nat.add_right_cancel counted]

theorem refusals_clone (handles : next.handles = lending.handles ++ [.live]) :
    Refusals next = Refusals lending := by
  have counted : next.handles.countP PoolHandle.isReleased =
      lending.handles.countP PoolHandle.isReleased := by
    rw [handles, List.countP_append]
    rfl
  unfold Refusals
  rw [counted]

theorem refusals_release (place : lending.handles[number]? = some .keeping)
    (handles : next.handles = lending.handles.set number .released) :
    Refusals next = Refusals lending ++ [.error connectionManagerInUse] := by
  have counted : (lending.handles.set number .released).countP PoolHandle.isReleased =
      lending.handles.countP PoolHandle.isReleased + 1 :=
    Foundation.countP_set_add place PoolHandle.isReleased .released
  unfold Refusals
  rw [handles, counted]
  exact List.replicate_succ'

namespace SoleHandle

theorem eq_of_unreleased (sole : SoleHandle lending number handle) {other : Nat}
    {another : PoolHandle} (present : lending.handles[other]? = some another)
    (unreleased : another ≠ .released) : other = number ∧ another = handle := by
  have same : other = number := by
    by_contra apart
    exact unreleased (sole.others other another present apart)
  subst same
  exact ⟨rfl, Option.some.inj (present.symm.trans sole.place)⟩

theorem mem_cases (sole : SoleHandle lending number handle) {another : PoolHandle}
    (member : another ∈ lending.handles) : another = handle ∨ another = .released := by
  obtain ⟨other, present⟩ := List.mem_iff_getElem?.mp member
  by_cases same : other = number
  · subst same
    exact .inl (Option.some.inj (present.symm.trans sole.place))
  · exact .inr (sole.others other another present same)

theorem set (sole : SoleHandle lending number handle) {new : PoolHandle}
    (handles : next.handles = lending.handles.set number new) :
    SoleHandle next number new := by
  have inRange := (List.getElem?_eq_some_iff.mp sole.place).1
  constructor
  · rw [handles, List.getElem?_set_self inRange]
  · intro other another present apart
    rw [handles, List.getElem?_set_ne (Ne.symm apart)] at present
    exact sole.others other another present apart

theorem congr (sole : SoleHandle lending number handle)
    (handles : next.handles = lending.handles) : SoleHandle next number handle := by
  constructor
  · rw [handles]
    exact sole.place
  · rw [handles]
    exact sole.others

/-- The only share is that of the handle. -/
theorem ofLast (kept : LendingKept connections lending) (last : lending.strong = 1)
    (place : lending.handles[number]? = some handle) (shares : handle.sharesPool = true) :
    SoleHandle lending number handle := by
  refine ⟨place, fun other another present apart => ?_⟩
  have member := List.mem_of_getElem? present
  apply PoolHandle.eq_released_of
  · by_contra shared
    have counted := Foundation.countP_set_add place PoolHandle.sharesPool .released
    rw [shares, ← kept.strong, last] at counted
    have nobody : (lending.handles.set number .released).countP PoolHandle.sharesPool = 0 :=
      Nat.succ.inj counted
    have stays : (lending.handles.set number .released)[other]? = some another := by
      rw [List.getElem?_set_ne (Ne.symm apart)]
      exact present
    exact List.countP_eq_zero.mp nobody another (List.mem_of_getElem? stays)
      (eq_true_of_ne_false shared)
  · by_contra ending
    have none := kept.ending another member (eq_true_of_ne_false ending)
    rw [last] at none
    cases none

/-- All others are released, and their refusals answered. -/
theorem refusals_eq (sole : SoleHandle lending number handle)
    (unreleased : handle.isReleased = false) :
    Refusals lending =
      List.replicate (lending.handles.length - 1) (.error connectionManagerInUse) := by
  have counted := Foundation.countP_set_add sole.place PoolHandle.isReleased .released
  rw [unreleased] at counted
  have all : (lending.handles.set number .released).countP PoolHandle.isReleased =
      (lending.handles.set number .released).length := by
    apply List.countP_eq_length.mpr
    intro another member
    have alone : SoleHandle (lending.setHandle number .released) number .released :=
      sole.set rfl
    rcases alone.mem_cases member with rfl | rfl <;> rfl
  rw [all, List.length_set] at counted
  have others : lending.handles.countP PoolHandle.isReleased = lending.handles.length - 1 := by
    rw [show lending.handles.length = _ from counted]
    rfl
  unfold Refusals
  rw [others]

end SoleHandle

end Sole

/-- A test that refuses, when nobody else is live or refused, would have been the last. -/
theorem keeping_mem_of_refusal {connections : List Nat} {lending : Lending Value}
    {number : Nat} (kept : LendingKept connections lending)
    (place : lending.handles[number]? = some .live) (shared : lending.strong ≠ 1)
    (untested : .live ∉ lending.handles.set number .keeping) :
    .keeping ∈ lending.handles := by
  by_contra nobody
  apply shared
  have counted := Foundation.countP_set_add place PoolHandle.sharesPool .released
  rw [kept.strong]
  have none : (lending.handles.set number .released).countP PoolHandle.sharesPool = 0 := by
    apply List.countP_eq_zero.mpr
    intro handle member shares
    obtain ⟨other, present⟩ := List.mem_iff_getElem?.mp member
    by_cases same : number = other
    · subst same
      rw [List.getElem?_set_self (List.getElem?_eq_some_iff.mp place).1] at present
      obtain rfl := Option.some.inj present
      cases shares
    · rw [List.getElem?_set_ne same] at present
      cases handle with
      | live =>
          apply untested
          apply List.mem_of_getElem?
          rw [List.getElem?_set_ne same]
          exact present
      | keeping => exact nobody (List.mem_of_getElem? present)
      | joining | locking | draining | released => cases shares
  rw [none] at counted
  exact counted.symm

/-! ## Runs -/

namespace Course

variable {connections : List Nat} {steps : List (Lending Value × Lending Value)}
  {lending next : Lending Value}

/-- While handles have shares. -/
theorem shared_step (kept : LendingKept connections lending) (held : 0 < lending.strong)
    (unreported : ∀ result, ¬ Reported steps result)
    (unshut : ∀ number, ShutOnlyBy number steps)
    (answers : lending.returned = Refusals lending)
    (alone : .live ∈ lending.handles → LastTestsAlone steps)
    (notAlone : .live ∉ lending.handles → ¬ LastTestsAlone steps)
    (move : ClosingMove connections lending next) :
    Course connections (steps ++ [(lending, next)]) next := by
  have calm : ∀ handle ∈ lending.handles, handle.shutsDown = false := by
    intro handle member
    by_contra ending
    have none := kept.ending handle member (eq_true_of_ne_false ending)
    omega
  have passless : ∀ handle ∈ lending.handles, handle.pass = none := by
    intro handle member
    cases within : handle.pass with
    | none => rfl
    | some pass =>
        have ending := PoolHandle.shutsDown_of_pass within
        rw [calm handle member] at ending
        cases ending
  have unreported' : ∀ result, ¬ Reported (steps ++ [(lending, next)]) result := by
    intro result reported
    rcases reported_snoc.mp reported with earlier | reports
    · exact unreported result earlier
    · refine not_reports_of_passes (fun handle member within => ?_) reports
      cases (passless handle member).symm.trans within
  have unshut' : ∀ number, ShutOnlyBy number (steps ++ [(lending, next)]) := by
    intro number
    refine (unshut number).snoc fun other handle present ending => ?_
    rw [calm handle (List.mem_of_getElem? present)] at ending
    cases ending
  cases move with
  | uses handles strong returned taken closed =>
      have noTest : ¬ LastTest lending next := by
        apply not_lastTest_of_kept
        rw [handles]
        exact fun _ live => live
      apply Course.shared (strong.symm ▸ held) unreported' unshut'
      · unfold Refusals
        rw [returned, answers, handles]
        rfl
      · rw [lastTestsAlone_snoc_iff noTest, handles]
        exact alone
      · rw [lastTestsAlone_snoc_iff noTest, handles]
        exact notAlone
  | clones live handles strong returned =>
      have noTest : ¬ LastTest lending next := by
        apply not_lastTest_of_kept
        intro number present
        rw [handles, List.getElem?_append_left (List.getElem?_eq_some_iff.mp present).1]
        exact present
      apply Course.shared (strong.symm ▸ Nat.succ_pos _) unreported' unshut'
      · rw [returned, refusals_clone handles]
        exact answers
      · exact fun _ => (lastTestsAlone_snoc_iff noTest).mpr (alone live)
      · intro untested
        rw [handles] at untested
        exact absurd (List.mem_append_left _ live) untested
  | @keeps number place shared handles strong returned =>
      have wasLive : .live ∈ lending.handles := List.mem_of_getElem? place
      apply Course.shared (strong.symm ▸ held) unreported' unshut'
      · rw [returned, refusals_set place rfl rfl handles]
        exact answers
      · intro live
        have noTest := not_lastTest_of_keeps place handles live
        exact (lastTestsAlone_snoc_iff noTest).mpr (alone wasLive)
      · intro untested all
        have test := lastTest_of_keeps place handles untested
        rw [handles] at untested
        exact (lastTestsAlone_snoc.mp all).2 test
          (keeping_mem_of_refusal kept place shared untested)
  | @unwraps number place last handles returned =>
      have sole := SoleHandle.ofLast kept last place rfl
      apply Course.closing (sole.set handles) rfl (unshut' number)
      · rw [returned, refusals_set place rfl rfl handles]
        exact answers
      · exact fun behind => by cases behind
      · refine lastTestsAlone_snoc.mpr ⟨alone (List.mem_of_getElem? place), fun _ refused => ?_⟩
        rcases sole.mem_cases refused with same | same <;> cases same
  | @releases number place shared handles strong returned =>
      have noTest := not_lastTest_of_set place (fun same => by cases same) handles
      apply Course.shared _ unreported' unshut'
      · rw [returned, refusals_release place handles, answers]
      · intro live
        refine (lastTestsAlone_snoc_iff noTest).mpr (alone ?_)
        rw [handles] at live
        rcases List.mem_or_eq_of_mem_set live with before | same
        · exact before
        · cases same
      · intro untested all
        rw [handles] at untested
        refine notAlone (fun live => untested ?_) ((lastTestsAlone_snoc_iff noTest).mp all)
        exact live_mem_set place (fun same => by cases same) live
      · omega
  | @dropsLast number place last handles returned =>
      have sole := SoleHandle.ofLast kept last place rfl
      have noTest := not_lastTest_of_set place (fun same => by cases same) handles
      have tested : .live ∉ lending.handles := by
        intro live
        rcases sole.mem_cases live with same | same <;> cases same
      apply Course.answering (sole.set handles) rfl (unshut' number)
      · rw [returned, refusals_set place rfl rfl handles]
        exact answers
      · exact .inr ⟨fun all => notAlone tested ((lastTestsAlone_snoc_iff noTest).mp all),
          unreported'⟩
  | shutsOn place before after handles strong returned behind taken =>
      cases (passless _ (List.mem_of_getElem? place)).symm.trans before
  | endsPass result place before handles strong returned taken closed =>
      cases (passless _ (List.mem_of_getElem? place)).symm.trans before

/-- The handle that shuts the pool down moves on, or another thread does. -/
theorem sole_cases {number : Nat} {handle : PoolHandle} {pass : Pass}
    (sole : SoleHandle lending number handle) (within : handle.pass = some pass)
    (move : ClosingMove connections lending next) :
    (next.handles = lending.handles ∧ next.returned = lending.returned ∧
      next.writerTaken = lending.writerTaken) ∨
    (∃ new : PoolHandle, new.pass = some pass ∧
      next.handles = lending.handles.set number new ∧ next.returned = lending.returned ∧
      ((handle.isBehindWriter = true → lending.writerTaken = true) →
        new.isBehindWriter = true → next.writerTaken = true) ∧
      (lending.writerTaken = true → next.writerTaken = true)) ∨
    ∃ result, next.handles = lending.handles.set number (pass.next result).1 ∧
      next.returned = lending.returned ++ (pass.next result).2 ∧
      ((handle.isBehindWriter = true → lending.writerTaken = true) →
        next.writerTaken = true) ∧
      (lending.writerTaken = true → next.closed.Perm connections) := by
  have unheld : handle ≠ .live ∧ handle ≠ .keeping := by
    constructor <;>
    · rintro rfl
      cases within
  cases move with
  | uses handles strong returned taken closed => exact .inl ⟨handles, returned, taken⟩
  | clones live =>
      rcases sole.mem_cases live with same | same
      · exact absurd same.symm unheld.1
      · cases same
  | keeps place | unwraps place =>
      have same := (sole.eq_of_unreleased place (fun same => by cases same)).2
      exact absurd same.symm unheld.1
  | releases place | dropsLast place =>
      have same := (sole.eq_of_unreleased place (fun same => by cases same)).2
      exact absurd same.symm unheld.2
  | @shutsOn place' old new pass' place before after handles strong returned behind taken =>
      obtain ⟨rfl, rfl⟩ := sole.eq_of_unreleased place (by rintro rfl; cases before)
      obtain rfl := Option.some.inj (within.symm.trans before)
      exact .inr (.inl ⟨new, after, handles, returned, behind, taken⟩)
  | endsPass result place before handles strong returned taken closed =>
      obtain ⟨rfl, rfl⟩ := sole.eq_of_unreleased place (by rintro rfl; cases before)
      obtain rfl := Option.some.inj (within.symm.trans before)
      exact .inr (.inr ⟨result, handles, returned, taken, closed⟩)

theorem sole_shut {number : Nat} {handle : PoolHandle}
    (sole : SoleHandle lending number handle) (shut : ShutOnlyBy number steps) :
    ShutOnlyBy number (steps ++ [(lending, next)]) := by
  refine shut.snoc fun other another present ending => ?_
  refine (sole.eq_of_unreleased present ?_).1
  rintro rfl
  cases ending

/-- No live handle is left to test. -/
theorem sole_noTest {number : Nat} {handle : PoolHandle} {pass : Pass}
    (sole : SoleHandle lending number handle) (within : handle.pass = some pass) :
    ¬ LastTest lending next := by
  rintro ⟨other, live, -⟩
  obtain ⟨-, rfl⟩ := sole.eq_of_unreleased live (fun same => by cases same)
  cases within

theorem refusals_congr (handles : next.handles = lending.handles) :
    Refusals next = Refusals lending := by
  unfold Refusals
  rw [handles]

theorem isReleased_of_pass {handle : PoolHandle} {pass : Pass}
    (within : handle.pass = some pass) : handle.isReleased = false := by
  cases handle <;> first | rfl | cases within

/-- While the `close` that took the pool shuts it down. -/
theorem closing_step {number : Nat} {handle : PoolHandle}
    (sole : SoleHandle lending number handle) (within : handle.pass = some .closes)
    (shut : ShutOnlyBy number steps) (answers : lending.returned = Refusals lending)
    (behind : handle.isBehindWriter = true → lending.writerTaken = true)
    (alone : LastTestsAlone steps) (move : ClosingMove connections lending next) :
    Course connections (steps ++ [(lending, next)]) next := by
  have alone' : LastTestsAlone (steps ++ [(lending, next)]) :=
    (lastTestsAlone_snoc_iff (sole_noTest sole within)).mpr alone
  have shut' : ShutOnlyBy number (steps ++ [(lending, next)]) := sole_shut sole shut
  rcases sole_cases sole within move with
    ⟨handles, returned, taken⟩ | ⟨new, after, handles, returned, behind', -⟩ |
      ⟨result, handles, returned, taken, -⟩
  · apply Course.closing (sole.congr handles) within shut' _ _ alone'
    · rw [returned, refusals_congr handles]
      exact answers
    · rw [taken]
      exact behind
  · apply Course.closing (sole.set handles) after shut' _ (behind' behind) alone'
    rw [returned, refusals_set sole.place (isReleased_of_pass within)
      (isReleased_of_pass after) handles]
    exact answers
  · have reports : Reports lending next result := by
      refine ⟨number, handle, sole.place, within, ?_⟩
      rw [handles]
      exact List.getElem?_set_self (List.getElem?_eq_some_iff.mp sole.place).1
    apply Course.answering (sole.set handles) rfl shut'
    · rw [returned, refusals_set sole.place (isReleased_of_pass within) rfl handles, answers]
      exact List.append_nil _
    · exact .inl ⟨alone', reported_snoc.mpr (.inr reports), taken behind⟩

/-- While the pool is dropped, in a `close` that has its answer. -/
theorem answering_step {number : Nat} {handle : PoolHandle} {answer : Result Unit}
    (sole : SoleHandle lending number handle)
    (within : handle.pass = some (.drops (some answer))) (shut : ShutOnlyBy number steps)
    (answers : lending.returned = Refusals lending)
    (verdict : LastTestsAlone steps ∧ Reported steps answer ∧ lending.writerTaken = true ∨
      ¬ LastTestsAlone steps ∧ ∀ result, ¬ Reported steps result)
    (move : ClosingMove connections lending next) :
    Course connections (steps ++ [(lending, next)]) next := by
  have shut' : ShutOnlyBy number (steps ++ [(lending, next)]) := sole_shut sole shut
  have noTest : ¬ LastTest lending next := sole_noTest sole within
  have noReport : ∀ result, ¬ Reports lending next result := by
    intro result
    apply not_reports_of_passes
    intro another member closes
    rcases sole.mem_cases member with rfl | rfl
    · cases within.symm.trans closes
    · cases closes
  have reported_iff : ∀ result,
      Reported (steps ++ [(lending, next)]) result ↔ Reported steps result := by
    intro result
    rw [reported_snoc, or_iff_left (noReport result)]
  have verdict' : (lending.writerTaken = true → next.writerTaken = true) →
      (LastTestsAlone (steps ++ [(lending, next)]) ∧
          Reported (steps ++ [(lending, next)]) answer ∧ next.writerTaken = true ∨
        ¬ LastTestsAlone (steps ++ [(lending, next)]) ∧
          ∀ result, ¬ Reported (steps ++ [(lending, next)]) result) := by
    intro taken
    simp only [lastTestsAlone_snoc_iff noTest, reported_iff]
    exact verdict.imp_left fun ⟨alone, reported, joined⟩ => ⟨alone, reported, taken joined⟩
  rcases sole_cases sole within move with
    ⟨handles, returned, taken⟩ | ⟨new, after, handles, returned, -, taken⟩ |
      ⟨result, handles, returned, taken, closed⟩
  · apply Course.answering (sole.congr handles) within shut' _ (verdict' fun joined => ?_)
    · rw [returned, refusals_congr handles]
      exact answers
    · rw [taken]
      exact joined
  · apply Course.answering (sole.set handles) after shut' _ (verdict' taken)
    rw [returned, refusals_set sole.place (isReleased_of_pass within)
      (isReleased_of_pass after) handles]
    exact answers
  · have released : ∀ another ∈ next.handles, another = .released := by
      intro another member
      exact ((sole.set handles).mem_cases member).elim id id
    have ending : ∃ step ∈ steps ++ [(lending, next)], ∃ another : PoolHandle,
        step.1.handles[number]? = some another ∧ another.shutsDown = true :=
      ⟨_, List.mem_append_right _ (List.mem_singleton.mpr rfl), handle, sole.place,
        PoolHandle.shutsDown_of_pass within⟩
    apply Course.ended released shut' ending
    · rw [returned, answers, sole.refusals_eq (isReleased_of_pass within), handles,
        List.length_set]
      rfl
    · refine (verdict' fun joined => taken fun _ => joined).imp_left ?_
      rintro ⟨alone, reported, joined⟩
      have joinedBefore : lending.writerTaken = true := by
        rcases verdict with ⟨-, -, joined⟩ | ⟨notAlone, -⟩
        · exact joined
        · exact absurd ((lastTestsAlone_snoc_iff noTest).mp alone) notAlone
      exact ⟨alone, reported, joined, closed joinedBefore⟩

/-- When every handle is released, reads can only end. -/
theorem ended_step {number : Nat} {answer : Result Unit}
    (released : ∀ handle ∈ lending.handles, handle = .released)
    (shut : ShutOnlyBy number steps)
    (shutDown : ∃ step ∈ steps, ∃ handle : PoolHandle,
      step.1.handles[number]? = some handle ∧ handle.shutsDown = true)
    (answers : lending.returned = List.replicate (lending.handles.length - 1)
      (.error connectionManagerInUse) ++ [answer])
    (verdict : LastTestsAlone steps ∧ Reported steps answer ∧ lending.writerTaken = true ∧
        lending.closed.Perm connections ∨
      ¬ LastTestsAlone steps ∧ ∀ result, ¬ Reported steps result)
    (move : ClosingMove connections lending next) :
    Course connections (steps ++ [(lending, next)]) next := by
  have gone : ∀ {other : Nat} {handle : PoolHandle},
      lending.handles[other]? = some handle → handle = .released :=
    fun present => released _ (List.mem_of_getElem? present)
  cases move with
  | uses handles strong returned taken closed =>
      have noTest : ¬ LastTest lending next := by
        rintro ⟨other, live, -⟩
        cases gone live
      have noReport : ∀ result, ¬ Reports lending next result := by
        rintro result ⟨other, handle, present, within, -⟩
        obtain rfl := gone present
        cases within
      have shut' : ShutOnlyBy number (steps ++ [(lending, next)]) := by
        refine shut.snoc fun other handle present ending => ?_
        obtain rfl := gone present
        cases ending
      obtain ⟨step, member, handle, present, ending⟩ := shutDown
      apply Course.ended (handles ▸ released) shut'
        ⟨step, List.mem_append_left _ member, handle, present, ending⟩
      · rw [returned, handles]
        exact answers
      · simp only [lastTestsAlone_snoc_iff noTest, reported_snoc, noReport, or_false, taken,
          closed]
        exact verdict
  | clones live => cases released _ live
  | keeps place | unwraps place | releases place | dropsLast place => cases gone place
  | shutsOn place before | endsPass _ place before =>
      obtain rfl := gone place
      cases before

theorem step (kept : LendingKept connections lending)
    (course : Course connections steps lending)
    (move : ClosingMove connections lending next) :
    Course connections (steps ++ [(lending, next)]) next := by
  cases course with
  | shared held unreported unshut answers alone notAlone =>
      exact shared_step kept held unreported unshut answers alone notAlone move
  | closing sole within shut answers behind alone =>
      exact closing_step sole within shut answers behind alone move
  | answering sole within shut answers verdict =>
      exact answering_step sole within shut answers verdict move
  | ended released shut shutDown answers verdict =>
      exact ended_step released shut shutDown answers verdict move

end Course

theorem ClosingRun.course {connections : List Nat}
    {steps : List (Lending Value × Lending Value)} {lending : Lending Value}
    (run : ClosingRun connections steps lending) :
    LendingKept connections lending ∧ Course connections steps lending := by
  induction run with
  | opened =>
      refine ⟨.opened connections, .shared Nat.one_pos ?_ ?_ rfl ?_ ?_⟩
      · rintro result ⟨step, member, -⟩
        cases member
      · intro number step member
        cases member
      · intro _ step member
        cases member
      · exact fun dead => absurd (List.mem_singleton.mpr rfl) dead
  | step run step closes inductionHypothesis =>
      obtain ⟨kept, course⟩ := inductionHypothesis
      exact ⟨kept.step step, course.step kept (step.closingMove kept closes)⟩

/-! ## Steps of runs -/

namespace ClosingRun

variable {connections : List Nat} {steps : List (Lending Value × Lending Value)}
  {lending next : Lending Value}

theorem clones (run : ClosingRun connections steps lending) (live : .live ∈ lending.handles) :
    ClosingRun connections
      (steps ++ [(lending, { lending with
        handles := lending.handles ++ [.live], strong := lending.strong + 1 })])
      { lending with handles := lending.handles ++ [.live], strong := lending.strong + 1 } := by
  refine run.step (.handle (.clones live)) fun number present => .inl ?_
  dsimp only
  rw [List.getElem?_append_left (List.getElem?_eq_some_iff.mp present).1]
  exact present

/-- A step of one handle, which `close` tests if it is live. -/
theorem moves {number : Nat} {old new : PoolHandle} (run : ClosingRun connections steps lending)
    (step : HandleStep lending next) (place : lending.handles[number]? = some old)
    (handles : next.handles = lending.handles.set number new)
    (tested : old = .live → new = .keeping ∨ new = .joining .closes) :
    ClosingRun connections (steps ++ [(lending, next)]) next := by
  refine run.step (.handle step) fun other present => ?_
  by_cases same : number = other
  · subst same
    obtain rfl := Option.some.inj (place.symm.trans present)
    have moved : next.handles[number]? = some new := by
      rw [handles]
      exact List.getElem?_set_self (List.getElem?_eq_some_iff.mp place).1
    rw [moved]
    rcases tested rfl with rfl | rfl
    · exact .inr (.inl rfl)
    · exact .inr (.inr rfl)
  · left
    rw [handles, List.getElem?_set_ne same]
    exact present

end ClosingRun

/-! ## Closing all clones -/

section Closed

variable {connections : List Nat} {steps : List (Lending Value × Lending Value)}
  {final : Lending Value}

/-- Where a run stands when all handles are released. -/
theorem ClosingRun.ended (run : ClosingRun connections steps final)
    (closed : ∀ handle ∈ final.handles, handle = .released) :
    ∃ number answer, ShutOnlyBy number steps ∧
      (∃ step ∈ steps, ∃ handle : PoolHandle,
        step.1.handles[number]? = some handle ∧ handle.shutsDown = true) ∧
      final.returned = List.replicate (final.handles.length - 1)
        (.error connectionManagerInUse) ++ [answer] ∧
      (LastTestsAlone steps ∧ Reported steps answer ∧ final.writerTaken = true ∧
          final.closed.Perm connections ∨
        ¬ LastTestsAlone steps ∧ ∀ result, ¬ Reported steps result) := by
  obtain ⟨kept, course⟩ := run.course
  cases course with
  | shared held =>
      rw [kept.strong] at held
      obtain ⟨handle, member, shares⟩ := List.countP_pos_iff.mp held
      obtain rfl := closed handle member
      cases shares
  | closing sole within | answering sole within =>
      obtain rfl := closed _ (List.mem_of_getElem? sole.place)
      cases within
  | ended released shut shutDown answers verdict =>
      exact ⟨_, _, shut, shutDown, answers, verdict⟩

theorem ClosingRun.closedOnce (run : ClosingRun connections steps final)
    (closed : ∀ handle ∈ final.handles, handle = .released) (alone : LastTestsAlone steps) :
    ClosedOnce connections steps final := by
  obtain ⟨number, answer, shut, shutDown, answers, verdict⟩ := run.ended closed
  rcases verdict with ⟨-, reported, joined, all⟩ | ⟨notAlone, -⟩
  · refine ⟨⟨number, shutDown, ?_⟩, joined, all, answer, reported, ?_⟩
    · rintro other ⟨step, member, handle, present, ending⟩
      exact shut step member other handle present ending
    · rw [answers]
      exact List.perm_append_singleton answer _
  · exact absurd alone notAlone

/-- No caller gets the result of the shutdown that the last refused handle makes. -/
theorem ClosingRun.not_closedOnce (run : ClosingRun connections steps final)
    (closed : ∀ handle ∈ final.handles, handle = .released)
    (refused : ¬ LastTestsAlone steps) : ¬ ClosedOnce connections steps final := by
  intro once
  obtain ⟨number, answer, -, -, -, verdict⟩ := run.ended closed
  rcases verdict with ⟨alone, -⟩ | ⟨-, unreported⟩
  · exact refused alone
  · obtain ⟨result, reported, -⟩ := once.reported
    exact unreported result reported

end Closed

/-- When all handles of a pool are given up by `close`, its shutdown runs once and is
reported to exactly one caller if and only if the last test of the count finds every other
handle released. -/
theorem closing_clones_iff (connections : List Nat)
    (steps : List (Lending Value × Lending Value)) (final : Lending Value)
    (run : ClosingRun connections steps final)
    (closed : ∀ handle ∈ final.handles, handle = .released) :
    ClosedOnce connections steps final ↔
      ∀ step ∈ steps, LastTest step.1 step.2 → .keeping ∉ step.1.handles := by
  constructor
  · intro once
    by_contra refused
    exact run.not_closedOnce closed refused once
  · exact run.closedOnce closed

/-- Two clones of a pool over one reader, and a writer that fails to close.  The first
`close` is refused and drops its handle before the second is tested, which reports the
failure. -/
theorem closing_clones_iff_two :
    ∃ steps : List (Lending Unit × Lending Unit), ∃ final : Lending Unit,
      ClosingRun [4] steps final ∧
      (∃ step ∈ steps, .keeping ∈ step.1.handles) ∧
      final.returned = [.error connectionManagerInUse, .error storageFailed] ∧
      ClosedOnce [4] steps final := by
  have start : ClosingRun [4] [] (.opened [4] : Lending Unit) := .opened
  have cloned := start.clones (List.mem_singleton.mpr rfl)
  have first := cloned.moves (@HandleStep.closes _ _ 0 rfl fun call member => by cases member)
    rfl rfl fun _ => .inl rfl
  have refused := first.moves (@HandleStep.refuses _ _ 0 rfl) rfl rfl
    (fun live => by cases live)
  have second := refused.moves (@HandleStep.closes _ _ 1 rfl fun call member => by cases member)
    rfl rfl fun _ => .inr rfl
  have joined := second.moves (@HandleStep.joins _ _ 1 _ (.error storageFailed) rfl
    (fun taken => by cases taken)) rfl rfl (fun live => by cases live)
  have drained := joined.moves (@HandleStep.drains _ _ 1 _ _ rfl rfl) rfl rfl
    (fun live => by cases live)
  have one := drained.moves (@HandleStep.closesOne _ _ 1 _ _ _ _ _ (.ok ()) rfl) rfl rfl
    (fun live => by cases live)
  have shutDown := one.moves (@HandleStep.shutDown _ _ 1 _ _ _ rfl) rfl rfl
    (fun live => by cases live)
  have again := shutDown.moves (@HandleStep.joins _ _ 1 _ (.ok ()) rfl (fun _ => rfl)) rfl rfl
    (fun live => by cases live)
  have empty := again.moves (@HandleStep.drains _ _ 1 _ _ rfl rfl) rfl rfl
    (fun live => by cases live)
  have done := empty.moves (@HandleStep.shutDown _ _ 1 _ _ _ rfl) rfl rfl
    (fun live => by cases live)
  have released : ∀ handle ∈ [PoolHandle.released, .released], handle = .released := by
    simp
  refine ⟨_, _, done, ?_, rfl, (closing_clones_iff [4] _ _ done released).mpr ?_⟩
  · apply Exists.intro
    constructor
    · -- behind the refused test come two of the second handle's and six of its shutdown
      iterate 8 apply List.mem_append_left
      apply List.mem_append_right
      exact List.mem_singleton.mpr rfl
    · exact .head _
  · iterate 8 refine forall_mem_snoc.mpr ⟨?_, fun _ => PoolHandle.keeping_not_mem rfl⟩
    refine forall_mem_snoc.mpr ⟨?_, ?_⟩
    · iterate 2 refine forall_mem_snoc.mpr ⟨?_, fun _ => PoolHandle.keeping_not_mem rfl⟩
      exact List.forall_mem_nil _
    · -- the second handle stays live while the first is dropped
      rintro ⟨number, present, tested, -⟩
      match number with
      | 0 => cases present
      | 1 => exact absurd rfl tested
      | _ + 2 => cases present

/-- Two clones are tested one after the other before the first refused one is dropped, and
nobody learns that the writer failed to close. -/
theorem refused_clones_lose_error :
    ∃ steps : List (Lending Unit × Lending Unit), ∃ final : Lending Unit,
      ClosingRun [4] steps final ∧
      (∀ handle ∈ final.handles, handle = .released) ∧
      (∃ step ∈ steps, ∃ pass, .locking pass (.error storageFailed) ∈ step.1.handles) ∧
      final.returned = [.error connectionManagerInUse, .error connectionManagerInUse] ∧
      ¬ ClosedOnce [4] steps final := by
  have start : ClosingRun [4] [] (.opened [4] : Lending Unit) := .opened
  have cloned := start.clones (List.mem_singleton.mpr rfl)
  have first := cloned.moves (@HandleStep.closes _ _ 0 rfl fun call member => by cases member)
    rfl rfl fun _ => .inl rfl
  have second := first.moves (@HandleStep.closes _ _ 1 rfl fun call member => by cases member)
    rfl rfl fun _ => .inl rfl
  have refused := second.moves (@HandleStep.refuses _ _ 0 rfl) rfl rfl
    (fun live => by cases live)
  have dropping := refused.moves (@HandleStep.refuses _ _ 1 rfl) rfl rfl
    (fun live => by cases live)
  have joined := dropping.moves (@HandleStep.joins _ _ 1 _ (.error storageFailed) rfl
    (fun taken => by cases taken)) rfl rfl (fun live => by cases live)
  have drained := joined.moves (@HandleStep.drains _ _ 1 _ _ rfl rfl) rfl rfl
    (fun live => by cases live)
  have one := drained.moves (@HandleStep.closesOne _ _ 1 _ _ _ _ _ (.ok ()) rfl) rfl rfl
    (fun live => by cases live)
  have done := one.moves (@HandleStep.shutDown _ _ 1 _ _ _ rfl) rfl rfl
    (fun live => by cases live)
  have released : ∀ handle ∈ [PoolHandle.released, .released], handle = .released := by
    simp
  refine ⟨_, _, done, released, ?_, rfl, done.not_closedOnce released fun alone => ?_⟩
  · apply Exists.intro
    constructor
    · -- the reader is closed and the pool dropped behind it
      apply List.mem_append_left
      apply List.mem_append_left
      apply List.mem_append_right
      exact List.mem_singleton.mpr rfl
    · exact ⟨_, .tail _ (.head _)⟩
  · have test := alone _ (by
      -- behind the second test come two drops, the join and three steps of the readers
      iterate 6 apply List.mem_append_left
      apply List.mem_append_right
      exact List.mem_singleton.mpr rfl)
    refine test ⟨1, rfl, (fun same => by cases same), fun other apart live => ?_⟩ (.head _)
    match other with
    | 0 => cases live
    | 1 => exact apart rfl
    | _ + 2 => cases live

end Csgdb.Pool
