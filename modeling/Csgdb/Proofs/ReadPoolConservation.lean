/-
Module: Csgdb.Proofs.ReadPoolConservation
Purpose: No reader of a pool is lost or lent twice, its counters agree with its leases, and
  the last handle finds every reader at home and closes each of them once.
Trusted boundary: none
Main exports: CallMoves, CallStep.moves, HandleMoves, HandleStep.moves, LendingKept,
  ReadPoolConserved, read_pool_conserved
-/
import Csgdb.Pool.Lending
import Csgdb.Foundation.Replacement

namespace Csgdb.Pool

variable {Value : Type}

/-! ## Steps of calls -/

namespace CallPhase

/-- The call has a part in `active`. -/
def isCounted : CallPhase Value → Bool
  | .leased _ => true
  | .dropping _ _ => true
  | .returning _ _ => true
  | .pushed _ => true
  | _ => false

/-- The call has found no connection and not counted that. -/
def foundNone : CallPhase Value → Bool
  | .exhausted => true
  | _ => false

end CallPhase

/-- What a step of a call moves: connections between the list and its hands, the lock, and
its parts of the counters. -/
structure CallMoves (lent : LentReaders) (phase : CallPhase Value) (lent' : LentReaders)
    (phase' : CallPhase Value) : Prop where
  connections : ∀ connection,
    lent'.readers.connections.count connection + phase'.connection.toList.count connection =
      lent.readers.connections.count connection + phase.connection.toList.count connection
  lock : phase'.holdsLock.toNat + lent.locked.toNat =
    phase.holdsLock.toNat + lent'.locked.toNat
  active : lent'.readers.active + phase.isCounted.toNat =
    lent.readers.active + phase'.isCounted.toNat
  rejected : lent'.readers.rejectedCheckouts + phase'.foundNone.toNat + lent.foundEmpty =
    lent.readers.rejectedCheckouts + phase.foundNone.toNat + lent'.foundEmpty
  unfinished : phase.isOver = false

theorem CallStep.moves {lent lent' : LentReaders} {phase phase' : CallPhase Value}
    (step : CallStep lent phase lent' phase')
    (holder : phase.holdsLock = true → lent.locked = true)
    (counted : phase.isCounted = true → 0 < lent.readers.active) :
    CallMoves lent phase lent' phase' := by
  cases step with
  | locks free => exact ⟨fun _ => rfl, by rw [free]; rfl, rfl, rfl, rfl⟩
  | pops available =>
      refine ⟨fun connection => ?_, rfl, rfl, rfl, rfl⟩
      rw [available]
      simp only [LentReaders.setConnections, CallPhase.connection, Option.toList_some,
        Option.toList_none, List.count_nil, List.count_cons]
      omega
  | leases => exact ⟨fun _ => rfl, by rw [holder rfl]; rfl, rfl, rfl, rfl⟩
  | sleeps empty => exact ⟨fun _ => rfl, by rw [holder rfl]; rfl, rfl, rfl, rfl⟩
  | wakes => exact ⟨fun _ => rfl, rfl, rfl, rfl, rfl⟩
  | findsNone empty =>
      refine ⟨fun _ => rfl, rfl, rfl, ?_, rfl⟩
      show lent.readers.rejectedCheckouts + 1 + lent.foundEmpty =
        lent.readers.rejectedCheckouts + 0 + (lent.foundEmpty + 1)
      omega
  | rejects => exact ⟨fun _ => rfl, by rw [holder rfl]; rfl, rfl, rfl, rfl⟩
  | drops outcome => exact ⟨fun _ => rfl, rfl, rfl, rfl, rfl⟩
  | locksAgain free => exact ⟨fun _ => rfl, by rw [free]; rfl, rfl, rfl, rfl⟩
  | pushes =>
      refine ⟨fun connection => ?_, rfl, rfl, rfl, rfl⟩
      simp only [LentReaders.setConnections, CallPhase.connection, Option.toList_some,
        Option.toList_none, List.count_nil, List.count_cons]
      omega
  | discounts =>
      have positive := counted rfl
      refine ⟨fun _ => rfl, rfl, ?_, rfl, rfl⟩
      show lent.readers.active - 1 + 1 = lent.readers.active + 0
      omega
  | notifies => exact ⟨fun _ => rfl, by rw [holder rfl]; rfl, rfl, rfl, rfl⟩
  | locksToCount free => exact ⟨fun _ => rfl, by rw [free]; rfl, rfl, rfl, rfl⟩
  | measures => exact ⟨fun _ => rfl, by rw [holder rfl]; rfl, rfl, rfl, rfl⟩
  | counts => exact ⟨fun _ => rfl, rfl, rfl, rfl, rfl⟩

/-! ## Steps of handles -/

/-- What a step of one handle moves: the handle itself from one phase to another, its
share, the lock, and connections out of the list into its hands and to their close. -/
structure HandleMoves (lending next : Lending Value) (number : Nat)
    (old new : PoolHandle) : Prop where
  place : lending.handles[number]? = some old
  handles : next.handles = lending.handles.set number new
  calls : next.calls = lending.calls
  unborrowed : old = .live → lending.Unborrowed number
  active : next.lent.readers.active = lending.lent.readers.active
  rejected : next.lent.readers.rejectedCheckouts = lending.lent.readers.rejectedCheckouts
  foundEmpty : next.lent.foundEmpty = lending.lent.foundEmpty
  connections : ∀ connection,
    next.lent.readers.connections.count connection + new.drained.count connection +
        next.closed.count connection =
      lending.lent.readers.connections.count connection + old.drained.count connection +
        lending.closed.count connection
  lock : new.holdsLock.toNat + lending.lent.locked.toNat =
    old.holdsLock.toNat + next.lent.locked.toNat
  strong : next.strong + old.sharesPool.toNat = lending.strong + new.sharesPool.toNat
  sharing : new.sharesPool = true → old.sharesPool = true
  ending : new.shutsDown = true → old.shutsDown = true ∨ next.strong = 0
  intact : old.shutsDown = false → new.drained = [] ∧ next.closed = lending.closed
  emptied : next.lent.readers.connections = [] ∨
    next.lent.readers.connections = lending.lent.readers.connections ∧
      (new.holdsLock = true → old.holdsLock = true)

theorem Lending.dropShare_moves {lending : Lending Value} {number : Nat} {old : PoolHandle}
    (answer : Option (Result Unit)) (place : lending.handles[number]? = some old)
    (unborrowed : old = .live → lending.Unborrowed number) (shares : old.sharesPool = true)
    (atRest : old.holdsLock = false ∧ old.drained = []) (positive : 0 < lending.strong) :
    ∃ new, HandleMoves lending (lending.dropShare number answer) number old new := by
  obtain ⟨unlocked, undrained⟩ := atRest
  unfold Lending.dropShare
  by_cases last : lending.strong = 1
  · rw [if_pos last]
    refine ⟨.joining (.drops answer), place, rfl, rfl, unborrowed, rfl, rfl, rfl, ?_, ?_, ?_,
      ?_, fun _ => .inr rfl, fun _ => ⟨rfl, rfl⟩, .inr ⟨rfl, ?_⟩⟩
    · intro connection
      rw [undrained]
      rfl
    · rw [unlocked]
      rfl
    · rw [shares, last]
      rfl
    · exact fun _ => shares
    · intro holds
      cases holds
  · rw [if_neg last]
    refine ⟨.released, place, rfl, rfl, unborrowed, rfl, rfl, rfl, ?_, ?_, ?_, ?_, ?_,
      fun _ => ⟨rfl, rfl⟩, .inr ⟨rfl, ?_⟩⟩
    · intro connection
      rw [undrained]
      rfl
    · rw [unlocked]
      rfl
    · rw [shares]
      show lending.strong - 1 + 1 = lending.strong + 0
      omega
    · exact fun _ => shares
    · intro shutsDown
      cases shutsDown
    · intro holds
      cases holds

theorem Lending.tryUnwrap_moves {lending : Lending Value} {number : Nat}
    (place : lending.handles[number]? = some .live)
    (unborrowed : lending.Unborrowed number) :
    ∃ new, HandleMoves lending (lending.tryUnwrap number) number .live new := by
  unfold Lending.tryUnwrap
  by_cases last : lending.strong = 1
  · rw [if_pos last]
    refine ⟨.joining .closes, place, rfl, rfl, fun _ => unborrowed, rfl, rfl, rfl,
      fun _ => rfl, rfl, ?_, fun _ => rfl, fun _ => .inr rfl, fun _ => ⟨rfl, rfl⟩,
      .inr ⟨rfl, id⟩⟩
    rw [last]
    rfl
  · rw [if_neg last]
    exact ⟨.keeping, place, rfl, rfl, fun _ => unborrowed, rfl, rfl, rfl, fun _ => rfl, rfl,
      rfl, fun _ => rfl, .inl, fun _ => ⟨rfl, rfl⟩, .inr ⟨rfl, id⟩⟩

/-- Behind a run of `shutdown` a handle owns nothing. -/
theorem Pass.next_rests (pass : Pass) (result : Result Unit) :
    (pass.next result).1.sharesPool = false ∧ (pass.next result).1.holdsLock = false ∧
      (pass.next result).1.drained = [] := by
  cases pass <;> exact ⟨rfl, rfl, rfl⟩

/-- A step of the handle that shuts the pool down, and has no share of it. -/
theorem HandleMoves.ofShutdown {lending next : Lending Value} {number : Nat}
    {old new : PoolHandle} (place : lending.handles[number]? = some old)
    (ends : old.shutsDown = true) (unshared : new.sharesPool = false)
    (handles : next.handles = lending.handles.set number new)
    (calls : next.calls = lending.calls) (strong : next.strong = lending.strong)
    (active : next.lent.readers.active = lending.lent.readers.active)
    (rejected : next.lent.readers.rejectedCheckouts =
      lending.lent.readers.rejectedCheckouts)
    (foundEmpty : next.lent.foundEmpty = lending.lent.foundEmpty)
    (connections : ∀ connection,
      next.lent.readers.connections.count connection + new.drained.count connection +
          next.closed.count connection =
        lending.lent.readers.connections.count connection + old.drained.count connection +
          lending.closed.count connection)
    (lock : new.holdsLock.toNat + lending.lent.locked.toNat =
      old.holdsLock.toNat + next.lent.locked.toNat)
    (emptied : next.lent.readers.connections = [] ∨
      next.lent.readers.connections = lending.lent.readers.connections ∧
        (new.holdsLock = true → old.holdsLock = true)) :
    HandleMoves lending next number old new where
  place := place
  handles := handles
  calls := calls
  unborrowed := by
    intro live
    rw [live] at ends
    cases ends
  active := active
  rejected := rejected
  foundEmpty := foundEmpty
  connections := connections
  lock := lock
  strong := by
    have oldUnshared : old.sharesPool = false := by cases old <;> first | rfl | cases ends
    rw [strong, oldUnshared, unshared]
  sharing := by
    intro shares
    rw [unshared] at shares
    cases shares
  ending := fun _ => .inl ends
  intact := by
    intro notEnding
    rw [ends] at notEnding
    cases notEnding
  emptied := emptied

/-- A step of a handle clones it, or moves it on. -/
theorem HandleStep.moves {lending next : Lending Value} (step : HandleStep lending next)
    (positive : ∀ handle ∈ lending.handles, handle.sharesPool = true → 0 < lending.strong)
    (holder : ∀ handle ∈ lending.handles, handle.holdsLock = true →
      lending.lent.locked = true) :
    (.live ∈ lending.handles ∧
      next = { lending with
        handles := lending.handles ++ [.live], strong := lending.strong + 1 }) ∨
    ∃ number old new, HandleMoves lending next number old new := by
  cases step with
  | clones live => exact .inl ⟨live, rfl⟩
  | @drops number place unborrowed =>
      right
      obtain ⟨new, moves⟩ := lending.dropShare_moves none place (fun _ => unborrowed) rfl
        ⟨rfl, rfl⟩ (positive _ (List.mem_of_getElem? place) rfl)
      exact ⟨number, _, new, moves⟩
  | @closes number place unborrowed =>
      right
      obtain ⟨new, moves⟩ := lending.tryUnwrap_moves place unborrowed
      exact ⟨number, _, new, moves⟩
  | @refuses number place =>
      right
      obtain ⟨new, moves⟩ := lending.dropShare_moves (some (.error connectionManagerInUse))
        place (fun live => by cases live) rfl ⟨rfl, rfl⟩
        (positive _ (List.mem_of_getElem? place) rfl)
      exact ⟨number, _, new, moves⟩
  | @joins number pass result place again =>
      right
      exact ⟨number, _, _, .ofShutdown place rfl rfl rfl rfl rfl rfl rfl rfl (fun _ => rfl)
        rfl (.inr ⟨rfl, id⟩)⟩
  | @writerPanicked number pass place first =>
      right
      obtain ⟨unshared, unlocked, undrained⟩ := pass.next_rests (.error writerThreadStopped)
      refine ⟨number, _, _, .ofShutdown place rfl unshared rfl rfl rfl rfl rfl rfl ?_ ?_
        (.inr ⟨rfl, ?_⟩)⟩
      · intro connection
        rw [undrained]
        rfl
      · rw [unlocked]
        rfl
      · intro holds
        rw [unlocked] at holds
        cases holds
  | @drains number pass writerResult place free =>
      right
      refine ⟨number, _, _, .ofShutdown place rfl rfl rfl rfl rfl rfl rfl rfl ?_ ?_ (.inl rfl)⟩
      · intro connection
        simp only [Lending.setHandle, PoolHandle.drained, LentReaders.lock,
          LentReaders.setConnections, List.count_nil, List.count_reverse]
        omega
      · rw [free]
        rfl
  | @closesOne number pass writerResult result connection left answer place =>
      right
      refine ⟨number, _, _, .ofShutdown place rfl rfl rfl rfl rfl rfl rfl rfl ?_ rfl
        (.inr ⟨rfl, id⟩)⟩
      intro other
      simp only [Lending.setHandle, PoolHandle.drained, List.count_append, List.count_cons,
        List.count_nil]
      omega
  | @shutDown number pass writerResult result place =>
      right
      obtain ⟨unshared, unlocked, undrained⟩ := pass.next_rests (firstError writerResult result)
      have locked := holder _ (List.mem_of_getElem? place) rfl
      refine ⟨number, _, _, .ofShutdown place rfl unshared rfl rfl rfl rfl rfl rfl ?_ ?_
        (.inr ⟨rfl, ?_⟩)⟩
      · intro connection
        rw [undrained]
        rfl
      · rw [unlocked, locked]
        rfl
      · intro holds
        rw [unlocked] at holds
        cases holds

/-! ## What every step keeps -/

/-- Every reader is in the list, in the hands of a call, drained by a shutdown or closed;
the lock has one holder; the counters count what is lent and what was refused; calls borrow
living handles, and a shutdown begins behind the last one. -/
structure LendingKept (initial : List Nat) (lending : Lending Value) : Prop where
  connections : ∀ connection,
    lending.lent.readers.connections.count connection + lending.leased.count connection +
        lending.drained.count connection + lending.closed.count connection =
      initial.count connection
  lock : (lending.calls.countP fun call => call.phase.holdsLock) +
    lending.handles.countP PoolHandle.holdsLock = lending.lent.locked.toNat
  active : lending.lent.readers.active =
    lending.calls.countP fun call => call.phase.isCounted
  rejected : lending.lent.readers.rejectedCheckouts +
    (lending.calls.countP fun call => call.phase.foundNone) = lending.lent.foundEmpty
  borrowed : ∀ call ∈ lending.calls, call.phase.isOver = false →
    lending.handles[call.handle]? = some .live
  strong : lending.strong = lending.handles.countP PoolHandle.sharesPool
  ending : ∀ handle ∈ lending.handles, handle.shutsDown = true → lending.strong = 0
  intact : 0 < lending.strong → lending.drained = [] ∧ lending.closed = []
  emptied : ∀ handle ∈ lending.handles, handle.holdsLock = true →
    lending.lent.readers.connections = []

namespace LendingKept

variable {initial : List Nat} {lending next : Lending Value}

theorem strong_pos (kept : LendingKept initial lending) {handle : PoolHandle}
    (member : handle ∈ lending.handles) (shares : handle.sharesPool = true) :
    0 < lending.strong := by
  rw [kept.strong]
  exact List.countP_pos_iff.mpr ⟨handle, member, shares⟩

theorem locked_of_call (kept : LendingKept initial lending) {call : Call Value}
    (member : call ∈ lending.calls) (holds : call.phase.holdsLock = true) :
    lending.lent.locked = true := by
  have one : 0 < lending.calls.countP fun call => call.phase.holdsLock :=
    List.countP_pos_iff.mpr ⟨call, member, holds⟩
  have lock := kept.lock
  cases locked : lending.lent.locked with
  | true => rfl
  | false =>
      rw [locked, Bool.toNat_false] at lock
      omega

theorem locked_of_handle (kept : LendingKept initial lending) {handle : PoolHandle}
    (member : handle ∈ lending.handles) (holds : handle.holdsLock = true) :
    lending.lent.locked = true := by
  have one : 0 < lending.handles.countP PoolHandle.holdsLock :=
    List.countP_pos_iff.mpr ⟨handle, member, holds⟩
  have lock := kept.lock
  cases locked : lending.lent.locked with
  | true => rfl
  | false =>
      rw [locked, Bool.toNat_false] at lock
      omega

/-- While a call is under way its handle keeps the pool. -/
theorem strong_of_call (kept : LendingKept initial lending) {call : Call Value}
    (member : call ∈ lending.calls) (unfinished : call.phase.isOver = false) :
    0 < lending.strong :=
  kept.strong_pos (List.mem_of_getElem? (kept.borrowed call member unfinished)) rfl

theorem opened (connections : List Nat) :
    LendingKept connections (.opened connections : Lending Value) where
  connections := fun _ => rfl
  lock := rfl
  active := rfl
  rejected := rfl
  borrowed := fun _ member => by cases member
  strong := rfl
  ending := by
    intro handle member shutsDown
    rw [List.mem_singleton.mp member] at shutsDown
    cases shutsDown
  intact := fun _ => ⟨rfl, rfl⟩
  emptied := by
    intro handle member holds
    rw [List.mem_singleton.mp member] at holds
    cases holds

/-- A new call has nothing yet. -/
theorem begins (kept : LendingKept initial lending) {number : Nat}
    {phase : CallPhase Value} (place : lending.handles[number]? = some .live)
    (start : phase = .entered true ∨ phase = .entered false ∨ phase = .counting) :
    LendingKept initial
      { lending with calls := lending.calls ++ [{ handle := number, phase := phase }] } := by
  have fresh : phase.connection = none ∧ phase.holdsLock = false ∧
      phase.isCounted = false ∧ phase.foundNone = false := by
    rcases start with rfl | rfl | rfl <;> exact ⟨rfl, rfl, rfl, rfl⟩
  obtain ⟨unconnected, unlocked, uncounted, unrefused⟩ := fresh
  constructor
  case connections =>
    intro connection
    have before := kept.connections connection
    simpa only [Lending.leased, Lending.drained, List.flatMap_append, List.flatMap_cons,
      List.flatMap_nil, unconnected, Option.toList_none, List.append_nil] using before
  case lock =>
    have before := kept.lock
    simpa only [List.countP_append, List.countP_singleton, unlocked, Bool.false_eq_true,
      if_false, Nat.add_zero] using before
  case active =>
    have before := kept.active
    simpa only [List.countP_append, List.countP_singleton, uncounted, Bool.false_eq_true,
      if_false, Nat.add_zero] using before
  case rejected =>
    have before := kept.rejected
    simpa only [List.countP_append, List.countP_singleton, unrefused, Bool.false_eq_true,
      if_false, Nat.add_zero] using before
  case borrowed =>
    intro call member unfinished
    rcases List.mem_append.mp member with earlier | new
    · exact kept.borrowed call earlier unfinished
    · rw [List.mem_singleton.mp new]
      exact place
  case strong => exact kept.strong
  case ending => exact kept.ending
  case intact => exact kept.intact
  case emptied => exact kept.emptied

/-- A step of one call. -/
theorem call_step (kept : LendingKept initial lending) {before after : List (Call Value)}
    {number : Nat} {phase phase' : CallPhase Value} {lent : LentReaders}
    (place : lending.calls = before ++ { handle := number, phase := phase } :: after)
    (step : CallStep lending.lent phase lent phase') :
    LendingKept initial { lending with
      lent := lent
      calls := before ++ { handle := number, phase := phase' } :: after } := by
  have member : { handle := number, phase := phase } ∈ lending.calls := by
    rw [place]
    exact List.mem_append_right _ List.mem_cons_self
  have moves := step.moves (kept.locked_of_call member) fun counted => by
    rw [kept.active]
    exact List.countP_pos_iff.mpr ⟨_, member, counted⟩
  have positive := kept.strong_of_call member moves.unfinished
  constructor
  case connections =>
    intro connection
    have earlier := kept.connections connection
    have moved := moves.connections connection
    have leased := Foundation.count_flatMap_replaced
      (fun call : Call Value => call.phase.connection.toList) before after
      { handle := number, phase := phase } { handle := number, phase := phase' } connection
    simp only [Lending.leased, Lending.drained, place] at earlier leased ⊢
    omega
  case lock =>
    have earlier := kept.lock
    have moved := moves.lock
    have holders := Foundation.countP_replaced
      (fun call : Call Value => call.phase.holdsLock) before after
      { handle := number, phase := phase } { handle := number, phase := phase' }
    rw [place] at earlier
    dsimp only at earlier holders ⊢
    omega
  case active =>
    have earlier := kept.active
    have moved := moves.active
    have counted := Foundation.countP_replaced
      (fun call : Call Value => call.phase.isCounted) before after
      { handle := number, phase := phase } { handle := number, phase := phase' }
    rw [place] at earlier
    dsimp only at earlier counted ⊢
    omega
  case rejected =>
    have earlier := kept.rejected
    have moved := moves.rejected
    have refused := Foundation.countP_replaced
      (fun call : Call Value => call.phase.foundNone) before after
      { handle := number, phase := phase } { handle := number, phase := phase' }
    rw [place] at earlier
    dsimp only at earlier refused ⊢
    omega
  case borrowed =>
    intro call inCalls unfinished
    rcases List.mem_append.mp inCalls with inBefore | inRest
    · exact kept.borrowed call (by rw [place]; exact List.mem_append_left _ inBefore)
        unfinished
    · rcases List.mem_cons.mp inRest with rfl | inAfter
      · have live := kept.borrowed _ member moves.unfinished
        exact live
      · exact kept.borrowed call
          (by rw [place]; exact List.mem_append_right _ (List.mem_cons_of_mem _ inAfter))
          unfinished
  case strong => exact kept.strong
  case ending => exact kept.ending
  case intact => exact kept.intact
  case emptied =>
    -- No shutdown has begun while a call is under way.
    intro handle inHandles holds
    have shutsDown : handle.shutsDown = true := by
      cases handle <;> first | rfl | cases holds
    have none := kept.ending handle inHandles shutsDown
    omega

/-- The other handles are where they were. -/
theorem mem_of_moves {number : Nat} {old new handle : PoolHandle}
    (moves : HandleMoves lending next number old new) (member : handle ∈ next.handles) :
    handle ∈ lending.handles ∨ handle = new := by
  rw [moves.handles] at member
  exact List.mem_or_eq_of_mem_set member

/-- No step of a handle adds a share. -/
theorem strong_le_of_moves {number : Nat} {old new : PoolHandle}
    (moves : HandleMoves lending next number old new) : next.strong ≤ lending.strong := by
  have strong := moves.strong
  cases shared : new.sharesPool with
  | false =>
      rw [shared, Bool.toNat_false] at strong
      omega
  | true =>
      rw [shared, moves.sharing shared] at strong
      omega

/-- A handle whose call is not finished stays where it is. -/
theorem apart_of_unfinished {number : Nat} {old new : PoolHandle}
    (moves : HandleMoves lending next number old new) {call : Call Value}
    (member : call ∈ lending.calls) (unfinished : call.phase.isOver = false)
    (live : lending.handles[call.handle]? = some .live) : number ≠ call.handle := by
  intro same
  have isLive : old = .live := by
    have place := moves.place
    rw [same, live] at place
    exact (Option.some.inj place).symm
  have ended := moves.unborrowed isLive call member same.symm
  rw [unfinished] at ended
  cases ended

/-- A step of one handle. -/
theorem handle_step {number : Nat} {old new : PoolHandle}
    (kept : LendingKept initial lending)
    (moves : HandleMoves lending next number old new) : LendingKept initial next := by
  have oldMember := List.mem_of_getElem? moves.place
  have shares := Foundation.countP_set_add moves.place PoolHandle.sharesPool new
  have stays := strong_le_of_moves moves
  constructor
  case connections =>
    intro connection
    have earlier := kept.connections connection
    have moved := moves.connections connection
    have drained :=
      Foundation.count_flatMap_set_add moves.place PoolHandle.drained new connection
    simp only [Lending.leased, Lending.drained, moves.calls, moves.handles] at earlier ⊢
    omega
  case lock =>
    have earlier := kept.lock
    have moved := moves.lock
    have holders := Foundation.countP_set_add moves.place PoolHandle.holdsLock new
    rw [moves.calls, moves.handles]
    omega
  case active =>
    rw [moves.active, moves.calls]
    exact kept.active
  case rejected =>
    rw [moves.rejected, moves.foundEmpty, moves.calls]
    exact kept.rejected
  case borrowed =>
    intro call member unfinished
    rw [moves.calls] at member
    have live := kept.borrowed call member unfinished
    rw [moves.handles,
      List.getElem?_set_ne (apart_of_unfinished moves member unfinished live)]
    exact live
  case strong =>
    have moved := moves.strong
    have earlier := kept.strong
    rw [moves.handles]
    omega
  case ending =>
    intro handle member shutsDown
    rcases mem_of_moves moves member with before | rfl
    · have none := kept.ending handle before shutsDown
      omega
    · rcases moves.ending shutsDown with earlier | none
      · have none := kept.ending old oldMember earlier
        omega
      · exact none
  case intact =>
    intro held
    have wasHeld : 0 < lending.strong := Nat.lt_of_lt_of_le held stays
    obtain ⟨undrained, unclosed⟩ := kept.intact wasHeld
    have notEnding : old.shutsDown = false := by
      cases ends : old.shutsDown with
      | false => rfl
      | true =>
          have none := kept.ending old oldMember ends
          omega
    obtain ⟨newUndrained, sameClosed⟩ := moves.intact notEnding
    refine ⟨?_, sameClosed.trans unclosed⟩
    apply List.flatMap_eq_nil_iff.mpr
    intro handle member
    rcases mem_of_moves moves member with before | rfl
    · exact List.flatMap_eq_nil_iff.mp undrained handle before
    · exact newUndrained
  case emptied =>
    intro handle member holds
    rcases moves.emptied with empty | ⟨same, held⟩
    · exact empty
    · rw [same]
      rcases mem_of_moves moves member with before | rfl
      · exact kept.emptied handle before holds
      · exact kept.emptied old oldMember (held holds)

theorem clones (kept : LendingKept initial lending) (live : .live ∈ lending.handles) :
    LendingKept initial { lending with
      handles := lending.handles ++ [.live], strong := lending.strong + 1 } := by
  have positive := kept.strong_pos live rfl
  constructor
  case connections =>
    intro connection
    have earlier := kept.connections connection
    simpa only [Lending.leased, Lending.drained, List.flatMap_append, List.flatMap_cons,
      List.flatMap_nil, PoolHandle.drained, List.append_nil] using earlier
  case lock =>
    have earlier := kept.lock
    simpa only [List.countP_append, List.countP_singleton, PoolHandle.holdsLock,
      Bool.false_eq_true, if_false, Nat.add_zero] using earlier
  case active => exact kept.active
  case rejected => exact kept.rejected
  case borrowed =>
    intro call member unfinished
    have place := kept.borrowed call member unfinished
    have inRange := (List.getElem?_eq_some_iff.mp place).1
    rw [List.getElem?_append_left inRange]
    exact place
  case strong =>
    have earlier := kept.strong
    simp only [List.countP_append, List.countP_singleton, PoolHandle.sharesPool, if_true]
    omega
  case ending =>
    intro handle member shutsDown
    rcases List.mem_append.mp member with before | last
    · have none := kept.ending handle before shutsDown
      omega
    · rw [List.mem_singleton.mp last] at shutsDown
      cases shutsDown
  case intact =>
    intro _
    obtain ⟨undrained, unclosed⟩ := kept.intact positive
    refine ⟨?_, unclosed⟩
    simpa only [Lending.drained, List.flatMap_append, List.flatMap_cons, List.flatMap_nil,
      PoolHandle.drained, List.append_nil] using undrained
  case emptied =>
    intro handle member holds
    rcases List.mem_append.mp member with before | last
    · exact kept.emptied handle before holds
    · rw [List.mem_singleton.mp last] at holds
      cases holds

theorem step (kept : LendingKept initial lending) (step : LendingStep lending next) :
    LendingKept initial next := by
  cases step with
  | begins place start => exact kept.begins place start
  | call place step => exact kept.call_step place step
  | handle step =>
      have cases := step.moves (fun _ member shares => kept.strong_pos member shares)
        (fun _ member holds => kept.locked_of_handle member holds)
      rcases cases with ⟨live, rfl⟩ | ⟨number, old, new, moves⟩
      · exact kept.clones live
      · exact kept.handle_step moves

theorem reachable (reached : lending.Reachable initial) : LendingKept initial lending := by
  induction reached with
  | opened => exact .opened initial
  | step _ step inductionHypothesis => exact inductionHypothesis.step step

end LendingKept

/-! ## The pool -/

/-- The readers of a pool over distinct connections, in any state of a run. -/
structure ReadPoolConserved (initial : List Nat) (lending : Lending Value) : Prop where
  /-- While a handle has a share, the free and the leased connections are all of them. -/
  conserved : 0 < lending.strong →
    (lending.lent.readers.connections ++ lending.leased).Perm initial
  exclusive : (lending.lent.readers.connections ++ lending.leased).Nodup
  active : lending.lent.locked = false →
    lending.lent.readers.active = lending.leased.length
  rejected : lending.lent.locked = false →
    lending.lent.readers.rejectedCheckouts = lending.lent.foundEmpty
  /-- A shutdown finds no lease. -/
  shutdown : ∀ handle ∈ lending.handles, handle.shutsDown = true → lending.leased = []
  /-- Nothing is closed twice, and when `close_connections` ends, everything is closed. -/
  closed : lending.closed.Nodup ∧ ∀ pass writerResult result,
    .draining pass writerResult [] result ∈ lending.handles → lending.closed.Perm initial

namespace LendingKept

variable {initial : List Nat} {lending : Lending Value}

theorem perm (kept : LendingKept initial lending) :
    (lending.lent.readers.connections ++ lending.leased ++ lending.drained ++
      lending.closed).Perm initial := by
  apply List.perm_iff_count.mpr
  intro connection
  simp only [List.count_append]
  exact kept.connections connection

/-- Outside of the lock the counted calls are those with a lease. -/
theorem active_eq (kept : LendingKept initial lending)
    (free : lending.lent.locked = false) :
    lending.lent.readers.active = lending.leased.length := by
  have unlocked : ∀ call ∈ lending.calls, call.phase.holdsLock = false := by
    intro call member
    apply Bool.eq_false_iff.mpr
    intro holds
    have locked := kept.locked_of_call member holds
    rw [free] at locked
    cases locked
  rw [kept.active, Lending.leased]
  generalize lending.calls = calls at unlocked
  induction calls with
  | nil => rfl
  | cons call rest inductionHypothesis =>
      rw [List.forall_mem_cons] at unlocked
      have own : (if call.phase.isCounted then 1 else 0) =
          call.phase.connection.toList.length := by
        have free := unlocked.1
        cases phase : call.phase <;> first | rfl | (rw [phase] at free; cases free)
      rw [List.countP_cons, List.flatMap_cons, List.length_append,
        inductionHypothesis unlocked.2, ← own, Nat.add_comm]

theorem rejected_eq (kept : LendingKept initial lending)
    (free : lending.lent.locked = false) :
    lending.lent.readers.rejectedCheckouts = lending.lent.foundEmpty := by
  have none : (lending.calls.countP fun call => call.phase.foundNone) = 0 := by
    apply List.countP_eq_zero.mpr
    intro call member found
    have holds : call.phase.holdsLock = true := by
      cases phase : call.phase <;> first | rfl | (rw [phase] at found; cases found)
    have locked := kept.locked_of_call member holds
    rw [free] at locked
    cases locked
  rw [← kept.rejected, none, Nat.add_zero]

/-- Without a share there is no handle that a call could borrow. -/
theorem leased_eq_nil (kept : LendingKept initial lending) (unheld : lending.strong = 0) :
    lending.leased = [] := by
  apply List.flatMap_eq_nil_iff.mpr
  intro call member
  cases ended : call.phase.isOver with
  | false =>
      have held := kept.strong_of_call member ended
      omega
  | true => cases phase : call.phase <;> first | rfl | (rw [phase] at ended; cases ended)

/-- A shutdown that has closed what it drained has closed everything. -/
theorem closed_perm (kept : LendingKept initial lending) {pass : Pass}
    {writerResult result : Result Unit}
    (member : .draining pass writerResult [] result ∈ lending.handles) :
    lending.closed.Perm initial := by
  have empty := kept.emptied _ member rfl
  have unleased := kept.leased_eq_nil (kept.ending _ member rfl)
  have undrained : lending.drained = [] := by
    -- The lock keeps every other shutdown from draining anything.
    obtain ⟨before, after, split⟩ := List.append_of_mem member
    have lock := kept.lock
    rw [split, List.countP_append, List.countP_cons_of_pos rfl] at lock
    have one := lending.lent.locked.toNat_le
    have nobody : (before ++ after).countP PoolHandle.holdsLock = 0 := by
      rw [List.countP_append]
      omega
    have nothing : ∀ handle ∈ before ++ after, handle.drained = [] := by
      intro handle inOthers
      have unlocked := List.countP_eq_zero.mp nobody handle inOthers
      cases handle <;> first | rfl | exact absurd rfl unlocked
    apply List.flatMap_eq_nil_iff.mpr
    intro handle inHandles
    rw [split] at inHandles
    rcases List.mem_append.mp inHandles with inBefore | inRest
    · exact nothing handle (List.mem_append_left _ inBefore)
    · rcases List.mem_cons.mp inRest with rfl | inAfter
      · rfl
      · exact nothing handle (List.mem_append_right _ inAfter)
  have all := kept.perm
  rw [empty, unleased, undrained] at all
  exact all

end LendingKept

/-- In every interleaving of reads, of counts and of the ends of handles the readers of the
pool are conserved. -/
theorem read_pool_conserved (initial : List Nat) (distinct : initial.Nodup)
    (lending : Lending Value) (reached : lending.Reachable initial) :
    ReadPoolConserved initial lending := by
  have kept := LendingKept.reachable reached
  have all := kept.perm
  have apart := all.nodup_iff.mpr distinct
  constructor
  · intro held
    obtain ⟨undrained, unclosed⟩ := kept.intact held
    rw [undrained, unclosed, List.append_nil, List.append_nil] at all
    exact all
  · rw [List.append_assoc] at apart
    exact (List.nodup_append.mp apart).1
  · exact kept.active_eq
  · exact kept.rejected_eq
  · intro handle member shutsDown
    exact kept.leased_eq_nil (kept.ending handle member shutsDown)
  · exact ⟨(List.nodup_append.mp apart).2.1, fun _ _ _ member => kept.closed_perm member⟩

/-- A read panics, and then `close` shuts the pool down. -/
theorem panicked_read_is_returned :
    ∃ lending : Lending Unit, lending.Reachable [4, 7] ∧ lending.closed = [7, 4] ∧
      ReadPoolConserved [4, 7] lending := by
  have start : (Lending.opened [4, 7] : Lending Unit).Reachable [4, 7] := .opened
  have entered := start.step (@LendingStep.begins _ _ 0 _ rfl (.inl rfl))
  have locked := entered.step (.call (@rfl _ ([] ++ _ :: [])) (.locks rfl))
  have popped := locked.step (.call (@rfl _ ([] ++ _ :: [])) (.pops rfl))
  have leased := popped.step (.call (@rfl _ ([] ++ _ :: [])) .leases)
  have dropping := leased.step (.call (@rfl _ ([] ++ _ :: [])) (.drops .panicked))
  have returning := dropping.step (.call (@rfl _ ([] ++ _ :: [])) (.locksAgain rfl))
  have pushed := returning.step (.call (@rfl _ ([] ++ _ :: [])) .pushes)
  have discounted := pushed.step (.call (@rfl _ ([] ++ _ :: [])) .discounts)
  have finished := discounted.step (.call (@rfl _ ([] ++ _ :: [])) .notifies)
  have unborrowed : ∀ call ∈ [({ handle := 0, phase := .finished .panicked } : Call Unit)],
      call.handle = 0 → call.phase.isOver = true := by
    intro call member _
    rw [List.mem_singleton.mp member]
    rfl
  have closing := finished.step (.handle (@HandleStep.closes _ _ 0 rfl unborrowed))
  have joined := closing.step (.handle (@HandleStep.joins _ _ 0 _ (.ok ()) rfl (fun _ => rfl)))
  have drained := joined.step (.handle (@HandleStep.drains _ _ 0 _ _ rfl rfl))
  have closed := drained.step (.handle (@HandleStep.closesOne _ _ 0 _ _ _ _ _ (.ok ()) rfl))
  have allClosed := closed.step
    (.handle (@HandleStep.closesOne _ _ 0 _ _ _ _ _ (.ok ()) rfl))
  exact ⟨_, allClosed, rfl, read_pool_conserved [4, 7] (by decide) _ allClosed⟩

end Csgdb.Pool
