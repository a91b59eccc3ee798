/-
Module: Csgdb.Proofs.SnapshotReads
Purpose: Typed reads of a pool are answered by the store of records as it was at one moment
  between the checkout of their connection and the read; a read transaction stays there.
Trusted boundary: none
Main exports: Snapshots, Snapshots.steps, CollectionSession.pool_reads_are_snapshots
-/
import Csgdb.Collection.PooledReads
import Csgdb.Proofs.PooledRecords
import Csgdb.Proofs.ReadLeases

namespace Csgdb

open Derive Foundation Pool Query Storage

/-! ## Versions that readers hold -/

section Readers

variable {Data Row Value : Type}

/-- A reader holds no version but allowed ones. -/
def Pool.Reader.Holds (allowed : Nat → Prop) (reader : Reader) : Prop :=
  ∀ opened ∈ reader.transaction, ∀ version ∈ opened.snapshot, allowed version

namespace Pool.Reader

variable {allowed : Nat → Prop} {reader : Reader}

theorem holds_of_closed (closed : reader.transaction = none) : reader.Holds allowed := by
  simp [Holds, closed]

/-- A control statement leaves the version of its reader, or none. -/
theorem control_snapshot (command : ReadCommand Data Row) (reader : Reader) :
    ∀ opened ∈ (reader.control command).1.transaction, opened.snapshot = none ∨
      ∃ before ∈ reader.transaction, opened.snapshot = before.snapshot := by
  intro opened isOpen
  cases state : reader.transaction with
  | none =>
      left
      cases command with
      | begin | savepoint =>
          simp only [control, state, Option.mem_some_iff] at isOpen
          exact isOpen ▸ rfl
      | _ => simp [control, state] at isOpen
  | some before =>
      have unchanged : opened ∈ reader.transaction → opened.snapshot = none ∨
          ∃ other ∈ some before, opened.snapshot = other.snapshot := by
        rw [state]
        exact fun same => .inr ⟨opened, same, rfl⟩
      cases command with
      | commit | rollback => simp [control, state, rolledBack] at isOpen
      | savepoint name =>
          simp only [control, state, Option.mem_some_iff] at isOpen
          exact .inr ⟨before, rfl, isOpen ▸ rfl⟩
      | release name =>
          simp only [control, state] at isOpen
          cases found : savepointNames name before.savepoints with
          | none =>
              rw [found] at isOpen
              exact unchanged isOpen
          | some kept =>
              simp only [found] at isOpen
              split at isOpen
              · simp [rolledBack] at isOpen
              · exact .inr ⟨before, rfl, Option.mem_some_iff.mp isOpen ▸ rfl⟩
      | rollbackTo name =>
          simp only [control, state] at isOpen
          cases found : savepointNames name before.savepoints with
          | none =>
              rw [found] at isOpen
              exact unchanged isOpen
          | some kept =>
              rw [found] at isOpen
              exact .inr ⟨before, rfl, Option.mem_some_iff.mp isOpen ▸ rfl⟩
      | _ =>
          simp only [control, state] at isOpen
          exact unchanged (state ▸ isOpen)

/-- What a statement leaves held was held before, or is the latest version. -/
theorem run_holds (holds : reader.Holds allowed) {latest : Nat} (isAllowed : allowed latest)
    (fault : Nat → Option Storage.Fault) (committed : Nat → Data) (steps : Nat)
    (command : ReadCommand Data Row) :
    (reader.run fault committed latest steps command).1.Holds allowed := by
  rcases reader.run_cases fault committed latest steps command with
    ⟨-, -, same⟩ | ⟨-, closed⟩ | ⟨-, -, counted, sameOpen, -, same⟩
  · rcases same with same | same
    · simpa [Holds, same] using holds
    · rw [same]
      intro opened isOpen version held
      obtain ⟨before, wasOpen, rfl⟩ := Option.map_eq_some_iff.mp isOpen
      obtain rfl := Option.some.inj held
      cases taken : before.snapshot with
      | none => exact isAllowed
      | some version => exact holds before wasOpen version taken
  · exact holds_of_closed closed
  · rw [same]
    intro opened isOpen version held
    rcases control_snapshot command counted opened isOpen with none | ⟨before, wasOpen, sameHeld⟩
    · rw [none] at held
      cases held
    · rw [sameOpen] at wasOpen
      exact holds before wasOpen version (sameHeld ▸ held)

/-- What a reader sees is allowed. -/
theorem Holds.sees {latest : Nat} (holds : reader.Holds allowed) (isAllowed : allowed latest) :
    allowed (reader.sees latest) := by
  unfold Reader.sees
  cases state : reader.transaction with
  | none => exact isAllowed
  | some opened =>
      cases taken : opened.snapshot with
      | none => simpa [taken] using isAllowed
      | some version => simpa [taken] using holds opened state version taken

/-- From the first statement of a transaction on, its reader sees one version. -/
theorem holding_sees {opened : OpenReadTransaction} (isOpen : reader.transaction = some opened)
    (latest later : Nat) : (reader.holding latest).sees later = reader.sees latest := by
  simp [holding, sees, isOpen]

end Pool.Reader

/-- An operation of a callback leaves allowed versions with its reader. -/
theorem Pool.Lease.advance_holds {allowed : Nat → Prop} {fault : Nat → Option Storage.Fault}
    {committed : Nat → Data} {latest : Nat} {reader after : Reader}
    {lease next : Lease Data Row Value} (holds : reader.Holds allowed)
    (isAllowed : allowed latest)
    (runs : lease.advance fault committed latest reader = some (after, next)) :
    after.Holds allowed := by
  obtain ⟨number, since, texts, place⟩ := lease
  have ran (steps : Nat) (command : ReadCommand Data Row) :=
    Reader.run_holds holds isAllowed fault committed steps command
  cases place with
  | callback callback =>
      cases callback with
      | ends outcome => cases runs
      | statement steps command resume =>
          obtain ⟨rfl, -⟩ := Prod.mk.inj (Option.some.inj runs)
          exact ran steps command
      | transaction refused body =>
          simp only [Lease.advance] at runs
          split at runs <;>
          · obtain ⟨rfl, -⟩ := Prod.mk.inj (Option.some.inj runs)
            exact ran 1 .begin
  | scope scope =>
      cases scope with
      | statement steps command resume =>
          obtain ⟨rfl, -⟩ := Prod.mk.inj (Option.some.inj runs)
          exact ran steps command
      | commit resume | drop resume | panics =>
          obtain ⟨rfl, -⟩ := Prod.mk.inj (Option.some.inj runs)
          exact Reader.holds_of_closed rfl

end Readers

/-! ## Versions and states -/

section Versions

variable {Data Row Answer Value : Type} {pool : PoolConfiguration Data}
  {fault : Nat → Nat → Option Storage.Fault} {start : System Data Answer}
  {state next : RecordPool Data Row Answer Value}

/-- Every version is the committed database of a state of the pool, in their order, and
readers hold none that is still to come. -/
structure Snapshots (pool : PoolConfiguration Data) (start : System Data Answer)
    (state : RecordPool Data Row Answer Value) : Prop where
  reached : ∀ version ≤ state.readers.latest, Reaches pool start (state.history version)
  grows : ∀ earlier later, earlier ≤ later → later ≤ state.readers.latest →
    Reaches pool (state.history earlier) (state.history later)
  committed : ∀ version ≤ state.readers.latest, state.readers.committed version =
    (state.history version).shared.writer.connection.committed
  kept : LeasesKept state.readers
  held : ∀ number, (state.readers.connection number).Holds (· ≤ state.readers.latest)

/-- A pool that was just opened, with its readers. -/
def RecordPool.opened (start : System Data Answer) (connections : List Nat) :
    RecordPool Data Row Answer Value where
  history := fun _ => start
  readers :=
    { readers := { connections := connections, active := 0, rejectedCheckouts := 0 }
      connection := fun _ => { transaction := none, controls := 0 }
      leases := []
      committed := fun _ => start.shared.writer.connection.committed
      latest := 0 }

/-- The version that the next statement on a lease reads. -/
def RecordPool.seen (state : RecordPool Data Row Answer Value) (lease : Lease Data Row Value) :
    Nat :=
  (state.readers.connection lease.number).sees state.readers.latest

namespace Snapshots

theorem opened {connections : List Nat} (distinct : connections.Nodup) :
    Snapshots pool start
      (RecordPool.opened start connections : RecordPool Data Row Answer Value) where
  reached _ _ := .refl
  grows _ _ _ _ := .refl
  committed _ _ := rfl
  kept := JustOpened.kept ⟨distinct, rfl, fun _ => rfl⟩
  held _ := Reader.holds_of_closed rfl

/-- A move of the pool adds a version. -/
theorem moved {system : System Data Answer} (snapshots : Snapshots pool start state)
    (move : Move pool state.system system) : Snapshots pool start (state.moved system) := by
  have last : (state.moved system).history (state.readers.latest + 1) = system :=
    Function.update_self _ _ _
  have old {version : Nat} (before : version ≤ state.readers.latest) :
      (state.moved system).history version = state.history version :=
    Function.update_of_ne (by omega) _ _
  have further {version : Nat} (before : version ≤ state.readers.latest) :
      Reaches pool (state.history version) system :=
    (snapshots.grows version _ before (Nat.le_refl _)).tail move
  constructor
  case reached =>
    intro version inHistory
    rcases Nat.le_succ_iff.mp inHistory with before | rfl
    · rw [old before]
      exact snapshots.reached version before
    · rw [last]
      exact (snapshots.reached _ (Nat.le_refl _)).tail move
  case grows =>
    intro earlier later inOrder inHistory
    rcases Nat.le_succ_iff.mp inHistory with before | rfl
    · rw [old before, old (inOrder.trans before)]
      exact snapshots.grows earlier later inOrder before
    · rw [last]
      rcases Nat.le_succ_iff.mp inOrder with before | rfl
      · rw [old before]
        exact further before
      · rw [last]
        exact .refl
  case committed =>
    intro version inHistory
    rcases Nat.le_succ_iff.mp inHistory with before | rfl
    · rw [old before, ← snapshots.committed version before]
      exact Function.update_of_ne (by omega) _ _
    · rw [last]
      exact Function.update_self _ _ _
  case kept =>
    have written : LeaseStep (fun _ _ => none) .write state.readers _ :=
      .write system.shared.writer.connection.committed
    exact @LeasesKept.step _ _ _ _ _ _ .write snapshots.kept trivial written
  case held =>
    intro number opened isOpen version holds
    exact Nat.le_succ_of_le (snapshots.held number opened isOpen version holds)

/-- A step of a reader adds none. -/
theorem reads {readers : LeasedReaders Data Row Value} {event : LeaseEvent Data Row Value}
    (snapshots : Snapshots pool start state) (step : LeaseStep fault event state.readers readers)
    (noWrite : event ≠ .write) (settled : event.Settled) :
    Snapshots pool start { state with readers := readers } := by
  have kept := snapshots.kept.step settled step
  cases step with
  | checkout | rejected | finish =>
      exact ⟨snapshots.reached, snapshots.grows, snapshots.committed, kept, snapshots.held⟩
  | @operation _ earlier later lease following reader place runs =>
      refine ⟨snapshots.reached, snapshots.grows, snapshots.committed, kept, fun number => ?_⟩
      change (Function.update state.readers.connection lease.number reader number).Holds _
      by_cases same : number = lease.number
      · subst same
        rw [Function.update_self]
        exact Lease.advance_holds (snapshots.held lease.number) (Nat.le_refl _) runs
      · rw [Function.update_of_ne same]
        exact snapshots.held number
  | write => exact absurd rfl noWrite

theorem step (snapshots : Snapshots pool start state)
    (step : RecordPoolStep pool fault LeaseEvent.Settled state next) :
    Snapshots pool start next := by
  cases step with
  | moves move => exact snapshots.moved move
  | reads step noWrite settled => exact snapshots.reads step noWrite settled

theorem steps (snapshots : Snapshots pool start state)
    (run : Relation.ReflTransGen (RecordPoolStep pool fault LeaseEvent.Settled) state next) :
    Snapshots pool start next := by
  induction run with
  | refl => exact snapshots
  | tail _ step inductionHypothesis => exact inductionHypothesis.step step

end Snapshots

end Versions

/-! ## Replies -/

namespace CollectionSession

variable {R V Answer Kept : Type} [RealCarrier R] [EngineOrder R] [DecidableEq R]
variable [DecidableEq V] (session : CollectionSession R V)

/-- The reply to a typed read is the one of the store. -/
def Replies (keyOf : Record session.crud.derived V → V)
    (store : Store V (Record session.crud.derived V))
    (read : CollectionRead session.crud.derived R V) (reply : ReadReply V) : Prop :=
  match session.request read.command with
  | .error failure => reply = .refused failure
  | .ok call => ∃ answer, StoreStep (session.rules keyOf) store call answer store ∧
      reply = answer.map Record.values

variable {session} {host : MacroHost} {keyOf : Record session.crud.derived V → V}

omit [DecidableEq R] in
/-- A read leaves the store as it is. -/
theorem step_of_read {store next : Store V (Record session.crud.derived V)}
    {read : CollectionRead session.crud.derived R V}
    {call : StoreRequest V (Record session.crud.derived V)}
    {answer : StoreAnswer (Record session.crud.derived V) Error}
    (called : session.request read.command = .ok call)
    (step : StoreStep (session.rules keyOf) store call answer next) : next = store := by
  cases read with
  | get key | query draft limit | «exists» draft =>
      obtain ⟨-, -, rfl⟩ := map_eq_ok_iff.mp called
      cases step
      rfl

variable [Sql.ExactEquality (Value R)]

/-- What a typed read of a table returns. -/
theorem execute_replies (formed : session.crud.derived.WellFormed host)
    (roundTrip : RoundTrips session.crud.codec)
    (presence : KeepsPresence session.crud.codec) (documented : session.Documented)
    (reads : ∀ record : Record session.crud.derived V, record.key = some (keyOf record))
    {table : session.crud.Content} {store : Store V (Record session.crud.derived V)}
    (represents : session.Represents keyOf table store)
    (read : CollectionRead session.crud.derived R V) :
    session.Replies keyOf store read (session.execute table read.command).1 := by
  unfold Replies
  cases called : session.request read.command with
  | error failure =>
      rw [execute_failed called]
  | ok call =>
      obtain ⟨answer, next, step, answered, -⟩ :=
        execute_step formed roundTrip presence documented reads represents called
      obtain rfl := step_of_read called step
      exact ⟨answer, step, answered⟩

section Leases

variable (fault : Nat → Option Storage.Fault) (committed : Nat → session.crud.Content)
  (latest : Nat) (reader : Reader) {lease : Lease session.crud.Content (ReadReply V) Kept}
  {read : CollectionRead session.crud.derived R V}

omit [DecidableEq R] [DecidableEq V] [Sql.ExactEquality (Value R)] in
/-- A read that fails in front of its statement asks nothing of the store. -/
theorem request_of_prepared_error {failure : Error}
    (failed : session.prepared read = .error failure) :
    session.request read.command = .error failure := by
  cases read with
  | get key =>
      cases encoded : (session.crud.codec session.crud.derived.primaryKey).toValue key with
      | ok cell => simp [prepared, encoded, Except.map] at failed
      | error other =>
          simpa [prepared, CollectionRead.command, request, encoded, Except.map] using failed
  | query draft limit =>
      cases compiled : draft.take session.crud.derived.schema limit with
      | ok query => simp [prepared, compiled, Except.map] at failed
      | error other =>
          simpa [prepared, CollectionRead.command, request, compiled, Except.map] using failed
  | «exists» draft =>
      cases compiled : draft.exists session.crud.derived.schema with
      | ok query => simp [prepared, compiled, Except.map] at failed
      | error other =>
          simpa [prepared, CollectionRead.command, request, compiled, Except.map] using failed

omit [DecidableEq V] [Sql.ExactEquality (Value R)] in
/-- A typed read of a callback is answered without a statement, or by its one statement. -/
theorem advance_callback
    {next : ReadReply V → ReadCallback session.crud.Content (ReadReply V) Kept}
    (isRead : lease.place = .callback (ReadConnection.read session read next)) :
    lease.place = .callback
        (next (session.execute (committed (reader.sees latest)) read.command).1) ∨
      ∃ following, lease.advance fault committed latest reader =
          some (reader.holding latest, following) ∧
        following.place = .callback
          (next (session.execute (committed (reader.sees latest)) read.command).1) := by
  obtain ⟨number, since, texts, place⟩ := lease
  obtain rfl : place = _ := isRead
  unfold ReadConnection.read
  cases prepared : session.prepared read with
  | error failure =>
      left
      have refused : session.execute (committed (reader.sees latest)) read.command = _ :=
        execute_failed (request_of_prepared_error prepared)
      rw [refused]
  | ok => exact .inr ⟨_, rfl, rfl⟩

omit [DecidableEq V] [Sql.ExactEquality (Value R)] in
/-- A typed read of a read transaction likewise. -/
theorem advance_scope
    {next : ReadReply V → ReadScope session.crud.Content (ReadReply V) Kept}
    (isRead : lease.place = .scope (ReadTransaction.read session read next)) :
    lease.place = .scope
        (next (session.execute (committed (reader.sees latest)) read.command).1) ∨
      ∃ following, lease.advance fault committed latest reader =
          some (reader.holding latest, following) ∧
        following.place = .scope
          (next (session.execute (committed (reader.sees latest)) read.command).1) := by
  obtain ⟨number, since, texts, place⟩ := lease
  obtain rfl : place = _ := isRead
  unfold ReadTransaction.read
  cases prepared : session.prepared read with
  | error failure =>
      left
      have refused : session.execute (committed (reader.sees latest)) read.command = _ :=
        execute_failed (request_of_prepared_error prepared)
      rw [refused]
  | ok => exact .inr ⟨_, rfl, rfl⟩

end Leases

/-! ## Runs -/

/-- The reply that a typed read on a lease gets, at once or by its next statement. -/
structure SnapshotReads (keyOf : Record session.crud.derived V → V)
    (stores : Nat → Store V (Record session.crud.derived V))
    (fault : Nat → Option Storage.Fault)
    (state : RecordPool session.crud.Content (ReadReply V) Answer Kept)
    (lease : Lease session.crud.Content (ReadReply V) Kept) : Prop where
  /-- The version was committed when the connection was checked out, or later. -/
  since_le : lease.since ≤ state.seen lease
  le_latest : state.seen lease ≤ state.readers.latest
  /-- Every write that had returned `Ok` when the connection was checked out is in it. -/
  acknowledged : ∀ channel response,
    (channel, .ok response) ∈ (state.history lease.since).shared.returned →
      ∃ job, (job, .ok response) ∈ (state.history (state.seen lease)).shared.handled ∧
        job.response = channel
  callback : ∀ read next, lease.place = .callback (ReadConnection.read session read next) →
    ∃ reply, session.Replies keyOf (stores (state.seen lease)) read reply ∧
      (lease.place = .callback (next reply) ∨
        ∃ after following, lease.advance fault state.readers.committed state.readers.latest
            (state.readers.connection lease.number) = some (after, following) ∧
          following.place = .callback (next reply))
  /-- In a transaction, all further reads stay at the version. -/
  transaction : ∀ read next, lease.place = .scope (ReadTransaction.read session read next) →
    ∃ reply, session.Replies keyOf (stores (state.seen lease)) read reply ∧
      (lease.place = .scope (next reply) ∨
        ∃ after following, lease.advance fault state.readers.committed state.readers.latest
            (state.readers.connection lease.number) = some (after, following) ∧
          following.place = .scope (next reply) ∧
          ((state.readers.connection lease.number).transaction.isSome = true →
            ∀ later, after.sees later = state.seen lease))

/-- The readers of a pool whose clients store typed records see the store of records.  In
every interleaving, each typed read is answered by the store as the writes up to one version
have left it, a version no older than the checkout of the connection, so that it contains
every write that had returned by then; in a read transaction, all reads are answered at the
version of its first one. -/
theorem pool_reads_are_snapshots (host : MacroHost) (input : DeriveInput)
    (session : CollectionSession R V)
    (expanded : expandCollection host input = .ok session.crud.derived)
    (roundTrip : RoundTrips session.crud.codec)
    (presence : KeepsPresence session.crud.codec) (documented : session.Documented)
    (pool : PoolConfiguration session.crud.Content)
    (noDeferred : ∀ table, pool.engine.pending table = false)
    (writer : Writer session.crud.Content) (idle : Answer)
    (clients : List (Thread session.crud.Content Answer))
    (fresh : ∀ thread ∈ clients, thread.IsClient)
    (autocommit : writer.connection.transaction = none)
    (connections : List Nat) (distinct : connections.Nodup)
    (fault : Nat → Nat → Option Storage.Fault)
    (state : RecordPool session.crud.Content (ReadReply V) Answer Kept)
    (run : Relation.ReflTransGen (RecordPoolStep pool fault LeaseEvent.Settled)
      (.opened (System.initial pool writer clients idle) connections) state)
    (typed : ∀ job ∈ state.system.shared.admitted, ∃ writes, session.Carries job writes) :
    ∃ keyOf, (∀ record : Record session.crud.derived V, record.key = some (keyOf record)) ∧
      ∀ store, session.Represents keyOf writer.connection.committed store →
        ∃ stores : Nat → Store V (Record session.crud.derived V),
          (∀ version ≤ state.readers.latest, ∃ writes counts,
            session.Answered (state.history version).shared.handled writes counts ∧
              StoreRun (session.rules keyOf) store
                (writes.map fun write => session.request write.command)
                (counts.map .changed) (stores version)) ∧
          (∀ earlier later, earlier ≤ later → later ≤ state.readers.latest →
            (state.history earlier).shared.handled <+: (state.history later).shared.handled) ∧
          ∀ lease ∈ state.readers.leases,
            SnapshotReads keyOf stores (fault lease.number) state lease := by
  have formed := expandCollection_wellFormed expanded
  choose keyOf reads using fun record : Record session.crud.derived V =>
    Crud.exists_key formed record
  have snapshots := (@Snapshots.opened _ _ _ _ pool _ _ distinct).steps run
  have stored (version : Nat) (inHistory : version ≤ state.readers.latest) :=
    stored_so_far formed roundTrip presence documented reads noDeferred fresh autocommit
      (snapshots.reached version inHistory) fun job member => typed job
        ((Grows.reaches (snapshots.grows version _ inHistory (Nat.le_refl _))).admitted.subset
          member)
  refine ⟨keyOf, reads, fun store represents => ?_⟩
  have each (version : Nat) : ∃ last, version ≤ state.readers.latest →
      (∃ writes counts, session.Answered (state.history version).shared.handled writes counts ∧
        StoreRun (session.rules keyOf) store
          (writes.map fun write => session.request write.command) (counts.map .changed) last) ∧
      session.Represents keyOf (state.readers.committed version) last := by
    by_cases inHistory : version ≤ state.readers.latest
    · obtain ⟨writes, counts, last, answered, runs, stands⟩ :=
        (stored version inHistory).2 store represents
      rw [← snapshots.committed version inHistory] at stands
      exact ⟨last, fun _ => ⟨⟨writes, counts, answered, runs⟩, stands⟩⟩
    · exact ⟨store, fun holds => absurd holds inHistory⟩
  choose stores holds using each
  refine ⟨stores, fun version inHistory => (holds version inHistory).1, ?_, ?_⟩
  · exact fun earlier later inOrder inHistory =>
      (Grows.reaches (snapshots.grows earlier later inOrder inHistory)).handled
  · intro lease leased
    have since := (snapshots.kept.leases lease leased).since_le_sees
    have latest : state.seen lease ≤ state.readers.latest :=
      (snapshots.held lease.number).sees (Nat.le_refl _)
    have replies (read : CollectionRead session.crud.derived R V) :=
      execute_replies formed roundTrip presence documented reads (holds _ latest).2 read
    constructor
    case since_le => exact since
    case le_latest => exact latest
    case acknowledged =>
      intro channel response returned
      have grown := Grows.reaches (snapshots.grows lease.since _ since latest)
      exact returned_handled (stored _ latest).1 (grown.returned.subset returned)
    case callback =>
      intro read next isRead
      refine ⟨_, replies read, ?_⟩
      rcases advance_callback (fault lease.number) state.readers.committed state.readers.latest
        (state.readers.connection lease.number) isRead with answered | ⟨following, advanced, place⟩
      · exact .inl answered
      · exact .inr ⟨_, following, advanced, place⟩
    case transaction =>
      intro read next isRead
      refine ⟨_, replies read, ?_⟩
      rcases advance_scope (fault lease.number) state.readers.committed state.readers.latest
        (state.readers.connection lease.number) isRead with answered | ⟨following, advanced, place⟩
      · exact .inl answered
      · refine .inr ⟨_, following, advanced, place, fun isOpen later => ?_⟩
        obtain ⟨opened, isOpened⟩ := Option.isSome_iff_exists.mp isOpen
        exact Reader.holding_sees isOpened _ later

/-! ## A reader of memories -/

/-- Every run of the pool is one next to resting readers. -/
theorem run_beside_readers {Data Row : Type} {pool : PoolConfiguration Data}
    {fault : Nat → Nat → Option Storage.Fault} {start system : System Data Answer}
    {connections : List Nat} (run : Reaches pool start system) :
    ∃ state : RecordPool Data Row Answer Kept,
      Relation.ReflTransGen (RecordPoolStep pool fault LeaseEvent.Settled)
        (.opened start connections) state ∧ state.system = system ∧
      state.readers.readers = ⟨connections, 0, 0⟩ ∧ state.readers.leases = [] := by
  induction run with
  | refl => exact ⟨_, .refl, rfl, rfl, rfl⟩
  | tail earlier move inductionHypothesis =>
      obtain ⟨state, steps, rfl, readers, leases⟩ := inductionHypothesis
      exact ⟨_, steps.tail (.moves move), Function.update_self _ _ _, readers, leases⟩

/-- A memory is stored, and then a callback asks for it. -/
theorem scored_pool_reads_snapshot :
    ∃ derived, expandCollection Crud.plainHost scoredInput = .ok derived ∧
      ∃ record : Record derived (Option Int64), record.values = [some 5, some 1] ∧
      ∃ state : RecordPool (scoredSession derived).crud.Content (ReadReply (Option Int64))
          Unit Unit,
        state.readers.leases.map Lease.number = [0] ∧
        (∃ job, state.system.shared.admitted = [job] ∧
          state.system.shared.handled = [(job, .ok (.changes [1]))]) ∧
        ∃ keyOf stores, ∀ lease ∈ state.readers.leases,
          @SnapshotReads _ _ _ _ _ _ _ _ (scoredSession derived) keyOf stores (fun _ => none)
            state lease := by
  obtain ⟨derived, expanded, two⟩ : ∃ derived,
      expandCollection Crud.plainHost scoredInput = .ok derived ∧ derived.fields.length = 2 :=
    ⟨_, rfl, rfl⟩
  obtain ⟨system, run, job, admitted, handled, carries⟩ := scored_commits two expanded
  obtain ⟨state, steps, rfl, readers, leases⟩ := @run_beside_readers _ Unit _
    (ReadReply (Option Int64)) _ (fun _ _ => none) _ _ [0] run
  let asking : ReadCallback (scoredSession derived).crud.Content (ReadReply (Option Int64))
      Unit :=
    ReadConnection.read (scoredSession derived) (.get (some 1)) fun _ =>
      .ends (.returned (.ok ()))
  have free : state.readers.readers.checkout = some (0, ⟨[], 1, 0⟩) := by
    rw [readers]
    rfl
  obtain ⟨last, asked, sameSystem, lent⟩ :
      ∃ last : RecordPool (scoredSession derived).crud.Content (ReadReply (Option Int64)) Unit
        Unit,
      Relation.ReflTransGen (RecordPoolStep (recordPool _) (fun _ _ => none) LeaseEvent.Settled)
        (.opened _ [0]) last ∧ last.system = state.system ∧
      last.readers.leases.map Lease.number = [0] :=
    ⟨_, steps.tail (.reads (.checkout asking free) nofun trivial), rfl, by simp [leases]⟩
  obtain ⟨keyOf, -, stands⟩ := pool_reads_are_snapshots Crud.plainHost scoredInput
    (scoredSession derived) expanded scoredCodec_roundTrips scoredCodec_keepsPresence
    ⟨fun _ _ => rfl, rfl, fun _ => rfl⟩ (recordPool _) (fun _ => rfl)
    (emptyWriter (scoredSession derived)) () _ (by simpa using ⟨_, _, rfl⟩) rfl [0] (by simp)
    (fun _ _ => none) last asked
    (by
      intro other member
      rw [sameSystem, admitted, List.mem_singleton] at member
      exact member ▸ carries)
  obtain ⟨stores, -, -, reads⟩ := stands (fun _ => none) (empty_represents _ keyOf)
  refine ⟨derived, expanded, ⟨[some 5, some 1], two.symm⟩, rfl, last, lent, ?_, keyOf, stores,
    reads⟩
  rw [sameSystem]
  exact ⟨job, admitted, handled⟩

end CollectionSession

end Csgdb
