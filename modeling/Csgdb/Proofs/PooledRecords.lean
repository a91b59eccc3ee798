/-
Module: Csgdb.Proofs.PooledRecords
Purpose: A pool that its clients store typed records in is one store of records: in every
  interleaving the committed table is what the store becomes of the writes that were
  answered `Ok`, in the order of their admission, and they are answered as the store
  answers them.
Trusted boundary: none
Main exports: CollectionSession.Carries, CollectionSession.Answered, effect_run,
  Applied.storeRun, pool_refines_record_store
-/
import Csgdb.Collection.PooledWrites
import Csgdb.Proofs.ExactAnswers
import Csgdb.Proofs.StoreRefinement

namespace Csgdb

open Derive Foundation Pool Query Storage

namespace CollectionSession

variable {R V Answer : Type} [EngineOrder R] [DecidableEq R]
variable (session : CollectionSession R V)

/-! ## Jobs and writes -/

/-- The writes that a job of the pool carries out. -/
inductive Carries : PoolJob session.crud.Content Answer →
    List (CollectionWrite session.crud.derived V) → Prop
  | statements {writes : List (CollectionWrite session.crud.derived V)}
      {statements : List (Command session.crud.Content)} (channel : Nat)
      (each : List.Forall₂ (fun write statement => session.statement write = .ok statement)
        writes statements) : Carries (.groupable ⟨statements, channel⟩) writes
  | maintenance (operation : Maintenance) (channel : Nat) :
      Carries (.exclusive (.maintenance operation) channel) []

/-- The writes of the jobs that were answered `Ok`, and how many rows each of them was said
to have changed. -/
inductive Answered : List (PoolJob session.crud.Content Answer × Result (Response Answer)) →
    List (CollectionWrite session.crud.derived V) → List Nat → Prop
  | nil : Answered [] [] []
  | statements {job : PoolJob session.crud.Content Answer}
      {rest : List (PoolJob session.crud.Content Answer × Result (Response Answer))}
      {writes later : List (CollectionWrite session.crud.derived V)} {counts more : List Nat}
      (carries : session.Carries job writes) (others : Answered rest later more) :
      Answered ((job, .ok (.changes counts)) :: rest) (writes ++ later) (counts ++ more)
  | maintenance {job : PoolJob session.crud.Content Answer} {answer : MaintenanceAnswer}
      {rest : List (PoolJob session.crud.Content Answer × Result (Response Answer))}
      {writes : List (CollectionWrite session.crud.derived V)} {counts : List Nat}
      (others : Answered rest writes counts) :
      Answered ((job, .ok (.maintenance answer)) :: rest) writes counts
  | refused {job : PoolJob session.crud.Content Answer} {error : Error}
      {rest : List (PoolJob session.crud.Content Answer × Result (Response Answer))}
      {writes : List (CollectionWrite session.crud.derived V)} {counts : List Nat}
      (others : Answered rest writes counts) :
      Answered ((job, .error error) :: rest) writes counts

variable {session}

theorem effect_done {sql : String} {values : List (Value R)} {table next : session.crud.Content}
    {changes : Nat} (done : session.effect sql values table = .done changes next) :
    session.crud.executeRecord sql values table = .ok (changes, next) := by
  unfold effect at done
  split at done
  case h_1 ran =>
    obtain ⟨rfl, rfl⟩ := Behaviour.done.inj done
    exact ran
  case h_2 => cases done

variable [RealCarrier R]

/-- A statement that was done is a command that changed as many rows. -/
theorem statement_done {write : CollectionWrite session.crud.derived V}
    {command : Command session.crud.Content} (stated : session.statement write = .ok command) :
    ∃ behaviour, command = .ordinary behaviour ∧
      (∃ call, session.request write.command = .ok call) ∧
      ∀ table changes next, behaviour table = .done changes next →
        session.execute table write.command = (.changed changes, next) := by
  cases write with
  | insert record =>
      obtain ⟨values, encoded, rfl⟩ := map_eq_ok_iff.mp stated
      refine ⟨_, rfl, ⟨_, map_eq_ok_iff.mpr ⟨values, encoded, rfl⟩⟩, ?_⟩
      intro table changes next done
      simp only [CollectionWrite.command, execute, Crud.insert, encoded, ok_bind,
        effect_done done, settle]
  | update record =>
      obtain ⟨values, encoded, rfl⟩ := map_eq_ok_iff.mp stated
      obtain ⟨cells, ofRecord, -⟩ := bind_eq_ok_iff.mp encoded
      refine ⟨_, rfl, ⟨_, map_eq_ok_iff.mpr ⟨cells, ofRecord, rfl⟩⟩, ?_⟩
      intro table changes next done
      simp only [CollectionWrite.command, execute, Crud.update, encoded, ok_bind,
        effect_done done, settle]
  | delete key =>
      obtain ⟨cell, encoded, rfl⟩ := map_eq_ok_iff.mp stated
      refine ⟨_, rfl, ⟨_, map_eq_ok_iff.mpr ⟨cell, encoded, rfl⟩⟩, ?_⟩
      intro table changes next done
      simp only [CollectionWrite.command, execute, Crud.delete, encoded, ok_bind,
        effect_done done, settle]

/-! ## Jobs on a store -/

/-- A job that was answered `Ok` or an error, and never is a callback. -/
theorem Carries.isPlain {job : PoolJob session.crud.Content Answer}
    {writes : List (CollectionWrite session.crud.derived V)}
    (carries : session.Carries job writes) : IsPlain job := by
  cases carries with
  | statements channel each =>
      intro command member
      induction each with
      | nil => cases member
      | cons stated others inductionHypothesis =>
          rcases List.mem_cons.mp member with rfl | later
          · obtain ⟨behaviour, rfl, -⟩ := statement_done stated
            rfl
          · exact inductionHypothesis later
  | maintenance => trivial

variable [DecidableEq V] [Sql.ExactEquality (Value R)]
variable {host : MacroHost} {keyOf : Record session.crud.derived V → V}

/-- What the statements of a job did to the table, its writes do to the store. -/
theorem effect_run (formed : session.crud.derived.WellFormed host)
    (roundTrip : RoundTrips session.crud.codec)
    (presence : KeepsPresence session.crud.codec) (documented : session.Documented)
    (reads : ∀ record : Record session.crud.derived V, record.key = some (keyOf record))
    {writes : List (CollectionWrite session.crud.derived V)}
    {statements : List (Command session.crud.Content)}
    (each : List.Forall₂ (fun write statement => session.statement write = .ok statement)
      writes statements) {table last : session.crud.Content} {counts : List Nat}
    (effect : jobEffect statements table = .finished counts last)
    {store : Store V (Record session.crud.derived V)}
    (represents : session.Represents keyOf table store) :
    ∃ final, StoreRun (session.rules keyOf) store
        (writes.map fun write => session.request write.command)
        (counts.map .changed) final ∧ session.Represents keyOf last final := by
  induction each generalizing table store counts with
  | nil =>
      obtain ⟨rfl, rfl⟩ := JobEffect.finished.inj effect
      exact ⟨store, .nil store, represents⟩
  | cons stated others inductionHypothesis =>
      obtain ⟨behaviour, rfl, ⟨call, called⟩, executes⟩ := statement_done stated
      unfold jobEffect at effect
      cases done : behaviour table with
      | done changes next =>
          rw [done] at effect
          dsimp only at effect
          generalize rest : jobEffect _ next = ended at effect
          cases ended with
          | finished more final =>
              obtain ⟨rfl, rfl⟩ := JobEffect.finished.inj effect
              obtain ⟨answer, middle, step, answered, stands⟩ :=
                execute_step formed roundTrip presence documented reads represents called
              rw [executes table changes next done] at answered stands
              obtain rfl : answer = .changed changes := by
                cases answer <;> cases answered
                rfl
              obtain ⟨last, run, represented⟩ := inductionHypothesis rest stands
              rw [List.map_cons, called]
              exact ⟨last, .step step run, represented⟩
          | failed error => cases effect
          | aborted error => cases effect
      | failed error left => rw [done] at effect; cases effect
      | aborted error => rw [done] at effect; cases effect

/-- What the answers of the pool say was applied to the table, the store was asked for. -/
theorem Applied.storeRun (formed : session.crud.derived.WellFormed host)
    (roundTrip : RoundTrips session.crud.codec)
    (presence : KeepsPresence session.crud.codec) (documented : session.Documented)
    (reads : ∀ record : Record session.crud.derived V, record.key = some (keyOf record))
    {handled : List (PoolJob session.crud.Content Answer × Result (Response Answer))}
    {table last : session.crud.Content} (applied : Applied handled table last)
    (typed : ∀ entry ∈ handled, ∃ writes, session.Carries entry.1 writes)
    {store : Store V (Record session.crud.derived V)}
    (represents : session.Represents keyOf table store) :
    ∃ writes counts final, session.Answered handled writes counts ∧
      StoreRun (session.rules keyOf) store
        (writes.map fun write => session.request write.command)
        (counts.map .changed) final ∧
      session.Represents keyOf last final := by
  induction applied generalizing store with
  | nil => exact ⟨[], [], store, .nil, .nil store, represents⟩
  | @statements job changes rest before middle after effect others inductionHypothesis =>
      rw [List.forall_mem_cons] at typed
      obtain ⟨⟨writes, carries⟩, later⟩ := typed
      cases carries with
      | statements channel each =>
          obtain ⟨between, run, stands⟩ := effect_run formed roundTrip presence documented reads
            each effect represents
          obtain ⟨more, counts, final, answered, further, represented⟩ :=
            inductionHypothesis later stands
          refine ⟨writes ++ more, changes ++ counts, final,
            .statements (.statements channel each) answered, ?_, represented⟩
          rw [List.map_append, List.map_append]
          exact run.append further
  | maintenance operation channel answer others inductionHypothesis =>
      rw [List.forall_mem_cons] at typed
      obtain ⟨writes, counts, final, answered, run, represented⟩ :=
        inductionHypothesis typed.2 represents
      exact ⟨writes, counts, final, .maintenance answered, run, represented⟩
  | refused job error others inductionHypothesis =>
      rw [List.forall_mem_cons] at typed
      obtain ⟨writes, counts, final, answered, run, represented⟩ :=
        inductionHypothesis typed.2 represents
      exact ⟨writes, counts, final, .refused answered, run, represented⟩

/-! ## Runs of a pool -/

/-- In every state of a run that admits only typed jobs, the committed table stands for the
store after the writes of the jobs that were answered `Ok`. -/
theorem stored_so_far (formed : session.crud.derived.WellFormed host)
    (roundTrip : RoundTrips session.crud.codec)
    (presence : KeepsPresence session.crud.codec) (documented : session.Documented)
    (reads : ∀ record : Record session.crud.derived V, record.key = some (keyOf record))
    {pool : PoolConfiguration session.crud.Content}
    (noDeferred : ∀ table, pool.engine.pending table = false)
    {writer : Writer session.crud.Content} {idle : Answer}
    {clients : List (Thread session.crud.Content Answer)}
    (fresh : ∀ thread ∈ clients, thread.IsClient)
    (autocommit : writer.connection.transaction = none)
    {state : System session.crud.Content Answer}
    (run : Reaches pool (System.initial pool writer clients idle) state)
    (typed : ∀ job ∈ state.shared.admitted, ∃ writes, session.Carries job writes) :
    Recorded state ∧ ∀ store, session.Represents keyOf writer.connection.committed store →
      ∃ writes counts last, session.Answered state.shared.handled writes counts ∧
        StoreRun (session.rules keyOf) store
          (writes.map fun write => session.request write.command)
          (counts.map .changed) last ∧
        session.Represents keyOf state.shared.writer.connection.committed last := by
  have ordered : Ordered pool _ (System.initial pool writer clients idle) :=
    Ordered.initial fresh
  have startRecorded : Recorded (System.initial pool writer clients idle) :=
    (@Recorded.initial _ _ pool) fresh
  obtain ⟨identities, sameIdentities, areClients⟩ :=
    (@initial_identities _ _ pool writer _ idle) fresh
  rw [sameIdentities] at ordered
  have recorded := startRecorded.reaches ordered run
  have start : AppliedSoFar writer.connection.committed
      (System.initial pool writer clients idle).shared := ⟨rfl, autocommit, .nil _⟩
  have soFar := start.reaches noDeferred ordered startRecorded areClients run
    fun job member => (typed job member).elim fun writes carries => carries.isPlain
  refine ⟨recorded, fun store represents => ?_⟩
  exact Applied.storeRun formed roundTrip presence documented reads soFar.applied
    (fun entry handled => typed entry.1 (recorded.handled_admitted handled)) represents

/-- A write that returned `Ok` to its caller was handled. -/
theorem returned_handled {Data Value : Type} {state : System Data Value}
    (recorded : Recorded state) {channel : Nat} {response : Response Value}
    (returned : (channel, .ok response) ∈ state.shared.returned) :
    ∃ job, (job, .ok response) ∈ state.shared.handled ∧ job.response = channel := by
  rcases recorded.results _ returned with sent | ⟨error, failed, -⟩
  · exact recorded.sent_handled sent
  · cases failed

/-- A pool whose clients only store and remove typed records refines a store of records.
In every state of every interleaving, the committed table stands for the store after the
writes of the jobs that were answered `Ok`, in the order of their admission, with the counts
that they were answered, each accepted by the store; a job that was answered with an error
left nothing, and a write that returned `Ok` to its caller is among those writes. -/
theorem pool_refines_record_store (host : MacroHost) (input : DeriveInput)
    (session : CollectionSession R V)
    (expanded : expandCollection host input = .ok session.crud.derived)
    (roundTrip : RoundTrips session.crud.codec)
    (presence : KeepsPresence session.crud.codec) (documented : session.Documented)
    (pool : PoolConfiguration session.crud.Content)
    (noDeferred : ∀ table, pool.engine.pending table = false)
    (writer : Writer session.crud.Content) (idle : Answer)
    (clients : List (Thread session.crud.Content Answer))
    (fresh : ∀ thread ∈ clients, thread.IsClient)
    (autocommit : writer.connection.transaction = none)
    (state : System session.crud.Content Answer)
    (run : Reaches pool (System.initial pool writer clients idle) state)
    (typed : ∀ job ∈ state.shared.admitted, ∃ writes, session.Carries job writes) :
    ∃ keyOf, (∀ record : Record session.crud.derived V, record.key = some (keyOf record)) ∧
      (∀ store, session.Represents keyOf writer.connection.committed store →
        ∃ writes counts last, session.Answered state.shared.handled writes counts ∧
          StoreRun (session.rules keyOf) store
            (writes.map fun write => session.request write.command)
            (counts.map .changed) last ∧
          session.Represents keyOf state.shared.writer.connection.committed last) ∧
      state.shared.handled.map Prod.fst ++ state.shared.phase.inFlight ++
        state.shared.queue.jobs = state.shared.admitted ∧
      ∀ channel response, (channel, .ok response) ∈ state.shared.returned →
        ∃ job, (job, .ok response) ∈ state.shared.handled ∧ job.response = channel := by
  have formed := expandCollection_wellFormed expanded
  choose keyOf reads using fun record : Record session.crud.derived V =>
    Crud.exists_key formed record
  obtain ⟨recorded, stored⟩ := stored_so_far formed roundTrip presence documented reads
    noDeferred fresh autocommit run typed
  exact ⟨keyOf, reads, stored, recorded.jobs, fun _ _ => returned_handled recorded⟩

/-! ## A pool of memories -/

def recordPool (Data : Type) : PoolConfiguration Data where
  engine := { pending := fun _ => false, fault := fun _ => none }
  identity := 7
  readConnections := 1
  writeQueueCapacity := 1
  maxJobs := 1
  readConnections_pos := Nat.one_pos
  writeQueueCapacity_pos := Nat.one_pos
  maxJobs_pos := Nat.one_pos

section Memories

variable (session : CollectionSession R V)

/-- The writer of a pool over an empty table. -/
def emptyWriter : Writer session.crud.Content :=
  .new { enabled := false, checkpointIntervalCommits := 1, walSoftLimitFrames := 0 }
    { committed := ⟨[], List.nodup_nil, List.forall_mem_nil _⟩, transaction := none
      changes := 0, controls := 0 }

/-- A client that submits one write. -/
def submittingClient (write : CollectionWrite session.crud.derived V) :
    Thread session.crud.Content Unit :=
  .start false [] (session.submit write fun _ => .ends (.returned (.ok ())))

/-- A step of the only client. -/
theorem client_moves {Data Value : Type} {pool : PoolConfiguration Data}
    {shared shared' : Shared Data Value} {worker thread thread' : Thread Data Value}
    {notice : Notice} {next : System Data Value}
    (step : ThreadStep pool shared thread shared' thread' notice)
    (notified : Notified notice ⟨shared', [worker, thread']⟩ next) :
    Move pool ⟨shared, [worker, thread]⟩ next :=
  .step (@Step.thread _ _ _ _ _ [worker] [] _ _ _ _ step notified)

omit [RealCarrier R] [DecidableEq V] [Sql.ExactEquality (Value R)] in
/-- The first record of an empty table is stored. -/
theorem effect_first {host : MacroHost} (formed : session.crud.derived.WellFormed host)
    (presence : KeepsPresence session.crud.codec) (documented : session.Documented)
    {record : Record session.crud.derived V} {cells : List (Value R)}
    (encoded : record.cells session.crud.codec = .ok cells) :
    ∃ next, session.effect session.crud.derived.insertSql cells
      (emptyWriter session).connection.committed = .done 1 next := by
  have present := key_present formed presence ⟨cells, encoded⟩
  have admitted : session.crud.accepts [record.row session.crud.codec] = true := by
    rw [documented.constraints, declaredConstraints, List.all_cons, List.all_nil,
      keepsNotNull_row formed presence ⟨cells, encoded⟩]
    simp
  have inserted := Crud.insert_eq documented.binds formed ⟨cells, encoded⟩
    (emptyWriter session).connection.committed
  have stored := @Crud.replaced_admitted _ _ _ _ session.crud 1
    [record.row session.crud.codec] (List.nodup_singleton _)
    (List.forall_mem_singleton.mpr present) admitted
  rw [Crud.insert, encoded, ok_bind] at inserted
  unfold effect
  rw [inserted.trans stored]
  exact ⟨_, rfl⟩

/-- A group of one statement is answered with its changes. -/
theorem single_commit {Data : Type} {behaviour : Data → Behaviour Data}
    {connection : Connection Data} (autocommit : connection.transaction = none)
    {changes : Nat} {next : Data}
    (done : behaviour connection.committed = .done changes next) :
    (groupTransaction (recordPool Data).engine [⟨[.ordinary behaviour], 0⟩]
      connection).2.responses = [(0, .ok [changes])] := by
  obtain ⟨committed, transaction, count, controls⟩ := connection
  obtain rfl := autocommit
  dsimp only at done
  simp [groupTransaction, beginTransaction, executeBatch,
    Storage.execute, recordPool, executeControl, runGroupJobs, executeGroupJob,
    executeGroupStatements, executeOrdinary, Connection.visible, done, releaseOpen,
    savepointsFrom, finishGroup, commitTransaction, commitOpen]

omit [RealCarrier R] [DecidableEq V] [Sql.ExactEquality (Value R)] in
/-- A write that its table admits is committed as the only job. -/
theorem submitted_commits {write : CollectionWrite session.crud.derived V} {sql : String}
    {values : List (Value R)} {changes : Nat} {next : session.crud.Content}
    (stated : session.statement write = .ok (session.bound sql values))
    (done : session.effect sql values (emptyWriter session).connection.committed =
      .done changes next) :
    ∃ state, Reaches (recordPool _) (System.initial (recordPool _) (emptyWriter session)
        [submittingClient session write] ()) state ∧
      state.shared.admitted = [.groupable ⟨[session.bound sql values], 0⟩] ∧
      state.shared.handled =
        [(.groupable ⟨[session.bound sql values], 0⟩, .ok (.changes [changes]))] := by
  unfold submittingClient
  rw [submit_eq, stated]
  refine ⟨?state, ?run, ?admitted, ?handled⟩
  case run =>
    refine .head (client_moves (.submits rfl rfl rfl fun failed => by cases failed)
      (.nothing _)) ?_
    refine .head (client_moves (.accepted rfl (.first _) rfl) (.nothing _)) ?_
    refine .head (client_moves (.countsSubmitted rfl) (.nothing _)) ?_
    refine .head (client_moves (.notifiesWriter rfl) (.writer _)) ?_
    refine .head (.step (.writer (@WriterStep.pops _ _ _ _ _ _ ⟨[], true⟩
      (.group [⟨[session.bound sql values], 0⟩]) true rfl
      (fun closed => by cases closed) rfl) (.submitters _))) ?_
    refine .head (.step (.writer (.committed rfl (Prod.ext rfl (Prod.ext rfl rfl)))
      (.nothing _))) ?_
    exact .refl
  case admitted => rfl
  case handled =>
    let job : PoolJob session.crud.Content Unit :=
      .groupable ⟨[session.bound sql values], 0⟩
    exact congrArg (fun responses => [job].zip ((groupResponses responses).map Prod.snd))
      (single_commit rfl done)

end Memories

section Scored

variable {derived : DerivedCollection} (two : derived.fields.length = 2)

include two

theorem encodeValues_scored (score key : Int64) :
    encodeValues scoredCodec derived.fields [some score, some key] =
      .ok [.integer score, .integer key] := by
  match fields : derived.fields, two with
  | [first, second], _ => rfl

theorem statement_scored :
    (scoredSession derived).statement (.insert ⟨[some 5, some 1], two.symm⟩) =
      .ok ((scoredSession derived).bound derived.insertSql [.integer 5, .integer 1]) :=
  congrArg (Except.map _) (encodeValues_scored two 5 1)

/-- A memory is stored by the only client of a pool, which is answered that one row was
changed. -/
theorem scored_commits
    (expanded : expandCollection Crud.plainHost scoredInput = .ok derived) :
    ∃ state, Reaches (recordPool _) (System.initial (recordPool _)
        (emptyWriter (scoredSession derived))
        [submittingClient (scoredSession derived)
          (.insert ⟨[some 5, some 1], two.symm⟩)] ()) state ∧
      ∃ job, state.shared.admitted = [job] ∧
        state.shared.handled = [(job, .ok (.changes [1]))] ∧
        ∃ writes, (scoredSession derived).Carries job writes := by
  obtain ⟨next, done⟩ := effect_first (scoredSession derived)
    (expandCollection_wellFormed expanded) scoredCodec_keepsPresence
    ⟨fun _ _ => rfl, rfl, fun _ => rfl⟩
    (show Record.cells scoredCodec (⟨[some 5, some 1], two.symm⟩ : Record derived _) = _ from
      encodeValues_scored two 5 1)
  have stated := statement_scored two
  obtain ⟨state, run, admitted, handled⟩ := submitted_commits _ stated done
  exact ⟨state, run, _, admitted, handled, _, .statements 0 (.cons stated .nil)⟩

end Scored

theorem scored_pool_refines_record_store :
    ∃ derived, expandCollection Crud.plainHost scoredInput = .ok derived ∧
      ∃ record : Record derived (Option Int64), record.values = [some 5, some 1] ∧
      ∃ state, Reaches (recordPool _) (System.initial (recordPool _)
          (emptyWriter (scoredSession derived))
          [submittingClient (scoredSession derived) (.insert record)] ()) state ∧
        (∃ job, state.shared.admitted = [job] ∧
          state.shared.handled = [(job, .ok (.changes [1]))]) ∧
        ∃ keyOf writes counts last,
          (scoredSession derived).Answered state.shared.handled writes counts ∧
          StoreRun ((scoredSession derived).rules keyOf) (fun _ => none)
            (writes.map fun write => (scoredSession derived).request write.command)
            (counts.map .changed) last ∧
          (scoredSession derived).Represents keyOf
            state.shared.writer.connection.committed last := by
  obtain ⟨derived, expanded, two⟩ : ∃ derived,
      expandCollection Crud.plainHost scoredInput = .ok derived ∧ derived.fields.length = 2 :=
    ⟨_, rfl, rfl⟩
  obtain ⟨state, run, job, admitted, handled, carries⟩ := scored_commits two expanded
  obtain ⟨keyOf, -, stands, -⟩ := pool_refines_record_store Crud.plainHost scoredInput
    (scoredSession derived) expanded scoredCodec_roundTrips scoredCodec_keepsPresence
    ⟨fun _ _ => rfl, rfl, fun _ => rfl⟩ (recordPool _) (fun _ => rfl)
    (emptyWriter (scoredSession derived)) () _ (by simpa using ⟨_, _, rfl⟩) rfl state run
    (by
      intro other member
      rw [admitted, List.mem_singleton] at member
      exact member ▸ carries)
  obtain ⟨writes, counts, last, answered, stores, represents⟩ := stands (fun _ => none)
    (empty_represents _ keyOf)
  exact ⟨derived, expanded, _, rfl, state, run, ⟨job, admitted, handled⟩, keyOf, writes,
    counts, last, answered, stores, represents⟩

end CollectionSession

end Csgdb
