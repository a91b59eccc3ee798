/-
Module: Csgdb.Proofs.GroupCommit
Purpose: Group commit refines one transaction a job: when nothing physical fails,
  a group answers and commits what separate transactions would; otherwise it
  commits nothing and says so to every job.
Trusted boundary: none
Main exports: NoFault, executeGroupJob_ordinary, runGroupJobs_ordinary,
  group_commit_refines_separate_transactions
-/
import Csgdb.Pool.SeparateTransactions

namespace Csgdb.Pool

open Storage

variable {Data Channel : Type} {engine : TransactionEngine Data}

/-- Every control statement between two counts succeeds. -/
def NoFault (engine : TransactionEngine Data) (first last : Nat) : Prop :=
  ∀ count, first ≤ count → count < last → engine.fault count = none

theorem NoFault.mono {first last innerFirst innerLast : Nat}
    (noFault : NoFault engine first last) (low : first ≤ innerFirst)
    (high : innerLast ≤ last) : NoFault engine innerFirst innerLast :=
  fun count above below => noFault count (by omega) (by omega)

theorem NoFault.step {first last : Nat} (noFault : NoFault engine first last)
    (next : engine.fault last = none) : NoFault engine first (last + 1) := by
  intro count above below
  rcases Nat.lt_succ_iff_lt_or_eq.mp below with earlier | rfl
  · exact noFault count above earlier
  · exact next

theorem NoFault.trans {first middle last : Nat} (early : NoFault engine first middle)
    (late : NoFault engine middle last) : NoFault engine first last := by
  intro count above below
  rcases Nat.lt_or_ge count middle with earlier | later
  · exact early count above earlier
  · exact late count later below

theorem NoFault.refl (first : Nat) : NoFault engine first first :=
  fun count above below => absurd above (by omega)

/-- Why the control statements between two counts came to a stop, with the error of
the last of them: the engine failed it; or it was a ROLLBACK TO, and a statement had
made the engine drop the transaction with its savepoint. -/
inductive Breakdown (engine : TransactionEngine Data) (aborts : Prop)
    (first last : Nat) : Error → Prop
  | fault {count : Nat} {fault : Fault} (within : first ≤ count)
      (isLast : last = count + 1) (clean : NoFault engine first count)
      (met : engine.fault count = some fault) :
      Breakdown engine aborts first last fault.error
  | gone (aborted : aborts) (clean : NoFault engine first last) :
      Breakdown engine aborts first last storageFailed

/-- Statements that succeeded may stand before the breakdown. -/
theorem Breakdown.after {aborts more : Prop} {first middle last : Nat} {error : Error}
    (breakdown : Breakdown engine aborts middle last error) (wider : aborts → more)
    (low : first ≤ middle) (clean : NoFault engine first middle) :
    Breakdown engine more first last error := by
  cases breakdown with
  | fault within isLast rest met =>
      exact .fault (Nat.le_trans low within) isLast (clean.trans rest) met
  | gone aborted rest => exact .gone (wider aborted) (clean.trans rest)

/-- A breakdown means an abort or a fault. -/
theorem Breakdown.disturbed {aborts : Prop} {first last : Nat} {error : Error}
    (breakdown : Breakdown engine aborts first last error) (noAborts : ¬ aborts) :
    ¬ NoFault engine first last := by
  intro noFault
  cases breakdown with
  | fault within isLast clean met =>
      rw [noFault _ within (by omega)] at met
      cases met
  | gone aborted clean => exact noAborts aborted

/-- The shared transaction between two jobs. -/
def between (data : Data) : OpenTransaction Data :=
  { data := data, savepoints := [], explicit := true }

/-- The shared transaction behind the savepoint of a job. -/
def inside (start data : Data) : OpenTransaction Data :=
  { data := data, savepoints := [(jobSavepoint, start)], explicit := true }

theorem execute_control {command : Command Data} {connection : Connection Data}
    (isControl : command.isOrdinary = false) :
    execute engine command connection =
      match engine.fault connection.controls with
      | some (.refused error) =>
          ({ connection with controls := connection.controls + 1 }, .error error)
      | some (.aborted error) =>
          ({ connection with transaction := none, controls := connection.controls + 1 },
            .error error)
      | none => executeControl engine command
          { connection with controls := connection.controls + 1 } := by
  cases command with
  | ordinary => cases isControl
  | _ => rfl

/-- A control statement that meets a fault answers its error and changes no
committed data. -/
theorem execute_fault {command : Command Data} {connection : Connection Data}
    (isControl : command.isOrdinary = false) {fault : Fault}
    (faulty : engine.fault connection.controls = some fault) :
    ∃ next, execute engine command connection = (next, .error fault.error) ∧
      next.committed = connection.committed ∧
      next.controls = connection.controls + 1 := by
  rw [execute_control isControl, faulty]
  cases fault with
  | refused error => exact ⟨_, rfl, rfl, rfl⟩
  | aborted error => exact ⟨_, rfl, rfl, rfl⟩

theorem executeBatch_singleton {command : Command Data} {connection : Connection Data} :
    executeBatch engine [command] connection =
      ((execute engine command connection).1,
        (execute engine command connection).2.map fun _ => ()) := by
  cases ran : execute engine command connection with
  | mk next answer =>
      cases answer with
      | error error => simp [executeBatch, ran, Except.map]
      | ok count => simp [executeBatch, ran, Except.map]

/-- A control statement that the engine fails changes nothing that is committed. -/
theorem executeBatch_fault {command : Command Data} {rest : List (Command Data)}
    {connection : Connection Data} (isControl : command.isOrdinary = false) {fault : Fault}
    (faulty : engine.fault connection.controls = some fault) :
    ∃ next, executeBatch engine (command :: rest) connection = (next, .error fault.error) ∧
      next.committed = connection.committed ∧
      next.controls = connection.controls + 1 := by
  obtain ⟨next, ran, facts⟩ := execute_fault isControl faulty
  exact ⟨next, by simp only [executeBatch, ran], facts⟩

/-- The savepoint of a job opens inside the shared transaction. -/
theorem savepointJob_ok {data : Data} {connection : Connection Data}
    (isOpen : connection.transaction = some (between data))
    (noFault : engine.fault connection.controls = none) :
    executeBatch engine [.savepoint jobSavepoint] connection =
      ({ connection with
          transaction := some (inside data data)
          controls := connection.controls + 1 }, .ok ()) := by
  simp [executeBatch_singleton, execute, noFault, executeControl, isOpen, between, inside,
    Except.map]

theorem savepointsFrom_inside (start data : Data) :
    savepointsFrom jobSavepoint (inside start data).savepoints =
      some [(jobSavepoint, start)] := by
  simp [savepointsFrom, inside]

/-- Releasing the savepoint keeps what the job did. -/
theorem releaseJob_ok {start data : Data} {connection : Connection Data}
    (isOpen : connection.transaction = some (inside start data))
    (noFault : engine.fault connection.controls = none) :
    executeBatch engine [.release jobSavepoint] connection =
      ({ connection with
          transaction := some (between data)
          controls := connection.controls + 1 }, .ok ()) := by
  have kept : (inside start data).explicit = true := rfl
  simp [executeBatch_singleton, execute, noFault, executeControl, isOpen, releaseOpen,
    savepointsFrom_inside, kept, Except.map]
  simp [between, inside]

/-- Rolling back to the savepoint forgets what the job did. -/
theorem rollbackJob_ok {start data : Data} {connection : Connection Data}
    (isOpen : connection.transaction = some (inside start data))
    (noFault : engine.fault connection.controls = none)
    (noLaterFault : engine.fault (connection.controls + 1) = none) :
    executeBatch engine [.rollbackTo jobSavepoint, .release jobSavepoint] connection =
      ({ connection with
          transaction := some (between start)
          controls := connection.controls + 2 }, .ok ()) := by
  have back : execute engine (.rollbackTo jobSavepoint) connection =
      ({ connection with
          transaction := some (inside start start)
          controls := connection.controls + 1 }, .ok connection.changes) := by
    simp [execute, noFault, executeControl, isOpen, rollbackToOpen, savepointsFrom_inside]
    simp [inside]
  rw [executeBatch, back]
  exact (@releaseJob_ok _ _ _ _ { connection with
    transaction := some (inside start start), controls := connection.controls + 1 })
    rfl noLaterFault

/-- Outside a transaction there is no savepoint to roll back to. -/
theorem rollbackJob_autocommit {connection : Connection Data} {aborts : Prop}
    (aborted : aborts) (autocommit : connection.transaction = none) :
    ∃ next error,
      executeBatch engine [.rollbackTo jobSavepoint, .release jobSavepoint] connection =
        (next, .error error) ∧
      next.committed = connection.committed ∧
      next.controls = connection.controls + 1 ∧
      Breakdown engine aborts connection.controls next.controls error := by
  cases faulty : engine.fault connection.controls with
  | some fault =>
      obtain ⟨next, ran, committed, controls⟩ :=
        (@executeBatch_fault _ _ (.rollbackTo jobSavepoint) [.release jobSavepoint]) rfl faulty
      exact ⟨next, _, ran, committed, controls,
        .fault (Nat.le_refl _) controls (NoFault.refl _) faulty⟩
  | none =>
      exact ⟨{ connection with controls := connection.controls + 1 }, storageFailed,
        by simp [executeBatch, execute, faulty, executeControl, autocommit], rfl, rfl,
        .gone aborted ((NoFault.refl _).step faulty)⟩

/-! ## One job -/

/-- What can become of a job of ordinary statements in the shared transaction. -/
inductive GroupJobOutcome (engine : TransactionEngine Data)
    (statements : List (Command Data)) (data : Data) (before after : Connection Data) :
    Except Error (Result (List Nat)) → Prop
  | finished {changes : List Nat} {final : Data}
      (effect : jobEffect statements data = .finished changes final)
      (isOpen : after.transaction = some (between final))
      (noFault : NoFault engine before.controls after.controls) :
      GroupJobOutcome engine statements data before after (.ok (.ok changes))
  | failed {error : Error} (effect : jobEffect statements data = .failed error)
      (isOpen : after.transaction = some (between data))
      (noFault : NoFault engine before.controls after.controls) :
      GroupJobOutcome engine statements data before after (.ok (.error error))
  | physical {error : Error}
      (cause : Breakdown engine (∃ own, jobEffect statements data = .aborted own)
        before.controls after.controls error) :
      GroupJobOutcome engine statements data before after (.error error)

theorem executeGroupStatements_eq (statements : List (Command Data)) (changes : List Nat)
    (connection : Connection Data) :
    executeGroupStatements engine statements changes connection =
      match executeStatements engine statements changes connection with
      | (next, .ok counted) =>
          (match executeBatch engine [.release jobSavepoint] next with
          | (last, .error error) => (last, .error error)
          | (last, .ok ()) => (last, .ok (.ok counted)))
      | (next, .error error) =>
          (match executeBatch engine [.rollbackTo jobSavepoint, .release jobSavepoint]
              next with
          | (last, .error physical) => (last, .error physical)
          | (last, .ok ()) => (last, .ok (.error error))) := by
  induction statements generalizing changes connection with
  | nil => rfl
  | cons statement rest inductionHypothesis =>
      unfold executeGroupStatements executeStatements
      cases ran : execute engine statement connection with
      | mk next answer =>
          cases answer with
          | ok counted => exact inductionHypothesis _ _
          | error error => rfl

/-- The end of a finished job. -/
theorem release_outcome {statements : List (Command Data)} {data final : Data}
    {changes : List Nat} {before connection : Connection Data}
    (effect : jobEffect statements data = .finished changes final)
    (isOpen : connection.transaction = some (inside data final))
    (sameCommitted : connection.committed = before.committed)
    (later : before.controls ≤ connection.controls)
    (clean : NoFault engine before.controls connection.controls) :
    ∃ after result,
      (match executeBatch engine [.release jobSavepoint] connection with
        | (last, .error error) => (last, .error error)
        | (last, .ok ()) => (last, .ok (.ok changes))) = (after, result) ∧
      after.committed = before.committed ∧ before.controls ≤ after.controls ∧
      GroupJobOutcome engine statements data before after result := by
  cases faulty : engine.fault connection.controls with
  | none =>
      rw [releaseJob_ok isOpen faulty]
      exact ⟨_, _, rfl, sameCommitted, Nat.le_succ_of_le later,
        .finished effect rfl (clean.step faulty)⟩
  | some fault =>
      obtain ⟨next, ran, committed, controls⟩ :=
        (@executeBatch_fault _ _ (.release jobSavepoint) []) rfl faulty
      rw [ran]
      exact ⟨next, _, rfl, committed.trans sameCommitted, by omega,
        .physical (.fault later controls clean faulty)⟩

/-- The end of a failed job. -/
theorem rollback_outcome {statements : List (Command Data)} {data left : Data}
    {error : Error} {before connection : Connection Data}
    (effect : jobEffect statements data = .failed error)
    (isOpen : connection.transaction = some (inside data left))
    (sameCommitted : connection.committed = before.committed)
    (later : before.controls ≤ connection.controls)
    (clean : NoFault engine before.controls connection.controls) :
    ∃ after result,
      (match executeBatch engine [.rollbackTo jobSavepoint, .release jobSavepoint]
          connection with
        | (last, .error physical) => (last, .error physical)
        | (last, .ok ()) => (last, .ok (.error error))) = (after, result) ∧
      after.committed = before.committed ∧ before.controls ≤ after.controls ∧
      GroupJobOutcome engine statements data before after result := by
  cases faulty : engine.fault connection.controls with
  | some fault =>
      obtain ⟨next, ran, committed, controls⟩ :=
        (@executeBatch_fault _ _ (.rollbackTo jobSavepoint) [.release jobSavepoint]) rfl faulty
      rw [ran]
      exact ⟨next, _, rfl, committed.trans sameCommitted, by omega,
        .physical (.fault later controls clean faulty)⟩
  | none =>
      cases faultyRelease : engine.fault (connection.controls + 1) with
      | none =>
          rw [rollbackJob_ok isOpen faulty faultyRelease]
          exact ⟨_, _, rfl, sameCommitted, Nat.le_add_right_of_le later,
            .failed effect rfl ((clean.step faulty).step faultyRelease)⟩
      | some fault =>
          have back : execute engine (.rollbackTo jobSavepoint) connection =
              ({ connection with
                  transaction := some (inside data data)
                  controls := connection.controls + 1 }, .ok connection.changes) := by
            simp [execute, faulty, executeControl, isOpen, rollbackToOpen,
              savepointsFrom_inside]
            simp [inside]
          obtain ⟨next, ran, committed, controls⟩ :=
            (@executeBatch_fault _ _ (.release jobSavepoint) [] { connection with
                transaction := some (inside data data)
                controls := connection.controls + 1 }) rfl faultyRelease
          rw [executeBatch, back]
          simp only [ran]
          exact ⟨next, _, rfl, committed.trans sameCommitted, by simp at controls; omega,
            .physical (.fault (Nat.le_succ_of_le later) controls (clean.step faulty)
              faultyRelease)⟩

/-- The end of an aborted job. -/
theorem aborted_outcome {statements : List (Command Data)} {data : Data}
    {error : Error} {before connection : Connection Data}
    (effect : jobEffect statements data = .aborted error)
    (autocommit : connection.transaction = none)
    (sameCommitted : connection.committed = before.committed)
    (later : before.controls ≤ connection.controls)
    (clean : NoFault engine before.controls connection.controls) :
    ∃ after result,
      (match executeBatch engine [.rollbackTo jobSavepoint, .release jobSavepoint]
          connection with
        | (last, .error physical) => (last, .error physical)
        | (last, .ok ()) => (last, .ok (.error error))) = (after, result) ∧
      after.committed = before.committed ∧ before.controls ≤ after.controls ∧
      GroupJobOutcome engine statements data before after result := by
  have aborts : ∃ own, jobEffect statements data = .aborted own := ⟨error, effect⟩
  obtain ⟨next, physical, ran, committed, controls, breakdown⟩ :=
    (@rollbackJob_autocommit _ engine) aborts autocommit
  rw [ran]
  exact ⟨next, _, rfl, committed.trans sameCommitted, by omega,
    .physical (breakdown.after id later clean)⟩

/-- What becomes of one job in the shared transaction. -/
theorem executeGroupJob_ordinary {statements : List (Command Data)} {data : Data}
    {connection : Connection Data}
    (ordinary : ∀ statement ∈ statements, statement.isOrdinary = true)
    (isOpen : connection.transaction = some (between data)) :
    ∃ after result, executeGroupJob engine statements connection = (after, result) ∧
      after.committed = connection.committed ∧ connection.controls ≤ after.controls ∧
      GroupJobOutcome engine statements data connection after result := by
  unfold executeGroupJob
  cases faulty : engine.fault connection.controls with
  | some fault =>
      obtain ⟨next, ran, committed, controls⟩ :=
        (@executeBatch_fault _ _ (.savepoint jobSavepoint) []) rfl faulty
      rw [ran]
      exact ⟨next, _, rfl, committed, by omega,
        .physical (.fault (Nat.le_refl _) controls (NoFault.refl _) faulty)⟩
  | none =>
      rw [savepointJob_ok isOpen faulty]
      simp only [executeGroupStatements_eq]
      have ran := (@executeStatements_ordinary _ engine (inside data data) _ []
        { connection with
          transaction := some (inside data data)
          controls := connection.controls + 1 }) ordinary rfl
      have visible : (inside data data).data = data := rfl
      have clean : NoFault engine connection.controls (connection.controls + 1) :=
        (NoFault.refl _).step faulty
      rw [visible] at ran
      cases effect : jobEffect statements data with
      | finished changes final =>
          simp only [effect, List.nil_append] at ran
          obtain ⟨next, ranOk, committed, controls, isInside⟩ := ran
          rw [ranOk]
          exact release_outcome effect isInside committed (by omega) (controls ▸ clean)
      | failed error =>
          simp only [effect] at ran
          obtain ⟨next, left, ranFailed, committed, controls, isInside⟩ := ran
          rw [ranFailed]
          exact rollback_outcome effect isInside committed (by omega) (controls ▸ clean)
      | aborted error =>
          simp only [effect] at ran
          obtain ⟨next, ranFailed, committed, controls, autocommit⟩ := ran
          rw [ranFailed]
          exact aborted_outcome effect autocommit committed (by omega) (controls ▸ clean)

/-! ## The jobs of a group -/

/-- What can become of the jobs of a group before the shared transaction ends. -/
inductive GroupRun (engine : TransactionEngine Data)
    (jobs : List (GroupableWrite Data Channel)) (data : Data)
    (before after : Connection Data) :
    List (GroupWriteResponse Channel) → Option Error → Prop
  | completed (noAbort : NoAbort jobEffect jobs data)
      (isOpen : after.transaction = some (between (serialState jobEffect jobs data)))
      (noFault : NoFault engine before.controls after.controls) :
      GroupRun engine jobs data before after (serialAnswers jobEffect jobs data) none
  | fatal {responses : List (GroupWriteResponse Channel)} {error : Error}
      (sameJobs : responses.map Prod.fst = jobs.map GroupableWrite.response)
      (cause : Breakdown engine (¬ NoAbort jobEffect jobs data)
        before.controls after.controls error) :
      GroupRun engine jobs data before after responses (some error)

/-- Behind a fatal error no job is run, and all are answered with it. -/
theorem runGroupJobs_fatal (error : Error) (connection : Connection Data) :
    ∀ jobs : List (GroupableWrite Data Channel),
      runGroupJobs engine (some error) jobs connection =
        (connection, jobs.map fun job => (job.response, .error error), some error)
  | [] => rfl
  | job :: rest => by
      unfold runGroupJobs
      rw [runGroupJobs_fatal error connection rest]
      rfl

/-- Telling every job of the group one answer looks only at the channels. -/
theorem map_channels {jobs : List (GroupableWrite Data Channel)}
    {responses : List (GroupWriteResponse Channel)} (answer : Result (List Nat))
    (sameJobs : responses.map Prod.fst = jobs.map GroupableWrite.response) :
    (responses.map fun response => (response.1, answer)) =
      jobs.map fun job => (job.response, answer) := by
  have channels := congrArg (List.map fun channel : Channel => (channel, answer)) sameJobs
  simpa [List.map_map, Function.comp_def] using channels

/-- A job that could run is followed by the run of the others. -/
theorem GroupRun.cons {job : GroupableWrite Data Channel}
    {rest : List (GroupableWrite Data Channel)} {data : Data}
    {before middle after : Connection Data}
    {responses : List (GroupWriteResponse Channel)} {fatal : Option Error}
    {effect : JobEffect Data} (sameEffect : jobEffect job.statements data = effect)
    (noAbort : ∀ error, effect ≠ .aborted error)
    (run : GroupRun engine rest (effect.stateFrom data) middle after responses fatal)
    (later : before.controls ≤ middle.controls)
    (clean : NoFault engine before.controls middle.controls) :
    GroupRun engine (job :: rest) data before after
      ((job.response, effect.answer) :: responses) fatal := by
  subst sameEffect
  cases run with
  | completed restNoAbort isOpen noFault =>
      exact .completed ⟨noAbort, restNoAbort⟩ isOpen (clean.trans noFault)
  | fatal sameJobs cause =>
      refine .fatal (by simp [sameJobs]) (cause.after ?_ later clean)
      rintro restAborts ⟨-, restNoAbort⟩
      exact restAborts restNoAbort

/-- What becomes of the jobs, by induction on them. -/
theorem runGroupJobs_ordinary :
    ∀ {jobs : List (GroupableWrite Data Channel)} {data : Data}
      {connection : Connection Data},
      (∀ job ∈ jobs, job.isOrdinary) →
      connection.transaction = some (between data) →
        ∃ after responses fatal,
          runGroupJobs engine none jobs connection = (after, responses, fatal) ∧
          after.committed = connection.committed ∧
          connection.controls ≤ after.controls ∧
          GroupRun engine jobs data connection after responses fatal
  | [], data, connection, _, isOpen =>
      ⟨connection, [], none, rfl, rfl, Nat.le_refl _,
        .completed trivial isOpen (NoFault.refl _)⟩
  | job :: rest, data, connection, ordinary, isOpen => by
      rw [List.forall_mem_cons] at ordinary
      obtain ⟨middle, result, ran, committed, later, outcome⟩ :=
        (@executeGroupJob_ordinary _ engine) ordinary.1 isOpen
      unfold runGroupJobs
      rw [ran]
      cases outcome with
      | finished effect nextOpen clean =>
          obtain ⟨after, responses, fatal, ranRest, restCommitted, restLater, run⟩ :=
            runGroupJobs_ordinary ordinary.2 nextOpen
          simp only [ranRest]
          exact ⟨after, _, fatal, rfl, restCommitted.trans committed, by omega,
            .cons effect (fun _ same => by cases same) run later clean⟩
      | failed effect nextOpen clean =>
          obtain ⟨after, responses, fatal, ranRest, restCommitted, restLater, run⟩ :=
            runGroupJobs_ordinary ordinary.2 nextOpen
          simp only [ranRest]
          exact ⟨after, _, fatal, rfl, restCommitted.trans committed, by omega,
            .cons effect (fun _ same => by cases same) run later clean⟩
      | physical cause =>
          simp only [runGroupJobs_fatal]
          refine ⟨middle, _, _, rfl, committed, later,
            .fatal (by simp [Function.comp_def])
              (cause.after ?_ (Nat.le_refl _) (NoFault.refl _))⟩
          rintro ⟨own, effect⟩ ⟨noAbort, -⟩
          exact noAbort own effect

/-! ## The end of a group -/

/-- Every job is told of an error: the physical one, unless it failed by itself. -/
def RefusedWith (physical : Error) (jobs : List (GroupableWrite Data Channel))
    (data : Data) (responses : List (GroupWriteResponse Channel)) : Prop :=
  responses.length = jobs.length ∧
    ∀ index job, jobs[index]? = some job → ∃ error,
      responses[index]? = some (job.response, .error error) ∧
        (error = physical ∨ jobEffect job.statements
          (serialState jobEffect (jobs.take index) data) = .failed error)

theorem refusedWith_all (physical : Error) (jobs : List (GroupableWrite Data Channel))
    (data : Data) :
    RefusedWith physical jobs data
      (jobs.map fun job => (job.response, .error physical)) := by
  refine ⟨by simp, fun index job atIndex => ⟨physical, ?_, .inl rfl⟩⟩
  simp [atIndex]

theorem RefusedWith.cons {physical error : Error} {job : GroupableWrite Data Channel}
    {rest : List (GroupableWrite Data Channel)} {data : Data}
    {responses : List (GroupWriteResponse Channel)}
    (head : error = physical ∨ jobEffect job.statements data = .failed error)
    (tail : RefusedWith physical rest
      ((jobEffect job.statements data).stateFrom data) responses) :
    RefusedWith physical (job :: rest) data ((job.response, .error error) :: responses) := by
  refine ⟨by simp [tail.1], fun index other atIndex => ?_⟩
  cases index with
  | zero =>
      obtain rfl : job = other := by simpa using atIndex
      exact ⟨error, rfl, head⟩
  | succ index =>
      obtain ⟨own, response, why⟩ := tail.2 index other (by simpa using atIndex)
      exact ⟨own, by simpa using response, by simpa [serialState] using why⟩

/-- A commit that fails turns every success into its error. -/
theorem refusedWith_failSuccess (physical : Error) :
    ∀ {jobs : List (GroupableWrite Data Channel)} {data : Data},
      NoAbort jobEffect jobs data →
        RefusedWith physical jobs data
          ((serialAnswers jobEffect jobs data).map (failSuccess physical))
  | [], _, _ => ⟨rfl, fun index job atIndex => by simp at atIndex⟩
  | job :: rest, data, ⟨noAbort, restNoAbort⟩ => by
      have tail := refusedWith_failSuccess physical restNoAbort
      unfold serialAnswers
      rw [List.map_cons]
      cases effect : jobEffect job.statements data with
      | finished changes after =>
          rw [effect] at tail
          exact (@RefusedWith.cons _ _ physical physical) (.inl rfl) (effect ▸ tail)
      | failed error =>
          rw [effect] at tail
          exact (@RefusedWith.cons _ _ physical error) (.inr effect) (effect ▸ tail)
      | aborted error => exact absurd effect (noAbort error)

theorem checkedEffect_of_not_pending (noDeferred : ∀ data, engine.pending data = false) :
    checkedEffect engine.pending = jobEffect := by
  funext statements data
  unfold checkedEffect
  cases jobEffect statements data with
  | finished changes after => simp [noDeferred]
  | failed error => rfl
  | aborted error => rfl

theorem beginTransaction_ok {connection : Connection Data}
    (autocommit : connection.transaction = none)
    (noFault : engine.fault connection.controls = none) :
    beginTransaction engine connection =
      ({ connection with
          transaction := some (between connection.committed)
          controls := connection.controls + 1 }, .ok ()) := by
  simp [beginTransaction, executeBatch, execute, noFault, executeControl, autocommit,
    between]

/-- A group whose `BEGIN` fails has changed nothing. -/
theorem begin_fault {connection : Connection Data}
    (autocommit : connection.transaction = none) {fault : Fault}
    (faulty : engine.fault connection.controls = some fault) :
    ∃ next, beginTransaction engine connection = (next, .error fault.error) ∧
      next.committed = connection.committed ∧ next.transaction = none ∧
      next.controls = connection.controls + 1 := by
  cases fault with
  | refused error =>
      exact ⟨{ connection with controls := connection.controls + 1 },
        by simp [beginTransaction, executeBatch, execute, faulty, Fault.error],
        rfl, autocommit, rfl⟩
  | aborted error =>
      exact ⟨{ connection with transaction := none, controls := connection.controls + 1 },
        by simp [beginTransaction, executeBatch, execute, faulty, Fault.error,
          Connection.rolledBack], rfl, rfl, rfl⟩

theorem commit_ok {connection : Connection Data} {data : Data}
    (isOpen : connection.transaction = some (between data))
    (noFault : engine.fault connection.controls = none)
    (allowed : engine.pending data = false) :
    commitTransaction engine connection =
      ({ connection with
          committed := data, transaction := none
          controls := connection.controls + 1 }, .ok ()) := by
  simp [commitTransaction, executeBatch, execute, noFault, executeControl, isOpen,
    commitOpen, between, allowed, dropTransaction, Connection.rolledBack]

/-- A group whose `COMMIT` fails has changed nothing. -/
theorem commit_fault {connection : Connection Data} {fault : Fault}
    (faulty : engine.fault connection.controls = some fault) :
    ∃ next, commitTransaction engine connection = (next, .error fault.error) ∧
      next.committed = connection.committed ∧ next.transaction = none ∧
      next.controls = connection.controls + 1 := by
  obtain ⟨next, ran, committed, controls⟩ :=
    (@executeBatch_fault _ _ (.commit) []) rfl faulty
  unfold commitTransaction
  rw [ran]
  exact ⟨dropTransaction next, rfl, committed, rfl, controls⟩

/-- A group refines separate transactions.  When no statement aborts the
transaction and every control statement succeeds, the answers and the committed
data are those of one transaction a job; otherwise nothing is committed and every
job is told the error of the control statement that failed, unless it failed by
itself. -/
theorem group_commit_refines_separate_transactions (engine : TransactionEngine Data)
    (noDeferred : ∀ data, engine.pending data = false)
    (jobs : List (GroupableWrite Data Channel))
    (ordinary : ∀ job ∈ jobs, job.isOrdinary) (connection : Connection Data)
    (autocommit : connection.transaction = none) (metrics : PoolMetrics) :
    let after := (executeGroupCommit engine jobs connection metrics).1
    let completion := (executeGroupCommit engine jobs connection metrics).2.2
    let undisturbed := NoAbort jobEffect jobs connection.committed ∧
      NoFault engine connection.controls after.controls
    after.transaction = none ∧
      (undisturbed →
        completion.responses = (separateJobs (faultless engine) jobs connection).2 ∧
          after.committed =
            (separateJobs (faultless engine) jobs connection).1.committed) ∧
      (¬ undisturbed → after.committed = connection.committed ∧
        ∃ physical,
          Breakdown engine (¬ NoAbort jobEffect jobs connection.committed)
            connection.controls after.controls physical ∧
          RefusedWith physical jobs connection.committed completion.responses) := by
  obtain ⟨separateAnswers, separateState⟩ :=
    (@separateJobs_ordinary _ _ engine) ordinary autocommit
  rw [checkedEffect_of_not_pending noDeferred] at separateAnswers separateState
  simp only [executeGroupCommit, groupTransaction]
  cases faultyBegin : engine.fault connection.controls with
  | some fault =>
      obtain ⟨next, ran, committed, closed, controls⟩ :=
        begin_fault autocommit faultyBegin
      have breakdown : Breakdown engine (¬ NoAbort jobEffect jobs connection.committed)
          connection.controls next.controls fault.error :=
        .fault (Nat.le_refl _) controls (NoFault.refl _) faultyBegin
      simp only [ran]
      refine ⟨closed, ?_, fun _ =>
        ⟨committed, fault.error, breakdown, refusedWith_all fault.error jobs _⟩⟩
      rintro ⟨noAbort, noFault⟩
      exact absurd noFault (breakdown.disturbed (not_not.mpr noAbort))
  | none =>
      simp only [beginTransaction_ok autocommit faultyBegin]
      obtain ⟨last, responses, fatal, ran, committed, later, run⟩ :=
        (@runGroupJobs_ordinary _ _ engine _ connection.committed { connection with
            transaction := some (between connection.committed)
            controls := connection.controls + 1 }) ordinary rfl
      simp only [ran]
      cases run with
      | fatal sameJobs cause =>
          rename_i error
          have allFatal := map_channels (.error error) sameJobs
          simp only [finishGroup, allFatal]
          have breakdown := cause.after id (Nat.le_succ _)
            ((NoFault.refl _).step faultyBegin)
          refine ⟨rfl, ?_, fun _ =>
            ⟨committed, error, breakdown, refusedWith_all error jobs _⟩⟩
          rintro ⟨noAbort, noFault⟩
          exact absurd noFault (breakdown.disturbed (not_not.mpr noAbort))
      | completed noAbort isOpen clean =>
          cases faultyCommit : engine.fault last.controls with
          | none =>
              simp only [finishGroup, commit_ok isOpen faultyCommit (noDeferred _)]
              refine ⟨trivial, fun _ => ⟨separateAnswers.symm, separateState.symm⟩, ?_⟩
              intro disturbed
              exact absurd ⟨noAbort, (((NoFault.refl _).step faultyBegin).trans clean).step
                faultyCommit⟩ disturbed
          | some fault =>
              obtain ⟨next, ranCommit, committedCommit, closed, controls⟩ :=
                commit_fault faultyCommit
              have breakdown : Breakdown engine
                  (¬ NoAbort jobEffect jobs connection.committed)
                  connection.controls next.controls fault.error :=
                .fault (Nat.le_of_succ_le later) controls
                  (((NoFault.refl _).step faultyBegin).trans clean) faultyCommit
              simp only [finishGroup, ranCommit]
              refine ⟨closed, ?_, fun _ => ⟨committedCommit.trans committed, fault.error,
                breakdown, refusedWith_failSuccess fault.error noAbort⟩⟩
              rintro ⟨-, noFault⟩
              exact absurd noFault (breakdown.disturbed (not_not.mpr noAbort))

/-! ## A group with a failing job -/

/-- A database that counts rows, and statements on it. -/
def insertRows (rows : Nat) : Command Nat :=
  .ordinary fun stored => .done rows (stored + rows)

def violateConstraint : Command Nat :=
  .ordinary fun stored => .failed constraintViolation stored

def idleConnection (stored : Nat) : Connection Nat :=
  { committed := stored, transaction := none, changes := 0, controls := 0 }

def faultAt (count : Nat) (error : Error) : TransactionEngine Nat where
  pending := fun _ => false
  fault := fun current => if current = count then some (.refused error) else none

/-- Three jobs, the second of which fails at its second statement. -/
def mixedGroup : List (GroupableWrite Nat Nat) :=
  [⟨[insertRows 1], 0⟩, ⟨[insertRows 2, violateConstraint], 1⟩, ⟨[insertRows 3], 2⟩]

/-- The mixed group commits the first and the third job.  When its commit (the ninth
control statement) fails, it commits nothing, and the two jobs are told that
error. -/
theorem mixed_group_refines_separate_transactions :
    (executeGroupCommit (faultAt 99 storageFailed) mixedGroup (idleConnection 0)
        {}).2.2.responses =
        [(0, .ok [1]), (1, .error constraintViolation), (2, .ok [3])] ∧
      (executeGroupCommit (faultAt 99 storageFailed) mixedGroup (idleConnection 0)
        {}).1.committed = 4 ∧
      (executeGroupCommit (faultAt 8 storageFailed) mixedGroup (idleConnection 0)
        {}).1.committed = 0 ∧
      (executeGroupCommit (faultAt 8 storageFailed) mixedGroup (idleConnection 0)
        {}).2.2.responses =
        [(0, .error storageFailed), (1, .error constraintViolation),
          (2, .error storageFailed)] ∧
      RefusedWith storageFailed mixedGroup 0
        (executeGroupCommit (faultAt 8 storageFailed) mixedGroup (idleConnection 0)
          {}).2.2.responses := by
  have ordinary : ∀ job ∈ mixedGroup, job.isOrdinary := by
    simp [mixedGroup, GroupableWrite.isOrdinary, insertRows, violateConstraint,
      Command.isOrdinary]
  have noAbort : NoAbort jobEffect mixedGroup (idleConnection 0).committed := by
    refine ⟨?_, ?_, ?_, trivial⟩
    all_goals
      intro error same
      cases same
  have noFault : NoFault (faultAt 99 storageFailed) 0 9 :=
    fun count _ below => if_neg (by omega)
  have undisturbed := (group_commit_refines_separate_transactions
    (faultAt 99 storageFailed) (fun _ => rfl) mixedGroup ordinary (idleConnection 0) rfl
    {}).2.1 ⟨noAbort, noFault⟩
  have disturbed := (group_commit_refines_separate_transactions
    (faultAt 8 storageFailed) (fun _ => rfl) mixedGroup ordinary (idleConnection 0) rfl
    {}).2.2 fun clean => absurd (clean.2 8 (by decide) (by decide)) (by decide)
  obtain ⟨committed, physical, breakdown, refused⟩ := disturbed
  have told : physical = storageFailed := by
    cases breakdown with
    | fault within isLast clean met =>
        obtain ⟨-, refusal⟩ := Option.ite_none_right_eq_some.mp met
        obtain rfl := Option.some.inj refusal
        rfl
    | gone aborted clean => exact absurd noAbort aborted
  rw [told] at refused
  exact ⟨undisturbed.1, undisturbed.2, committed, rfl, refused⟩

end Csgdb.Pool
