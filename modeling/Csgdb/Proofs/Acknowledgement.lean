/-
Module: Csgdb.Proofs.Acknowledgement
Purpose: What the answers of a group say about the committed data, for jobs of any
  statements: which control statements of a job the savepoint around it survives.
Trusted boundary: none
Main exports: rowChanges, Acknowledged, staysInJob, acknowledgements_sound,
  control_statement_breaks_acknowledgement
-/
import Csgdb.Proofs.GroupCommit

namespace Csgdb.Pool

open Storage

variable {Data Channel : Type} {engine : TransactionEngine Data}

/-! ## The property -/

/-- The data with the row changes of a job: its statements as a script behind a
transaction and a savepoint of its own, when all of them succeed. -/
def rowChanges (engine : TransactionEngine Data) (statements : List (Command Data))
    (data : Data) : Option Data :=
  match executeBatch (faultless engine)
      (.begin :: .savepoint jobSavepoint :: statements)
      { committed := data, transaction := none, changes := 0, controls := 0 } with
  | (connection, .ok ()) => some connection.visible
  | (_, .error _) => none

/-- The answers are sound: the data afterwards are those before with all row changes
of the jobs answered `Ok`, in order, and none of those answered `Err`. -/
inductive Acknowledged (engine : TransactionEngine Data) :
    List (GroupableWrite Data Channel) → List (GroupWriteResponse Channel) →
      Data → Data → Prop
  | nil (data : Data) : Acknowledged engine [] [] data data
  | ok {job : GroupableWrite Data Channel} {jobs : List (GroupableWrite Data Channel)}
      {responses : List (GroupWriteResponse Channel)} {changes : List Nat}
      {before middle after : Data}
      (all : rowChanges engine job.statements before = some middle)
      (rest : Acknowledged engine jobs responses middle after) :
      Acknowledged engine (job :: jobs) ((job.response, .ok changes) :: responses)
        before after
  | error {job : GroupableWrite Data Channel} {jobs : List (GroupableWrite Data Channel)}
      {responses : List (GroupWriteResponse Channel)} {error : Error}
      {before after : Data} (rest : Acknowledged engine jobs responses before after) :
      Acknowledged engine (job :: jobs) ((job.response, .error error) :: responses)
        before after

/-- Groups one after another on one connection. -/
def runGroups (engine : TransactionEngine Data) :
    List (List (GroupableWrite Data Channel)) → Connection Data → Connection Data
  | [], connection => connection
  | group :: rest, connection =>
      runGroups engine rest (groupTransaction engine group connection).1

/-! ## The condition -/

/-- The statement neither ends the transaction nor hides the savepoint of the job. -/
def staysInJob : Command Data → Bool
  | .commit => false
  | .rollback => false
  | .savepoint name => foldName name != foldName jobSavepoint
  | _ => true

/-! ## The stack of a job -/

/-- The savepoints behind the one of the job; the job may also have released that. -/
inductive JobStack (start : Data) : List (String × Data) → Prop
  | released : JobStack start []
  | bracket : JobStack start [(jobSavepoint, start)]
  | own {name : String} {data : Data} {older : List (String × Data)}
      (other : foldName name ≠ foldName jobSavepoint) (stack : JobStack start older) :
      JobStack start ((name, data) :: older)

theorem JobStack.tail {start : Data} {saved : List (String × Data)}
    (stack : JobStack start saved) : JobStack start saved.tail := by
  cases stack with
  | released => exact .released
  | bracket => exact .released
  | own other older => exact older

theorem JobStack.from {start : Data} {name : String} {saved kept : List (String × Data)}
    (stack : JobStack start saved) (found : savepointsFrom name saved = some kept) :
    JobStack start kept := by
  induction stack with
  | released => cases found
  | bracket =>
      unfold savepointsFrom at found
      split at found
      · obtain rfl := Option.some.inj found
        exact .bracket
      · cases found
  | own other older inductionHypothesis =>
      unfold savepointsFrom at found
      split at found
      · obtain rfl := Option.some.inj found
        exact .own other older
      · exact inductionHypothesis found

/-- Under the name of the job's savepoint only that savepoint is found. -/
theorem JobStack.bracket_found {start : Data} {saved kept : List (String × Data)}
    (stack : JobStack start saved)
    (found : savepointsFrom jobSavepoint saved = some kept) :
    kept = [(jobSavepoint, start)] := by
  induction stack with
  | released => cases found
  | bracket => simpa [savepointsFrom] using found.symm
  | own other older inductionHypothesis =>
      unfold savepointsFrom at found
      rw [if_neg other] at found
      exact inductionHypothesis found

/-- The connection while a job runs. -/
structure InJob (start base : Data) (connection : Connection Data) : Prop where
  committed_eq : connection.committed = base
  isOpen : ∃ data saved, connection.transaction =
    some { data := data, savepoints := saved, explicit := true } ∧ JobStack start saved

/-- The connection after a failed statement: still in the job, or rolled back. -/
def JobEnded (start base : Data) (connection : Connection Data) : Prop :=
  InJob start base connection ∨
    (connection.committed = base ∧ connection.transaction = none)

/-- One control statement of a job that meets no fault. -/
theorem executeControl_inJob {start base : Data} {command : Command Data}
    {connection : Connection Data} (stays : staysInJob command = true)
    (inJob : InJob start base connection) :
    InJob start base (executeControl engine command connection).1 := by
  obtain ⟨committed, data, saved, isOpen, stack⟩ := inJob
  cases command with
  | ordinary behaviour => exact ⟨by simpa [executeControl] using committed, data, saved,
      by simpa [executeControl] using isOpen, stack⟩
  | begin => simpa [executeControl, isOpen] using ⟨committed, data, saved, isOpen, stack⟩
  | commit => cases stays
  | rollback => cases stays
  | savepoint name =>
      have other : foldName name ≠ foldName jobSavepoint := by
        simpa [staysInJob] using stays
      simp only [executeControl, isOpen]
      exact ⟨committed, data, _, rfl, .own other stack⟩
  | release name =>
      simp only [executeControl, isOpen, releaseOpen]
      cases found : savepointsFrom name saved with
      | none => exact ⟨committed, data, saved, isOpen, stack⟩
      | some kept =>
          simp only [Bool.not_true, Bool.and_false, Bool.false_eq_true, ↓reduceIte]
          exact ⟨committed, data, _, rfl, (stack.from found).tail⟩
  | rollbackTo name =>
      simp only [executeControl, isOpen, rollbackToOpen]
      cases found : savepointsFrom name saved with
      | none => exact ⟨committed, data, saved, isOpen, stack⟩
      | some kept =>
          cases kept with
          | nil => exact ⟨committed, data, saved, isOpen, stack⟩
          | cons entry older => exact ⟨committed, _, _, rfl, stack.from found⟩

/-- One statement of a job. -/
theorem execute_inJob {start base : Data} {command : Command Data}
    {connection : Connection Data} (stays : staysInJob command = true)
    (inJob : InJob start base connection) :
    ((execute engine command connection).2.isOk = true →
        InJob start base (execute engine command connection).1) ∧
      JobEnded start base (execute engine command connection).1 := by
  cases kind : command.isOrdinary with
  | false =>
      have counted : InJob start base
          { connection with controls := connection.controls + 1 } :=
        { committed_eq := inJob.committed_eq, isOpen := inJob.isOpen }
      rw [execute_control kind]
      cases engine.fault connection.controls with
      | none =>
          have next := (@executeControl_inJob _ engine) stays counted
          exact ⟨fun _ => next, .inl next⟩
      | some fault =>
          cases fault with
          | refused error => exact ⟨fun _ => counted, .inl counted⟩
          | aborted error => exact ⟨(fun ok => by cases ok), .inr ⟨inJob.committed_eq, rfl⟩⟩
  | true =>
      cases command with
      | ordinary behaviour =>
          obtain ⟨committed, data, saved, isOpen, stack⟩ := inJob
          have visible : connection.visible = data := by
            simp [Connection.visible, isOpen]
          cases ran : behaviour data with
          | done changes after =>
              simp only [execute, executeOrdinary, visible, ran, isOpen]
              have next : InJob start base
                  { connection with
                    transaction := some ⟨after, saved, true⟩, changes := changes } :=
                ⟨committed, after, saved, rfl, stack⟩
              exact ⟨fun _ => next, .inl next⟩
          | failed error left =>
              simp only [execute, executeOrdinary, visible, ran, isOpen]
              exact ⟨(fun ok => by cases ok), .inl ⟨committed, left, saved, rfl, stack⟩⟩
          | aborted error =>
              simp only [execute, executeOrdinary, visible, ran]
              exact ⟨(fun ok => by cases ok), .inr ⟨committed, rfl⟩⟩
      | _ => cases kind

theorem executeStatements_inJob {start base : Data} :
    ∀ {statements : List (Command Data)} {changes : List Nat}
      {connection : Connection Data},
      (∀ statement ∈ statements, staysInJob statement = true) →
      InJob start base connection →
        ((executeStatements engine statements changes connection).2.isOk = true →
          InJob start base (executeStatements engine statements changes connection).1) ∧
        JobEnded start base (executeStatements engine statements changes connection).1
  | [], changes, connection, _, inJob => ⟨fun _ => inJob, .inl inJob⟩
  | statement :: rest, changes, connection, stays, inJob => by
      rw [List.forall_mem_cons] at stays
      obtain ⟨goesOn, ended⟩ := (@execute_inJob _ engine) stays.1 inJob
      unfold executeStatements
      cases ran : execute engine statement connection with
      | mk next answer =>
          rw [ran] at goesOn ended
          cases answer with
          | ok counted => exact executeStatements_inJob stays.2 (goesOn rfl)
          | error error => exact ⟨(fun ok => by cases ok), ended⟩

/-! ## The end of a job -/

/-- A failing control statement keeps the committed data while a job runs, and so
does a succeeding one that stays in the transaction. -/
theorem executeBatch_release {start base : Data} {connection : Connection Data}
    (inJob : InJob start base connection) :
    (executeBatch engine [.release jobSavepoint] connection).1.committed = base ∧
      ((executeBatch engine [.release jobSavepoint] connection).2.isOk = true →
        (executeBatch engine [.release jobSavepoint] connection).1.transaction =
          some (between connection.visible)) := by
  obtain ⟨committed, data, saved, isOpen, stack⟩ := inJob
  have visible : connection.visible = data := by simp [Connection.visible, isOpen]
  rw [executeBatch_singleton, execute_control rfl, visible]
  cases engine.fault connection.controls with
  | some fault =>
      cases fault with
      | refused error => exact ⟨committed, fun ok => by cases ok⟩
      | aborted error => exact ⟨committed, fun ok => by cases ok⟩
  | none =>
      simp only [executeControl, isOpen, releaseOpen]
      cases found : savepointsFrom jobSavepoint saved with
      | none => exact ⟨committed, fun ok => by cases ok⟩
      | some kept =>
          obtain rfl := stack.bracket_found found
          exact ⟨committed, fun _ => rfl⟩

theorem executeBatch_rollback {start base : Data} {connection : Connection Data}
    (ended : JobEnded start base connection) :
    (executeBatch engine [.rollbackTo jobSavepoint, .release jobSavepoint]
        connection).1.committed = base ∧
      ((executeBatch engine [.rollbackTo jobSavepoint, .release jobSavepoint]
          connection).2.isOk = true →
        (executeBatch engine [.rollbackTo jobSavepoint, .release jobSavepoint]
          connection).1.transaction = some (between start)) := by
  rcases ended with inJob | ⟨committed, autocommit⟩
  · obtain ⟨committed, data, saved, isOpen, stack⟩ := inJob
    unfold executeBatch
    rw [execute_control rfl]
    cases engine.fault connection.controls with
    | some fault =>
        cases fault with
        | refused error => exact ⟨committed, fun ok => by cases ok⟩
        | aborted error => exact ⟨committed, fun ok => by cases ok⟩
    | none =>
        simp only [executeControl, isOpen, rollbackToOpen]
        cases found : savepointsFrom jobSavepoint saved with
        | none => exact ⟨committed, fun ok => by cases ok⟩
        | some kept =>
            obtain rfl := stack.bracket_found found
            exact (@executeBatch_release _ _ start)
              ⟨committed, start, _, rfl, .bracket⟩
  · obtain ⟨next, error, ran, nextCommitted, -⟩ :=
      (@rollbackJob_autocommit _ engine) trivial autocommit
    rw [ran]
    exact ⟨nextCommitted.trans committed, fun ok => by cases ok⟩

/-! ## The row changes of a job -/

/-- Inside a job a control statement looks only at the transaction. -/
theorem executeControl_same {start base : Data} {command : Command Data}
    {connection other : Connection Data} (stays : staysInJob command = true)
    (inJob : InJob start base connection)
    (same : other.transaction = connection.transaction)
    (ok : (executeControl engine command connection).2.isOk = true) :
    (executeControl (faultless engine) command other).2.isOk = true ∧
      (executeControl (faultless engine) command other).1.transaction =
        (executeControl engine command connection).1.transaction := by
  obtain ⟨-, data, saved, isOpen, -⟩ := inJob
  rw [isOpen] at same
  cases command with
  | ordinary behaviour => cases ok
  | begin => simp only [executeControl, isOpen] at ok; cases ok
  | commit => cases stays
  | rollback => cases stays
  | savepoint name =>
      simp only [executeControl, isOpen, same, and_true]
      rfl
  | release name =>
      simp only [executeControl, isOpen, same, releaseOpen] at ok ⊢
      cases found : savepointsFrom name saved with
      | none => rw [found] at ok; cases ok
      | some kept =>
          simp only [Bool.not_true, Bool.and_false, Bool.false_eq_true, ↓reduceIte,
            and_true]
          rfl
  | rollbackTo name =>
      simp only [executeControl, isOpen, same, rollbackToOpen] at ok ⊢
      cases found : savepointsFrom name saved with
      | none => rw [found] at ok; cases ok
      | some kept =>
          cases kept with
          | nil => rw [found] at ok; cases ok
          | cons entry older => exact ⟨rfl, rfl⟩

theorem execute_same {start base : Data} {command : Command Data}
    {connection other : Connection Data} (stays : staysInJob command = true)
    (inJob : InJob start base connection)
    (same : other.transaction = connection.transaction)
    (ok : (execute engine command connection).2.isOk = true) :
    (execute (faultless engine) command other).2.isOk = true ∧
      (execute (faultless engine) command other).1.transaction =
        (execute engine command connection).1.transaction := by
  cases kind : command.isOrdinary with
  | false =>
      have counted : InJob start base
          { connection with controls := connection.controls + 1 } :=
        { committed_eq := inJob.committed_eq, isOpen := inJob.isOpen }
      rw [execute_control kind] at ok ⊢
      rw [execute_control kind]
      cases faulty : engine.fault connection.controls with
      | none =>
          rw [faulty] at ok
          exact executeControl_same stays counted same ok
      | some fault =>
          rw [faulty] at ok
          cases fault with
          | refused error => cases ok
          | aborted error => cases ok
  | true =>
      cases command with
      | ordinary behaviour =>
          obtain ⟨-, data, saved, isOpen, -⟩ := inJob
          rw [isOpen] at same
          have visible : connection.visible = data := by
            simp [Connection.visible, isOpen]
          have otherVisible : other.visible = data := by simp [Connection.visible, same]
          cases ran : behaviour data with
          | done changes after =>
              simp only [execute, executeOrdinary, visible, otherVisible, ran, isOpen, same,
                and_true]
              rfl
          | failed error left =>
              simp only [execute, executeOrdinary, visible, ran, isOpen] at ok
              cases ok
          | aborted error =>
              simp only [execute, executeOrdinary, visible, ran] at ok
              cases ok
      | _ => cases kind

theorem executeStatements_same {start base : Data} :
    ∀ {statements : List (Command Data)} {changes : List Nat}
      {connection other : Connection Data},
      (∀ statement ∈ statements, staysInJob statement = true) →
      InJob start base connection → other.transaction = connection.transaction →
      (executeStatements engine statements changes connection).2.isOk = true →
        ∃ last, executeBatch (faultless engine) statements other = (last, .ok ()) ∧
          last.transaction =
            (executeStatements engine statements changes connection).1.transaction
  | [], changes, connection, other, _, _, same, _ => ⟨other, rfl, same⟩
  | statement :: rest, changes, connection, other, stays, inJob, same, ok => by
      rw [List.forall_mem_cons] at stays
      have goesOn := ((@execute_inJob _ engine) stays.1 inJob).1
      have step := (@execute_same _ engine) stays.1 inJob same
      unfold executeStatements at ok ⊢
      unfold executeBatch
      cases ran : execute engine statement connection with
      | mk next answer =>
          rw [ran] at goesOn step ok
          cases answer with
          | error error => cases ok
          | ok counted =>
              obtain ⟨otherOk, sameNext⟩ := step rfl
              cases ranOther : execute (faultless engine) statement other with
              | mk otherNext otherAnswer =>
                  rw [ranOther] at otherOk sameNext
                  cases otherAnswer with
                  | error error => cases otherOk
                  | ok otherCounted =>
                      exact executeStatements_same stays.2 (goesOn rfl) sameNext ok

/-- The statements that a job ran through are its row changes. -/
theorem rowChanges_of_ok {base : Data} {statements : List (Command Data)} {data : Data}
    {connection : Connection Data}
    (stays : ∀ statement ∈ statements, staysInJob statement = true)
    (committed : connection.committed = base)
    (isOpen : connection.transaction = some (inside data data))
    (ok : (executeStatements engine statements [] connection).2.isOk = true) :
    rowChanges engine statements data =
      some (executeStatements engine statements [] connection).1.visible := by
  have inJob : InJob data base connection := ⟨committed, data, _, isOpen, .bracket⟩
  obtain ⟨last, ran, same⟩ := (@executeStatements_same _ _ _ _ _ _ _
    { committed := data
      transaction := some (inside data data)
      changes := 0
      controls := 2 }) stays inJob isOpen.symm ok
  obtain ⟨-, final, saved, finalOpen, -⟩ :=
    ((@executeStatements_inJob _ engine) stays inJob).1 ok
  have started : executeBatch (faultless engine)
      (.begin :: .savepoint jobSavepoint :: statements)
      { committed := data, transaction := none, changes := 0, controls := 0 } =
        (last, .ok ()) := ran
  unfold rowChanges
  rw [started]
  simp only [Connection.visible, same, finalOpen]

/-! ## Jobs and groups -/

/-- What a job leaves in the shared transaction, by its answer. -/
structure JobAnswered (engine : TransactionEngine Data) (statements : List (Command Data))
    (base data : Data) (after : Connection Data)
    (result : Except Error (Result (List Nat))) : Prop where
  committed_eq : after.committed = base
  all : ∀ changes, result = .ok (.ok changes) → ∃ final,
    after.transaction = some (between final) ∧
      rowChanges engine statements data = some final
  none : ∀ error, result = .ok (.error error) → after.transaction = some (between data)

theorem executeGroupJob_answered {base data : Data} {statements : List (Command Data)}
    {connection : Connection Data}
    (stays : ∀ statement ∈ statements, staysInJob statement = true)
    (committed : connection.committed = base)
    (isOpen : connection.transaction = some (between data)) :
    JobAnswered engine statements base data
      (executeGroupJob engine statements connection).1
      (executeGroupJob engine statements connection).2 := by
  unfold executeGroupJob
  cases faulty : engine.fault connection.controls with
  | some fault =>
      obtain ⟨next, ran, nextCommitted, -⟩ :=
        (@executeBatch_fault _ _ (.savepoint jobSavepoint) []) rfl faulty
      rw [ran]
      exact ⟨nextCommitted.trans committed, nofun, nofun⟩
  | none =>
      rw [savepointJob_ok isOpen faulty]
      simp only [executeGroupStatements_eq]
      have inJob : InJob data base { connection with
          transaction := some (inside data data), controls := connection.controls + 1 } :=
        ⟨committed, data, _, rfl, .bracket⟩
      obtain ⟨stillInJob, ended⟩ :=
        (@executeStatements_inJob _ engine _ _ _ []) stays inJob
      have changes := (@rowChanges_of_ok _ engine base _ _ { connection with
          transaction := some (inside data data), controls := connection.controls + 1 })
        stays committed rfl
      cases ran : executeStatements engine statements [] { connection with
          transaction := some (inside data data)
          controls := connection.controls + 1 } with
      | mk next answer =>
          rw [ran] at stillInJob ended changes
          cases answer with
          | ok counted =>
              obtain ⟨lastCommitted, lastOpen⟩ :=
                (@executeBatch_release _ engine) (stillInJob rfl)
              cases released : executeBatch engine [.release jobSavepoint] next with
              | mk last outcome =>
                  rw [released] at lastCommitted lastOpen
                  simp only [released]
                  cases outcome with
                  | error error => exact ⟨lastCommitted, nofun, nofun⟩
                  | ok done =>
                      exact ⟨lastCommitted,
                        fun _ _ => ⟨_, lastOpen rfl, changes rfl⟩, nofun⟩
          | error error =>
              obtain ⟨lastCommitted, lastOpen⟩ :=
                (@executeBatch_rollback _ engine) ended
              cases undone : executeBatch engine
                  [.rollbackTo jobSavepoint, .release jobSavepoint] next with
              | mk last outcome =>
                  rw [undone] at lastCommitted lastOpen
                  simp only [undone]
                  cases outcome with
                  | error physical => exact ⟨lastCommitted, nofun, nofun⟩
                  | ok done => exact ⟨lastCommitted, nofun, fun _ _ => lastOpen rfl⟩

/-- The jobs of a group: without a fatal error the shared transaction holds what the
answers say. -/
theorem runGroupJobs_answered {base : Data} :
    ∀ {jobs : List (GroupableWrite Data Channel)} {data : Data}
      {connection : Connection Data},
      (∀ job ∈ jobs, ∀ statement ∈ job.statements, staysInJob statement = true) →
      connection.committed = base → connection.transaction = some (between data) →
        ∃ after responses fatal,
          runGroupJobs engine none jobs connection = (after, responses, fatal) ∧
          after.committed = base ∧
          responses.map Prod.fst = jobs.map GroupableWrite.response ∧
          (fatal = none → ∃ final, after.transaction = some (between final) ∧
            Acknowledged engine jobs responses data final)
  | [], data, connection, _, committed, isOpen =>
      ⟨connection, [], none, rfl, committed, rfl, fun _ => ⟨data, isOpen, .nil data⟩⟩
  | job :: rest, data, connection, stays, committed, isOpen => by
      rw [List.forall_mem_cons] at stays
      have answered := (@executeGroupJob_answered _ engine) stays.1 committed isOpen
      unfold runGroupJobs
      cases ran : executeGroupJob engine job.statements connection with
      | mk next result =>
          rw [ran] at answered
          cases result with
          | error error =>
              simp only [runGroupJobs_fatal]
              exact ⟨next, _, _, rfl, answered.committed_eq,
                by simp [Function.comp_def], fun ok => by cases ok⟩
          | ok result =>
              cases result with
              | ok changes =>
                  obtain ⟨middle, nextOpen, all⟩ := answered.all changes rfl
                  obtain ⟨after, responses, fatal, ranRest, restCommitted, channels, sound⟩ :=
                    runGroupJobs_answered stays.2 answered.committed_eq nextOpen
                  simp only [ranRest]
                  refine ⟨after, _, fatal, rfl, restCommitted, by simp [channels], ?_⟩
                  intro noFatal
                  obtain ⟨final, finalOpen, acknowledged⟩ := sound noFatal
                  exact ⟨final, finalOpen, .ok all acknowledged⟩
              | error own =>
                  obtain ⟨after, responses, fatal, ranRest, restCommitted, channels, sound⟩ :=
                    runGroupJobs_answered stays.2 answered.committed_eq
                      (answered.none own rfl)
                  simp only [ranRest]
                  refine ⟨after, _, fatal, rfl, restCommitted, by simp [channels], ?_⟩
                  intro noFatal
                  obtain ⟨final, finalOpen, acknowledged⟩ := sound noFatal
                  exact ⟨final, finalOpen, .error acknowledged⟩

/-- Answers that are all errors are sound when nothing changed. -/
theorem acknowledged_errors (engine : TransactionEngine Data) (data : Data) :
    ∀ {jobs : List (GroupableWrite Data Channel)}
      {responses : List (GroupWriteResponse Channel)},
      responses.map Prod.fst = jobs.map GroupableWrite.response →
      (∀ response ∈ responses, response.2.isOk = false) →
        Acknowledged engine jobs responses data data
  | [], responses, channels, _ => by
      rw [List.map_nil, List.map_eq_nil_iff] at channels
      rw [channels]
      exact .nil data
  | job :: rest, [], channels, _ => by cases channels
  | job :: rest, (channel, answer) :: responses, channels, errors => by
      rw [List.map_cons, List.map_cons] at channels
      obtain ⟨rfl, sameRest⟩ := List.cons.inj channels
      rw [List.forall_mem_cons] at errors
      cases answer with
      | ok changes => cases errors.1
      | error error => exact .error (acknowledged_errors engine data sameRest errors.2)

/-- The commit of the shared transaction. -/
theorem commitTransaction_between {data : Data} {connection : Connection Data}
    (isOpen : connection.transaction = some (between data)) :
    (commitTransaction engine connection).1.transaction = none ∧
      (commitTransaction engine connection).1.committed =
        if (commitTransaction engine connection).2.isOk then data
        else connection.committed := by
  cases faulty : engine.fault connection.controls with
  | some fault =>
      obtain ⟨next, ran, committed, closed, -⟩ := commit_fault faulty
      rw [ran]
      exact ⟨closed, committed⟩
  | none =>
      cases violated : engine.pending data with
      | false =>
          rw [commit_ok isOpen faulty violated]
          exact ⟨rfl, rfl⟩
      | true =>
          have refused : commitTransaction engine connection =
              ({ connection with transaction := none, controls := connection.controls + 1 },
                .error constraintViolation) := by
            simp [commitTransaction, executeBatch, execute, faulty, executeControl, isOpen,
              commitOpen, between, violated, dropTransaction, Connection.rolledBack]
          rw [refused]
          exact ⟨rfl, rfl⟩

/-- The answers of one group are sound. -/
theorem groupTransaction_acknowledged {jobs : List (GroupableWrite Data Channel)}
    {connection : Connection Data}
    (stays : ∀ job ∈ jobs, ∀ statement ∈ job.statements, staysInJob statement = true)
    (autocommit : connection.transaction = none) :
    (groupTransaction engine jobs connection).1.transaction = none ∧
      Acknowledged engine jobs (groupTransaction engine jobs connection).2.responses
        connection.committed (groupTransaction engine jobs connection).1.committed := by
  unfold groupTransaction
  cases faulty : engine.fault connection.controls with
  | some fault =>
      obtain ⟨next, ran, committed, closed, -⟩ := begin_fault autocommit faulty
      simp only [ran, committed]
      refine ⟨closed, acknowledged_errors engine _ (by simp [Function.comp_def]) ?_⟩
      rw [List.forall_mem_map]
      intro job _
      rfl
  | none =>
      simp only [beginTransaction_ok autocommit faulty]
      obtain ⟨last, responses, fatal, ran, committed, channels, sound⟩ :=
        (@runGroupJobs_answered _ _ engine connection.committed _ connection.committed
          { connection with
            transaction := some (between connection.committed)
            controls := connection.controls + 1 }) stays rfl rfl
      simp only [ran]
      cases fatal with
      | some error =>
          simp only [finishGroup]
          refine ⟨rfl, ?_⟩
          rw [show (dropTransaction last).committed = last.committed from rfl, committed]
          refine acknowledged_errors engine _ ?_ ?_
          · simpa [Function.comp_def] using channels
          · rw [List.forall_mem_map]
            intro response _
            rfl
      | none =>
          obtain ⟨final, isOpen, acknowledged⟩ := sound rfl
          obtain ⟨closed, stored⟩ := (@commitTransaction_between _ engine) isOpen
          unfold finishGroup
          cases ranCommit : commitTransaction engine last with
          | mk done answer =>
              rw [ranCommit] at closed stored
              cases answer with
              | ok value =>
                  refine ⟨closed, ?_⟩
                  rw [show done.committed = final from stored]
                  exact acknowledged
              | error error =>
                  refine ⟨closed, ?_⟩
                  rw [show done.committed = last.committed from stored, committed]
                  refine acknowledged_errors engine _ ?_ ?_
                  · rw [← channels, List.map_map]
                    apply List.map_congr_left
                    rintro ⟨channel, own⟩ -
                    cases own <;> rfl
                  · rw [List.forall_mem_map]
                    rintro ⟨channel, own⟩ -
                    cases own <;> rfl

/-! ## Whole runs -/

theorem runGroups_autocommit {groups : List (List (GroupableWrite Data Channel))}
    {connection : Connection Data}
    (stays : ∀ group ∈ groups, ∀ job ∈ group, ∀ statement ∈ job.statements,
      staysInJob statement = true)
    (autocommit : connection.transaction = none) :
    (runGroups engine groups connection).transaction = none := by
  induction groups generalizing connection with
  | nil => exact autocommit
  | cons group rest inductionHypothesis =>
      rw [List.forall_mem_cons] at stays
      exact inductionHypothesis stays.2
        ((@groupTransaction_acknowledged _ _ engine) stays.1 autocommit).1

/-- In every run of groups whose statements stay in their jobs, and for every fault
of the engine, each group starts and ends in autocommit mode and its answers are
sound. -/
theorem acknowledgements_sound (engine : TransactionEngine Data)
    (groups : List (List (GroupableWrite Data Channel)))
    (stays : ∀ group ∈ groups, ∀ job ∈ group, ∀ statement ∈ job.statements,
      staysInJob statement = true)
    (connection : Connection Data) (autocommit : connection.transaction = none) :
    ∀ earlier group later, groups = earlier ++ group :: later →
      (runGroups engine earlier connection).transaction = none ∧
        (runGroups engine (earlier ++ [group]) connection).transaction = none ∧
        Acknowledged engine group
          (groupTransaction engine group
            (runGroups engine earlier connection)).2.responses
          (runGroups engine earlier connection).committed
          (groupTransaction engine group
            (runGroups engine earlier connection)).1.committed := by
  rintro earlier group later rfl
  have earlierStays := fun other member => stays other (List.mem_append_left _ member)
  have groupStays := stays group (by simp)
  have before := (@runGroups_autocommit _ _ engine) earlierStays autocommit
  have after := (@runGroups_autocommit _ _ engine (earlier ++ [group]))
    (by
      intro other member
      rcases List.mem_append.mp member with inEarlier | isGroup
      · exact earlierStays other inEarlier
      · obtain rfl := List.mem_singleton.mp isGroup
        exact groupStays) autocommit
  exact ⟨before, after,
    ((@groupTransaction_acknowledged _ _ engine) groupStays before).2⟩

/-- A job with savepoints of its own, and one that fails behind one, in two groups. -/
theorem nested_savepoints_acknowledged :
    Acknowledged (faultAt 99 storageFailed)
      [⟨[insertRows 1, .savepoint "inner", insertRows 2, .rollbackTo "inner"], 0⟩,
        ⟨[.savepoint "inner", insertRows 4, violateConstraint], 1⟩]
      [(0, .ok [1, 1, 2, 2]), (1, .error constraintViolation)] 5 6 :=
  (acknowledgements_sound (faultAt 99 storageFailed)
    [[⟨[insertRows 5], 7⟩],
      [⟨[insertRows 1, .savepoint "inner", insertRows 2, .rollbackTo "inner"], 0⟩,
        ⟨[.savepoint "inner", insertRows 4, violateConstraint], 1⟩]]
    (by simp [staysInJob, insertRows, violateConstraint, jobSavepoint]; decide)
    (idleConnection 0) rfl [[⟨[insertRows 5], 7⟩]] _ [] rfl).2.2

/-! ## Statements that leave their job -/

theorem Acknowledged.unchanged {jobs : List (GroupableWrite Data Channel)}
    {responses : List (GroupWriteResponse Channel)} {before after : Data}
    (acknowledged : Acknowledged engine jobs responses before after)
    (errors : ∀ response ∈ responses, response.2.isOk = false) : after = before := by
  induction acknowledged with
  | nil data => rfl
  | ok all rest inductionHypothesis =>
      rw [List.forall_mem_cons] at errors
      cases errors.1
  | error rest inductionHypothesis =>
      rw [List.forall_mem_cons] at errors
      exact inductionHypothesis errors.2

/-- Each kind of statement that leaves its job breaks the answers of some group: a
`COMMIT` commits the job before it, which is told of an error; what follows a
`ROLLBACK` commits by itself; and a second savepoint of the same name hides the first
from the rollback of a failed job. -/
theorem control_statement_breaks_acknowledgement :
    (¬ Acknowledged (faultAt 99 storageFailed) [⟨[insertRows 1], 0⟩, ⟨[.commit], 1⟩]
      (groupTransaction (faultAt 99 storageFailed)
        [⟨[insertRows 1], 0⟩, ⟨[.commit], 1⟩] (idleConnection 0)).2.responses 0
      (groupTransaction (faultAt 99 storageFailed)
        [⟨[insertRows 1], 0⟩, ⟨[.commit], 1⟩] (idleConnection 0)).1.committed) ∧
    (¬ Acknowledged (faultAt 99 storageFailed) [⟨[.rollback, insertRows 1], 0⟩]
      (groupTransaction (faultAt 99 storageFailed)
        [⟨[.rollback, insertRows 1], 0⟩] (idleConnection 0)).2.responses 0
      (groupTransaction (faultAt 99 storageFailed)
        [⟨[.rollback, insertRows 1], 0⟩] (idleConnection 0)).1.committed) ∧
    ¬ Acknowledged (faultAt 99 storageFailed)
      [⟨[insertRows 1, .savepoint jobSavepoint, violateConstraint], 0⟩]
      (groupTransaction (faultAt 99 storageFailed)
        [⟨[insertRows 1, .savepoint jobSavepoint, violateConstraint], 0⟩]
        (idleConnection 0)).2.responses 0
      (groupTransaction (faultAt 99 storageFailed)
        [⟨[insertRows 1, .savepoint jobSavepoint, violateConstraint], 0⟩]
        (idleConnection 0)).1.committed := by
  refine ⟨?_, ?_, ?_⟩
  all_goals
    intro acknowledged
    exact absurd (acknowledged.unchanged (by decide)) (by decide)

end Csgdb.Pool
