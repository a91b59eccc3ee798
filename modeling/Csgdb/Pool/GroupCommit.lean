/-
Module: Csgdb.Pool.GroupCommit
Purpose: Group commit: every job of a group runs behind a savepoint of one shared
  transaction.
Trusted boundary: none
Main exports: GroupableWrite, GroupCommitCompletion, executeGroupJob, runGroupJobs,
  finishGroup, executeGroupCommit
-/
import Csgdb.Pool.Metrics
import Csgdb.Storage.Connection

namespace Csgdb.Pool

open Storage

variable {Data Channel : Type}

/-- A queued job of owned statements, with the channel of its answer. -/
structure GroupableWrite (Data Channel : Type) where
  statements : List (Command Data)
  response : Channel

abbrev GroupWriteResponse (Channel : Type) := Channel × Result (List Nat)

structure GroupCommitCompletion (Channel : Type) where
  committed : Bool
  responses : List (GroupWriteResponse Channel)

/-- The name of the savepoint around a job. -/
def jobSavepoint : String := "csgdb_group_commit_job"

variable (engine : TransactionEngine Data)

/-- The statements of a job behind its savepoint.  The outer result is the
physical one, which ends the group; the inner one is the answer of the job. -/
def executeGroupStatements : List (Command Data) → List Nat → Connection Data →
    Connection Data × Except Error (Result (List Nat))
  | [], changes, connection =>
      match executeBatch engine [.release jobSavepoint] connection with
      | (next, .error error) => (next, .error error)
      | (next, .ok ()) => (next, .ok (.ok changes))
  | statement :: rest, changes, connection =>
      match execute engine statement connection with
      | (next, .ok statementChanges) =>
          executeGroupStatements rest (changes ++ [statementChanges]) next
      | (next, .error error) =>
          match executeBatch engine [.rollbackTo jobSavepoint, .release jobSavepoint]
              next with
          | (last, .error physical) => (last, .error physical)
          | (last, .ok ()) => (last, .ok (.error error))

def executeGroupJob (statements : List (Command Data)) (connection : Connection Data) :
    Connection Data × Except Error (Result (List Nat)) :=
  match executeBatch engine [.savepoint jobSavepoint] connection with
  | (next, .error error) => (next, .error error)
  | (next, .ok ()) => executeGroupStatements engine statements [] next

/-- The loop over the jobs.  After a fatal error the remaining jobs are not run. -/
def runGroupJobs : Option Error → List (GroupableWrite Data Channel) → Connection Data →
    Connection Data × List (GroupWriteResponse Channel) × Option Error
  | fatal, [], connection => (connection, [], fatal)
  | some error, job :: rest, connection =>
      let (last, responses, fatal) := runGroupJobs (some error) rest connection
      (last, (job.response, .error error) :: responses, fatal)
  | none, job :: rest, connection =>
      match executeGroupJob engine job.statements connection with
      | (next, .ok result) =>
          let (last, responses, fatal) := runGroupJobs none rest next
          (last, (job.response, result) :: responses, fatal)
      | (next, .error error) =>
          let (last, responses, fatal) := runGroupJobs (some error) rest next
          (last, (job.response, .error error) :: responses, fatal)

/-- `*result = Err(error.clone())` for every response that is still a success. -/
def failSuccess (error : Error) (response : GroupWriteResponse Channel) :
    GroupWriteResponse Channel :=
  match response.2 with
  | .ok _ => (response.1, .error error)
  | .error own => (response.1, .error own)

/-- The end of the shared transaction. -/
def finishGroup (responses : List (GroupWriteResponse Channel)) (fatal : Option Error)
    (connection : Connection Data) : Connection Data × GroupCommitCompletion Channel :=
  match fatal with
  | some error =>
      (dropTransaction connection,
        { committed := false
          responses := responses.map fun response => (response.1, .error error) })
  | none =>
      match commitTransaction engine connection with
      | (next, .ok ()) =>
          (next,
            { committed := responses.any fun response => response.2.isOk
              responses := responses })
      | (next, .error error) =>
          (next, { committed := false, responses := responses.map (failSuccess error) })

/-- The shared transaction of a group. -/
def groupTransaction (jobs : List (GroupableWrite Data Channel))
    (connection : Connection Data) : Connection Data × GroupCommitCompletion Channel :=
  match beginTransaction engine connection with
  | (next, .error error) =>
      (next,
        { committed := false
          responses := jobs.map fun job => (job.response, .error error) })
  | (next, .ok ()) =>
      let (last, responses, fatal) := runGroupJobs engine none jobs next
      finishGroup engine responses fatal last

def executeGroupCommit (jobs : List (GroupableWrite Data Channel))
    (connection : Connection Data) (metrics : PoolMetrics) :
    Connection Data × PoolMetrics × GroupCommitCompletion Channel :=
  let started := metrics.groupStarted jobs.length
  let (next, completion) := groupTransaction engine jobs connection
  (next, started.completed jobs.length, completion)

end Csgdb.Pool
