/-
Module: Csgdb.Proofs.History
Purpose: Where every call that submits a job and every accepted job is, in every
  interleaving: no job is lost, duplicated or answered twice.
Trusted boundary: none
Main exports: Recorded, Recorded.move, Recorded.reaches
-/
import Csgdb.Proofs.Wakeups

namespace Csgdb.Pool

open Storage

variable {Data Value Channel : Type} {pool : PoolConfiguration Data}

/-! ## Channels of a group -/

theorem runGroupJobs_channels (engine : TransactionEngine Data) :
    ∀ (fatal : Option Error) (jobs : List (GroupableWrite Data Channel))
      (connection : Connection Data),
      (runGroupJobs engine fatal jobs connection).2.1.map Prod.fst =
        jobs.map GroupableWrite.response
  | none, [], _ => rfl
  | some _, [], _ => rfl
  | some error, job :: rest, connection => by
      simp only [runGroupJobs, List.map_cons]
      rw [runGroupJobs_channels engine (some error) rest connection]
  | none, job :: rest, connection => by
      unfold runGroupJobs
      split
      · simp only [List.map_cons]
        rw [runGroupJobs_channels engine none rest]
      · simp only [List.map_cons]
        rw [runGroupJobs_channels engine (some _) rest]

theorem failSuccess_channel (error : Error) (response : GroupWriteResponse Channel) :
    (failSuccess error response).1 = response.1 := by
  unfold failSuccess
  split <;> rfl

/-- A group answers every one of its jobs, in their order. -/
theorem groupTransaction_channels (engine : TransactionEngine Data)
    (jobs : List (GroupableWrite Data Channel)) (connection : Connection Data) :
    (groupTransaction engine jobs connection).2.responses.map Prod.fst =
      jobs.map GroupableWrite.response := by
  unfold groupTransaction
  split
  · simp
  · next after _ =>
      have answered := runGroupJobs_channels engine none jobs after
      simp only [finishGroup]
      split
      · rw [← answered, List.map_map]
        rfl
      · split
        · exact answered
        · rw [← answered, List.map_map]
          exact List.map_congr_left fun response _ => failSuccess_channel _ response

/-- The transaction of `execute_group_commit`. -/
theorem executeGroupCommit_transaction {engine : TransactionEngine Data}
    {jobs : List (GroupableWrite Data Channel)} {connection after : Connection Data}
    {metrics counted : PoolMetrics} {completion : GroupCommitCompletion Channel}
    (executed : executeGroupCommit engine jobs connection metrics =
      (after, counted, completion)) :
    groupTransaction engine jobs connection = (after, completion) := by
  have first := congrArg Prod.fst executed
  have second := congrArg (fun result => result.2.2) executed
  exact Prod.ext first second

theorem executeGroupCommit_channels {engine : TransactionEngine Data}
    {jobs : List (GroupableWrite Data Channel)} {connection after : Connection Data}
    {metrics counted : PoolMetrics} {completion : GroupCommitCompletion Channel}
    (executed : executeGroupCommit engine jobs connection metrics =
      (after, counted, completion)) :
    completion.responses.map Prod.fst = jobs.map GroupableWrite.response := by
  have channels := groupTransaction_channels engine jobs connection
  rwa [executeGroupCommit_transaction executed] at channels

/-! ## Calls -/

namespace Thread

/-- The call is about to push its job. -/
def pushing (channel : Nat) (thread : Thread Data Value) : Nat :=
  match thread.control with
  | .push _ _ job _ => if job.response == channel then 1 else 0
  | _ => 0

/-- The call waits for the answer of its job, which is in the queue or beyond. -/
def awaiting (channel : Nat) (thread : Thread Data Value) : Nat :=
  match thread.control with
  | .accepted own _ => if own == channel then 1 else 0
  | .notifying own _ => if own == channel then 1 else 0
  | .receiving own _ => if own == channel then 1 else 0
  | _ => 0

/-- The call was refused and has not returned yet. -/
def refusing (channel : Nat) (thread : Thread Data Value) : Nat :=
  match thread.control with
  | .refused own _ _ => if own == channel then 1 else 0
  | _ => 0

theorem awaiting_eq_zero (thread : Thread Data Value)
    (outside : thread.control.place ≠ .submission) (channel : Nat) :
    thread.awaiting channel = 0 := by
  unfold awaiting
  cases control : thread.control with
  | accepted | notifying | receiving =>
      rw [control] at outside
      exact absurd rfl outside
  | _ => rfl

theorem refusing_eq_zero (thread : Thread Data Value)
    (outside : thread.control.place ≠ .submission) (channel : Nat) :
    thread.refusing channel = 0 := by
  unfold refusing
  cases control : thread.control with
  | refused =>
      rw [control] at outside
      exact absurd rfl outside
  | _ => rfl

theorem AtRest.outside {thread : Thread Data Value} (rest : thread.AtRest) :
    thread.control.place ≠ .submission := by
  obtain ⟨⟨outcome, ended⟩, -⟩ := rest
  rw [ended]
  intro other
  cases other

end Thread

/-- Whether a call of this number has started. -/
def started (channels channel : Nat) : Nat := if channel < channels then 1 else 0

theorem started_le_one (channels channel : Nat) : started channels channel ≤ 1 := by
  unfold started
  split <;> omega

theorem started_succ (channels channel : Nat) :
    started (channels + 1) channel =
      started channels channel + if channels == channel then 1 else 0 := by
  unfold started
  by_cases same : channels = channel
  · subst same
    simp
  · have other : (channels == channel) = false := by simpa using same
    rw [other]
    split <;> split <;> first | rfl | omega

theorem Woken.pushing_eq {thread thread' : Thread Data Value} (woken : Woken thread thread')
    (channel : Nat) : thread'.pushing channel = thread.pushing channel := by
  cases woken with
  | untouched => rfl
  | reader => unfold Thread.wakeReader; split <;> simp_all [Thread.pushing]
  | submitter => unfold Thread.wakeSubmitter; split <;> simp_all [Thread.pushing]

theorem Woken.awaiting_eq {thread thread' : Thread Data Value}
    (woken : Woken thread thread') (channel : Nat) :
    thread'.awaiting channel = thread.awaiting channel := by
  cases woken with
  | untouched => rfl
  | reader => unfold Thread.wakeReader; split <;> simp_all [Thread.awaiting]
  | submitter => unfold Thread.wakeSubmitter; split <;> simp_all [Thread.awaiting]

theorem Woken.refused_eq {thread thread' : Thread Data Value}
    (woken : Woken thread thread') {channel : Nat} {error : Error}
    {resume : Resume Data Value} (after : thread'.control = .refused channel error resume) :
    thread.control = .refused channel error resume := by
  cases woken with
  | untouched => exact after
  | reader =>
      unfold Thread.wakeReader at after
      split at after
      · cases after
      · exact after
  | submitter =>
      unfold Thread.wakeSubmitter at after
      split at after
      · cases after
      · exact after

/-- How often a channel occurs among jobs, or among recorded results. -/
def jobCount (channel : Nat) (jobs : List (PoolJob Data Value)) : Nat :=
  (jobs.map WriteJob.response).count channel

def entryCount {Entry : Type} (channel : Nat) (entries : List (Nat × Entry)) : Nat :=
  (entries.map Prod.fst).count channel

theorem jobCount_append (channel : Nat) (jobs : List (PoolJob Data Value))
    (job : PoolJob Data Value) :
    jobCount channel (jobs ++ [job]) =
      jobCount channel jobs + if job.response == channel then 1 else 0 := by
  simp [jobCount, List.count_singleton]

theorem entryCount_append {Entry : Type} (channel : Nat) (entries : List (Nat × Entry))
    (entry : Nat × Entry) :
    entryCount channel (entries ++ [entry]) =
      entryCount channel entries + if entry.1 == channel then 1 else 0 := by
  simp [entryCount, List.count_singleton]

/-! ## Steps of threads -/

/-- A call that has started is about to push, or was admitted, or was refused. -/
theorem ThreadStep.admission {shared shared' : Shared Data Value}
    {thread thread' : Thread Data Value} {notice : Notice}
    (step : ThreadStep pool shared thread shared' thread' notice) (channel : Nat) :
    thread'.pushing channel + jobCount channel shared'.admitted +
        entryCount channel shared'.refused + started shared.channels channel =
      thread.pushing channel + jobCount channel shared.admitted +
        entryCount channel shared.refused + started shared'.channels channel := by
  cases step with
  | submitRefused place submits nested =>
      simp only [Thread.pushing, Thread.goesOn, place, started_succ, entryCount_append]
      omega
  | submits place submits client outside =>
      simp only [Thread.pushing, place, started_succ,
        Program.submission_response submits]
      omega
  | accepted place attempt pushed =>
      simp only [Thread.pushing, place, jobCount_append]
      omega
  | refused place attempt pushed =>
      simp only [Thread.pushing, place, entryCount_append]
      omega
  | checkedOut wants taken =>
      have silent : thread.pushing channel = 0 := by
        unfold Thread.wantsReader at wants
        split at wants <;> simp_all [Thread.pushing]
      rw [silent]
      rfl
  | @readEntered _ _ _ blocking pools place reads entered =>
      cases blocking <;> simp [Thread.pushing, place]
  | _ => simp_all [Thread.pushing, Thread.goesOn, Shared.updateMetrics]

/-- An admitted or refused call waits for its answer or its return, or has returned. -/
theorem ThreadStep.return_counts {shared shared' : Shared Data Value}
    {thread thread' : Thread Data Value} {notice : Notice}
    (step : ThreadStep pool shared thread shared' thread' notice) (channel : Nat) :
    thread'.awaiting channel + thread'.refusing channel +
        entryCount channel shared'.returned + jobCount channel shared.admitted +
        entryCount channel shared.refused =
      thread.awaiting channel + thread.refusing channel +
        entryCount channel shared.returned + jobCount channel shared'.admitted +
        entryCount channel shared'.refused := by
  cases step with
  | submitRefused place submits nested =>
      simp only [Thread.awaiting, Thread.refusing, Thread.goesOn, place, entryCount_append]
      omega
  | accepted place attempt pushed =>
      simp only [Thread.awaiting, Thread.refusing, place, jobCount_append]
      omega
  | refused place attempt pushed =>
      simp only [Thread.awaiting, Thread.refusing, place, entryCount_append]
      omega
  | refusedReturns place =>
      simp only [Thread.awaiting, Thread.refusing, Thread.goesOn, Shared.updateMetrics,
        place, entryCount_append]
      omega
  | receives place arrived =>
      simp only [Thread.awaiting, Thread.refusing, Thread.goesOn, place, entryCount_append]
      omega
  | disconnected place silent dropped =>
      simp only [Thread.awaiting, Thread.refusing, Thread.goesOn, place, entryCount_append]
      omega
  | checkedOut wants taken =>
      have silent : thread.awaiting channel = 0 ∧ thread.refusing channel = 0 := by
        unfold Thread.wantsReader at wants
        split at wants <;> simp_all [Thread.awaiting, Thread.refusing]
      rw [silent.1, silent.2]
      rfl
  | @readEntered _ _ _ blocking pools place reads entered =>
      cases blocking <;> simp [Thread.awaiting, Thread.refusing, place]
  | _ =>
      simp_all [Thread.awaiting, Thread.refusing, Thread.goesOn, Shared.updateMetrics]

/-! ## Records only grow -/

/-- Records are only added to. -/
structure Grows (before after : Shared Data Value) : Prop where
  admitted : before.admitted <+: after.admitted
  refused : before.refused <+: after.refused
  handled : before.handled <+: after.handled
  sent : before.sent <+: after.sent
  returned : before.returned <+: after.returned

theorem Grows.refl (shared : Shared Data Value) : Grows shared shared := by
  constructor <;> exact List.prefix_rfl

theorem Grows.trans {first second third : Shared Data Value} (earlier : Grows first second)
    (later : Grows second third) : Grows first third where
  admitted := earlier.admitted.trans later.admitted
  refused := earlier.refused.trans later.refused
  handled := earlier.handled.trans later.handled
  sent := earlier.sent.trans later.sent
  returned := earlier.returned.trans later.returned

theorem ThreadStep.grows {shared shared' : Shared Data Value}
    {thread thread' : Thread Data Value} {notice : Notice}
    (step : ThreadStep pool shared thread shared' thread' notice) : Grows shared shared' := by
  cases step <;> constructor <;>
    first
    | exact List.prefix_rfl
    | exact List.prefix_append _ _

theorem WriterStep.grows {shared shared' : Shared Data Value}
    {thread thread' : Thread Data Value} {notice : Notice}
    (step : WriterStep pool shared thread shared' thread' notice) : Grows shared shared' := by
  cases step <;> constructor <;>
    first
    | exact List.prefix_rfl
    | exact List.prefix_append _ _

theorem Notified.grows {notice : Notice} {state next : System Data Value}
    (notified : Notified notice state next) : Grows state.shared next.shared := by
  rw [notified.shared_eq.1]
  constructor <;> exact List.prefix_rfl

theorem Move.grows {state next : System Data Value} (move : Move pool state next) :
    Grows state.shared next.shared := by
  cases move with
  | step step =>
      cases step with
      | thread step notified => exact step.grows.trans notified.grows
      | writer step notified => exact step.grows.trans notified.grows
  | disturbance disturbance =>
      cases disturbance <;> constructor <;> exact List.prefix_rfl

theorem Grows.reaches {state next : System Data Value} (run : Reaches pool state next) :
    Grows state.shared next.shared := by
  induction run with
  | refl => exact .refl _
  | tail _ move inductionHypothesis => exact inductionHypothesis.trans move.grows

/-! ## Steps of the writer -/

theorem WriterPhase.inFlight_ofTaken
    (taken : WriteQueue.Taken (ExclusiveOperation Data Value) Data Nat) :
    (WriterPhase.ofTaken taken).inFlight = taken.jobs := by
  cases taken with
  | exclusive operation channel => cases operation <;> rfl
  | _ => rfl

theorem WriterPhase.unsent_ofTaken
    (taken : WriteQueue.Taken (ExclusiveOperation Data Value) Data Nat) :
    (WriterPhase.ofTaken taken).unsent = [] := by
  cases taken with
  | exclusive operation channel => cases operation <;> rfl
  | _ => rfl

theorem WriterPhase.wake_inFlight (phase : WriterPhase Data Value) :
    phase.wake.inFlight = phase.inFlight := by
  unfold WriterPhase.wake
  split <;> rfl

theorem WriterPhase.wake_unsent (phase : WriterPhase Data Value) :
    phase.wake.unsent = phase.unsent := by
  unfold WriterPhase.wake
  split <;> rfl

/-- The jobs of a group with their answers. -/
theorem zip_groupResponses {group : List (GroupableWrite Data Nat)}
    {responses : List (GroupWriteResponse Nat)}
    (channels : responses.map Prod.fst = group.map GroupableWrite.response) :
    let handled := (group.map (@WriteJob.groupable (ExclusiveOperation Data Value) Data Nat)).zip
      (((@groupResponses Value) responses).map Prod.snd)
    handled.map Prod.fst = group.map .groupable ∧
      handled.map (fun entry => (entry.1.response, entry.2)) = groupResponses responses := by
  induction group generalizing responses with
  | nil =>
      cases responses with
      | nil => exact ⟨rfl, rfl⟩
      | cons response rest => cases channels
  | cons job rest inductionHypothesis =>
      cases responses with
      | nil => cases channels
      | cons response others =>
          obtain ⟨same, tail⟩ := List.cons.inj channels
          obtain ⟨jobs, answers⟩ := inductionHypothesis tail
          refine ⟨congrArg (List.cons _) jobs, ?_⟩
          have head : job.response = response.1 := same.symm
          simp only [groupResponses, List.map_cons, List.zip_cons_cons, WriteJob.response,
            head] at answers ⊢
          exact congrArg (List.cons _) answers

/-- A step of the writer moves jobs on, from the queue to its hands to the record. -/
theorem WriterStep.jobs_move {shared shared' : Shared Data Value}
    {thread thread' : Thread Data Value} {notice : Notice}
    (step : WriterStep pool shared thread shared' thread' notice) :
    shared'.handled.map Prod.fst ++ shared'.phase.inFlight ++ shared'.queue.jobs =
      shared.handled.map Prod.fst ++ shared.phase.inFlight ++ shared.queue.jobs := by
  cases step with
  | pops expired place awake popped =>
      rw [WriterPhase.inFlight_ofTaken, place, (WriteQueue.pop_queue popped).1]
      simp [WriterPhase.inFlight]
  | collects place resumes collected =>
      have moved := (WriteQueue.collectMore_queue collected).1
      rw [WriterPhase.inFlight_ofTaken, place, List.append_assoc, List.append_assoc]
      exact congrArg _ moved.symm
  | committed place executed =>
      have channels := executeGroupCommit_channels executed
      simp [place, WriterPhase.inFlight, (zip_groupResponses channels).1]
  | _ => simp_all [WriterPhase.inFlight]

/-- And the answers, from its hands to their channels. -/
theorem WriterStep.answers_move {shared shared' : Shared Data Value}
    {thread thread' : Thread Data Value} {notice : Notice}
    (step : WriterStep pool shared thread shared' thread' notice)
    (answers : shared.sent ++ shared.phase.unsent =
      shared.handled.map fun entry => (entry.1.response, entry.2)) :
    shared'.sent ++ shared'.phase.unsent =
      shared'.handled.map fun entry => (entry.1.response, entry.2) := by
  cases step with
  | pops expired place awake popped =>
      rw [place] at answers
      rw [WriterPhase.unsent_ofTaken]
      exact answers
  | collects place resumes collected =>
      rw [place] at answers
      rw [WriterPhase.unsent_ofTaken]
      exact answers
  | committed place executed =>
      have channels := executeGroupCommit_channels executed
      rw [place] at answers
      simp only [WriterPhase.unsent, List.append_nil] at answers
      simp only [WriterPhase.unsent, List.map_append, (zip_groupResponses channels).2,
        answers]
  | _ => simp_all [WriterPhase.unsent, WriteJob.response]

/-- The writer stops in front of an empty and closed queue, and stays there. -/
theorem WriterStep.exits {shared shared' : Shared Data Value}
    {thread thread' : Thread Data Value} {notice : Notice}
    (step : WriterStep pool shared thread shared' thread' notice)
    (exited : shared'.phase = .exited) :
    shared'.queue.accepting = false ∧ shared'.queue.jobs = [] := by
  cases step with
  | @pops _ _ taken expired place awake popped =>
      cases taken with
      | closed => exact WriteQueue.pop_closed popped
      | exclusive operation channel => cases operation <;> cases exited
      | _ => cases exited
  | collects place resumes collected =>
      rcases (WriteQueue.collectMore_queue collected).2.2 with ⟨jobs, rfl⟩ | ⟨jobs, rfl⟩
      · cases exited
      · cases exited
  | _ => cases exited

/-! ## The system -/

/-- Where every job and every call is: dequeued jobs, in order, are those that have
been run, those in the hands of the writer, and those in the queue; the answers of
the former are sent in the same order; a call pushes, was admitted or was refused,
and one that was admitted or refused waits or has returned, with the answer of its own
job or with its own refusal. -/
structure Recorded (state : System Data Value) : Prop where
  jobs : state.shared.handled.map Prod.fst ++ state.shared.phase.inFlight ++
    state.shared.queue.jobs = state.shared.admitted
  answers : state.shared.sent ++ state.shared.phase.unsent =
    state.shared.handled.map fun entry => (entry.1.response, entry.2)
  admission : ∀ channel, state.total (Thread.pushing channel) +
    jobCount channel state.shared.admitted + entryCount channel state.shared.refused =
      started state.shared.channels channel
  returns : ∀ channel, state.total (Thread.awaiting channel) +
    state.total (Thread.refusing channel) + entryCount channel state.shared.returned =
      jobCount channel state.shared.admitted + entryCount channel state.shared.refused
  results : ∀ entry ∈ state.shared.returned, entry ∈ state.shared.sent ∨
    ∃ error, entry.2 = .error error ∧ (entry.1, error) ∈ state.shared.refused
  refusals : ∀ thread ∈ state.threads, ∀ channel error resume,
    thread.control = .refused channel error resume →
      (channel, error) ∈ state.shared.refused
  waits : ∀ thread ∈ state.threads, ∀ channel, 0 < thread.awaiting channel →
    channel ∈ state.shared.admitted.map WriteJob.response
  exits : state.shared.phase = .exited →
    state.shared.queue.accepting = false ∧ state.shared.queue.jobs = []

/-- Somebody can still answer an admitted job that was not answered. -/
theorem Recorded.answered_or_sender {state : System Data Value} (recorded : Recorded state)
    {channel : Nat} (admitted : channel ∈ state.shared.admitted.map WriteJob.response) :
    channel ∈ state.shared.sent.map Prod.fst ∨ channel ∈ state.shared.senders := by
  have answered : state.shared.sent.map Prod.fst ++ state.shared.phase.unsent.map Prod.fst =
      (state.shared.handled.map Prod.fst).map WriteJob.response := by
    rw [← List.map_append, recorded.answers, List.map_map, List.map_map]
    rfl
  rw [← recorded.jobs, List.map_append, List.map_append, ← answered] at admitted
  simp only [List.mem_append, Shared.senders] at admitted ⊢
  rcases admitted with ((sent | unsent) | inFlight) | queued
  · exact .inl sent
  · exact .inr (.inr unsent)
  · exact .inr (.inl (.inr inFlight))
  · exact .inr (.inl (.inl queued))

theorem Recorded.initial {writer : Writer Data} {clients : List (Thread Data Value)}
    {idle : Value} (fresh : ∀ thread ∈ clients, thread.IsClient) :
    Recorded (System.initial pool writer clients idle) := by
  refine ⟨rfl, rfl, ?_, ?_, nofun, ?_, ?_, nofun⟩
  · intro channel
    rw [total_initial fresh (Thread.pushing channel) fun _ _ _ => rfl]
    rfl
  · intro channel
    rw [total_initial fresh (Thread.awaiting channel) fun _ _ _ => rfl,
      total_initial fresh (Thread.refusing channel) fun _ _ _ => rfl]
    rfl
  · intro thread member
    obtain ⟨flag, outer, program, rfl⟩ := initial_starts fresh thread member
    nofun
  · intro thread member
    obtain ⟨flag, outer, program, rfl⟩ := initial_starts fresh thread member
    nofun

theorem Woken.refusing_eq {thread thread' : Thread Data Value}
    (woken : Woken thread thread') (channel : Nat) :
    thread'.refusing channel = thread.refusing channel := by
  cases woken with
  | untouched => rfl
  | reader => unfold Thread.wakeReader; split <;> simp_all [Thread.refusing]
  | submitter => unfold Thread.wakeSubmitter; split <;> simp_all [Thread.refusing]

/-- Waking threads, or the writer, moves no job and no call. -/
theorem Recorded.woken {state next : System Data Value} (recorded : Recorded state)
    (woken : List.Forall₂ Woken state.threads next.threads)
    (jobs : next.shared.queue.jobs = state.shared.queue.jobs)
    (closed : state.shared.queue.accepting = false → next.shared.queue.accepting = false)
    (same : next.shared = { state.shared with
      queue := next.shared.queue, phase := next.shared.phase })
    (phase : next.shared.phase = state.shared.phase ∨
      next.shared.phase = state.shared.phase.wake) : Recorded next := by
  have sameInFlight : next.shared.phase.inFlight = state.shared.phase.inFlight := by
    rcases phase with same | woken
    · rw [same]
    · rw [woken, WriterPhase.wake_inFlight]
  have sameUnsent : next.shared.phase.unsent = state.shared.phase.unsent := by
    rcases phase with same | woken
    · rw [same]
    · rw [woken, WriterPhase.wake_unsent]
  have sameTotal : ∀ score : Thread Data Value → Nat,
      (∀ {thread thread'}, Woken thread thread' → score thread' = score thread) →
        next.total score = state.total score := fun score keeps => sum_of_woken woken keeps
  constructor
  · rw [sameInFlight, jobs, same]
    exact recorded.jobs
  · rw [sameUnsent, same]
    exact recorded.answers
  · intro channel
    rw [sameTotal _ fun woken => woken.pushing_eq channel, same]
    exact recorded.admission channel
  · intro channel
    rw [sameTotal _ fun woken => woken.awaiting_eq channel,
      sameTotal _ fun woken => woken.refusing_eq channel, same]
    exact recorded.returns channel
  · rw [same]
    exact recorded.results
  · rw [same]
    exact forall_of_woken woken
      (fun woken before channel error resume after =>
        before channel error resume (woken.refused_eq after)) recorded.refusals
  · rw [same]
    exact forall_of_woken woken
      (fun woken before channel waits => before channel (woken.awaiting_eq channel ▸ waits))
      recorded.waits
  · intro exited
    have before : state.shared.phase = .exited := by
      rcases phase with same | woken
      · exact same ▸ exited
      · rw [woken] at exited
        unfold WriterPhase.wake at exited
        split at exited
        · cases exited
        · cases exited
        · exact exited
    rw [jobs]
    exact ⟨closed (recorded.exits before).1, (recorded.exits before).2⟩

theorem Recorded.notified {notice : Notice} {state next : System Data Value}
    (recorded : Recorded state) (notified : Notified notice state next) :
    Recorded next := by
  obtain ⟨same, phase⟩ := notified.shared_eq
  have queue : next.shared.queue = state.shared.queue := by rw [same]
  refine recorded.woken notified.woken (by rw [queue]) (by rw [queue]; exact id) ?_ phase
  rw [queue]
  exact same

/-- What a thread that has taken a step waits for, and what refused it. -/
theorem ThreadStep.own_records {shared shared' : Shared Data Value}
    {thread thread' : Thread Data Value} {notice : Notice}
    (step : ThreadStep pool shared thread shared' thread' notice)
    (waits : ∀ channel, 0 < thread.awaiting channel →
      channel ∈ shared.admitted.map WriteJob.response) :
    (∀ channel error resume, thread'.control = .refused channel error resume →
      (channel, error) ∈ shared'.refused) ∧
    (∀ channel, 0 < thread'.awaiting channel →
      channel ∈ shared'.admitted.map WriteJob.response) := by
  cases step with
  | refused place attempt pushed =>
      refine ⟨fun channel error resume after => ?_, nofun⟩
      obtain ⟨rfl, rfl, rfl⟩ := Control.refused.inj after
      simp
  | @accepted _ _ _ job _ _ place attempt pushed =>
      refine ⟨nofun, fun channel waiting => ?_⟩
      have same : job.response = channel := by
        by_contra other
        simp [Thread.awaiting, other] at waiting
      simp [same]
  | countsSubmitted place =>
      refine ⟨nofun, fun channel waiting => waits channel ?_⟩
      rw [Thread.awaiting, place]
      exact waiting
  | notifiesWriter place =>
      refine ⟨nofun, fun channel waiting => waits channel ?_⟩
      rw [Thread.awaiting, place]
      exact waiting
  | @readEntered _ _ _ blocking pools place reads entered =>
      cases blocking
      · exact ⟨nofun, nofun⟩
      · exact ⟨nofun, nofun⟩
  | _ => exact ⟨nofun, nofun⟩

/-- A call returns the answer of its own job or its own refusal; in particular no
sender is dropped before its answer was sent. -/
theorem Recorded.step_results {shared shared' : Shared Data Value}
    {before after : List (Thread Data Value)} {thread thread' : Thread Data Value}
    {notice : Notice} (recorded : Recorded ⟨shared, before ++ thread :: after⟩)
    (step : ThreadStep pool shared thread shared' thread' notice) :
    ∀ entry ∈ shared'.returned, entry ∈ shared'.sent ∨
      ∃ error, entry.2 = .error error ∧ (entry.1, error) ∈ shared'.refused := by
  have grows := step.grows
  have earlier : ∀ entry ∈ shared.returned, entry ∈ shared'.sent ∨
      ∃ error, entry.2 = .error error ∧ (entry.1, error) ∈ shared'.refused := by
    intro entry member
    rcases recorded.results entry member with sent | ⟨error, failed, refused⟩
    · exact .inl (grows.sent.subset sent)
    · exact .inr ⟨error, failed, grows.refused.subset refused⟩
  intro entry member
  cases step with
  | submitRefused place submits nested =>
      rcases List.mem_append.mp member with old | new
      · exact earlier entry old
      · obtain rfl := List.mem_singleton.mp new
        exact .inr ⟨reentrantWrite, rfl, by simp⟩
  | refusedReturns place =>
      rcases List.mem_append.mp member with old | new
      · exact earlier entry old
      · obtain rfl := List.mem_singleton.mp new
        exact .inr ⟨_, rfl, recorded.refusals thread (by simp) _ _ _ place⟩
  | receives place arrived =>
      rcases List.mem_append.mp member with old | new
      · exact earlier entry old
      · obtain rfl := List.mem_singleton.mp new
        exact .inl arrived
  | @disconnected channel resume place silent dropped =>
      have admitted := recorded.waits thread (by simp) channel (by
        rw [Thread.awaiting, place]
        simp)
      rcases recorded.answered_or_sender admitted with sent | sender
      · exact absurd sent silent
      · exact absurd sender dropped
  | _ => exact earlier entry member

theorem Recorded.thread_step {shared shared' : Shared Data Value}
    {before after : List (Thread Data Value)} {thread thread' : Thread Data Value}
    {notice : Notice} {next : System Data Value}
    (recorded : Recorded ⟨shared, before ++ thread :: after⟩)
    (step : ThreadStep pool shared thread shared' thread' notice)
    (notified : Notified notice ⟨shared', before ++ thread' :: after⟩ next) :
    Recorded next := by
  have grows := step.grows
  have own := step.own_records (recorded.waits thread (by simp))
  refine Recorded.notified ⟨?_, ?_, ?_, ?_, recorded.step_results step, ?_, ?_, ?_⟩ notified
  · rw [step.phase_eq]
    have moved := recorded.jobs
    cases step with
    | accepted place attempt pushed =>
        obtain ⟨-, -, rfl⟩ := WriteQueue.push_accepted pushed
        simp only [← List.append_assoc]
        exact congrArg (· ++ _) moved
    | _ => exact moved
  · rw [step.phase_eq]
    have answers := recorded.answers
    cases step <;> exact answers
  · intro channel
    have counted := recorded.admission channel
    have moved := step.admission channel
    simp only [total_middle] at counted ⊢
    simp only [System.total] at counted ⊢
    omega
  · intro channel
    have counted := recorded.returns channel
    have moved := step.return_counts channel
    simp only [total_middle] at counted ⊢
    simp only [System.total] at counted ⊢
    omega
  · intro other member
    rcases List.mem_append.mp member with inBefore | inRest
    · exact fun channel error resume place => grows.refused.subset
        (recorded.refusals other (List.mem_append_left _ inBefore) channel error resume place)
    · rcases List.mem_cons.mp inRest with rfl | inAfter
      · exact own.1
      · exact fun channel error resume place => grows.refused.subset
          (recorded.refusals other (by simp [inAfter]) channel error resume place)
  · have kept : ∀ channel, channel ∈ shared.admitted.map WriteJob.response →
        channel ∈ shared'.admitted.map WriteJob.response :=
      fun channel member => (grows.admitted.map _).subset member
    intro other member
    rcases List.mem_append.mp member with inBefore | inRest
    · exact fun channel waiting => kept channel
        (recorded.waits other (List.mem_append_left _ inBefore) channel waiting)
    · rcases List.mem_cons.mp inRest with rfl | inAfter
      · exact own.2
      · exact fun channel waiting => kept channel
          (recorded.waits other (by simp [inAfter]) channel waiting)
  · intro exited
    have closed := recorded.exits (step.phase_eq ▸ exited)
    cases step with
    | accepted place attempt pushed =>
        have accepting := (WriteQueue.push_accepted pushed).1
        exact absurd (accepting.symm.trans closed.1) Bool.noConfusion
    | _ => exact closed

theorem WriterStep.calls_eq {shared shared' : Shared Data Value}
    {thread thread' : Thread Data Value} {notice : Notice}
    (step : WriterStep pool shared thread shared' thread' notice)
    (rest : shared.phase.isCalling = false → thread.AtRest) (channel : Nat) :
    thread'.pushing channel = thread.pushing channel ∧
      thread'.awaiting channel = thread.awaiting channel ∧
      thread'.refusing channel = thread.refusing channel := by
  rcases step.thread_cases rest with rfl | ⟨⟨⟨outcome, ended⟩, -⟩, body, rfl⟩
  · exact ⟨rfl, rfl, rfl⟩
  · simp [Thread.pushing, Thread.awaiting, Thread.refusing, Thread.goesOn, ended]

theorem WriterStep.records_eq {shared shared' : Shared Data Value}
    {thread thread' : Thread Data Value} {notice : Notice}
    (step : WriterStep pool shared thread shared' thread' notice) :
    shared'.admitted = shared.admitted ∧ shared'.refused = shared.refused ∧
      shared'.returned = shared.returned ∧ shared'.channels = shared.channels := by
  cases step <;> exact ⟨rfl, rfl, rfl, rfl⟩

theorem Recorded.writer_step {shared shared' : Shared Data Value}
    {clients : List (Thread Data Value)} {thread thread' : Thread Data Value}
    {notice : Notice} {next : System Data Value}
    (recorded : Recorded ⟨shared, thread :: clients⟩)
    (rest : shared.phase.isCalling = false → thread.AtRest)
    (step : WriterStep pool shared thread shared' thread' notice)
    (notified : Notified notice ⟨shared', thread' :: clients⟩ next) : Recorded next := by
  obtain ⟨sameAdmitted, sameRefused, sameReturned, sameChannels⟩ := step.records_eq
  refine Recorded.notified
    ⟨?_, step.answers_move recorded.answers, ?_, ?_, ?_, ?_, ?_, step.exits⟩ notified
  · rw [step.jobs_move, sameAdmitted]
    exact recorded.jobs
  · intro channel
    rw [sameAdmitted, sameRefused, sameChannels]
    simp only [System.total, List.map_cons, (step.calls_eq rest channel).1]
    exact recorded.admission channel
  · intro channel
    rw [sameAdmitted, sameRefused, sameReturned]
    simp only [System.total, List.map_cons, (step.calls_eq rest channel).2]
    exact recorded.returns channel
  · rw [sameReturned, sameRefused]
    intro entry member
    exact (recorded.results entry member).imp (step.grows.sent.subset ·) id
  · rw [sameRefused]
    have before := recorded.refusals
    simp only [List.forall_mem_cons] at before ⊢
    refine ⟨?_, before.2⟩
    rcases step.thread_cases rest with rfl | ⟨-, body, rfl⟩
    · exact before.1
    · intro _ _ _ atPlace
      cases atPlace
  · rw [sameAdmitted]
    have before := recorded.waits
    simp only [List.forall_mem_cons] at before ⊢
    refine ⟨?_, before.2⟩
    rcases step.thread_cases rest with rfl | ⟨-, body, rfl⟩
    · exact before.1
    · intro _ atPlace
      cases atPlace

theorem Recorded.disturbed {state next : System Data Value} (recorded : Recorded state)
    (disturbance : Disturbance state next) : Recorded next := by
  have woken := disturbance.woken
  cases disturbance with
  | reader thread => exact recorded.woken woken rfl id rfl (.inl rfl)
  | submitter thread => exact recorded.woken woken rfl id rfl (.inl rfl)
  | writer => exact recorded.woken woken rfl id rfl (.inr rfl)
  | closes => exact recorded.woken woken rfl (fun _ => rfl) rfl (.inr rfl)

/-- Every move keeps the records. -/
theorem Recorded.move {identities : List (Bool × List Nat)} {state next : System Data Value}
    (recorded : Recorded state) (ordered : Ordered pool identities state)
    (move : Move pool state next) : Recorded next := by
  cases move with
  | disturbance disturbance => exact recorded.disturbed disturbance
  | step step =>
      cases step with
      | thread step notified => exact recorded.thread_step step notified
      | writer step notified =>
          exact recorded.writer_step (ordered.rests _ _ rfl) step notified

/-- In every interleaving all jobs and calls are on record. -/
theorem Recorded.reaches {identities : List (Bool × List Nat)}
    {state next : System Data Value} (recorded : Recorded state)
    (ordered : Ordered pool identities state) (run : Reaches pool state next) :
    Recorded next := by
  induction run with
  | refl => exact recorded
  | tail earlier move inductionHypothesis =>
      exact inductionHypothesis.move (ordered.reaches earlier) move

end Csgdb.Pool
