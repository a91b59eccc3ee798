/-
Module: Csgdb.Proofs.Backpressure
Purpose: The write queue of a pool in every interleaving: its bounds, the order of its
  jobs, the groups that leave it, its end, and the threads that sleep in front of it or
  of the read connections.
Trusted boundary: none
Main exports: Bounded, Bounded.reaches, QueueDisciplined, write_queue_disciplined,
  SleepersServed, no_wake_up_lost
-/
import Csgdb.Proofs.DeadlockFreedom
import Csgdb.Proofs.SerialWrites

namespace Csgdb.Pool

open Storage

variable {Data Value : Type} {pool : PoolConfiguration Data}

/-! ## Groups -/

namespace WriteQueue

variable {Operation Channel : Type}

/-- Collecting adds to the group, and never goes over its limit. -/
theorem collect_grows (maxJobs : Nat) (group : List (GroupableWrite Data Channel))
    (jobs : List (WriteJob Operation Data Channel)) :
    group <+: (collect maxJobs group jobs).1 ∧
      (group.length ≤ maxJobs → (collect maxJobs group jobs).1.length ≤ maxJobs) := by
  induction jobs generalizing group with
  | nil => exact ⟨List.prefix_rfl, id⟩
  | cons job rest inductionHypothesis =>
      cases job with
      | exclusive operation response => exact ⟨List.prefix_rfl, id⟩
      | groupable job =>
          rw [collect]
          split
          · next free =>
              obtain ⟨longer, limit⟩ := inductionHypothesis (group ++ [job])
              refine ⟨(List.prefix_append _ _).trans longer, fun _ => limit ?_⟩
              rw [List.length_append]
              exact free
          · exact ⟨List.prefix_rfl, id⟩

/-- The group that a turn of the writer holds in its hands. -/
def Taken.heldGroup : Taken Operation Data Channel → Option (List (GroupableWrite Data Channel))
  | .group jobs => some jobs
  | .waitsForMore jobs => some jobs
  | _ => none

/-- What is taken is a nonempty group within the limit. -/
def Taken.HoldsGroup (maxJobs : Nat) (taken : Taken Operation Data Channel) : Prop :=
  ∃ held, taken.heldGroup = some held ∧ 0 < held.length ∧ held.length ≤ maxJobs ∧
    taken.jobs = held.map .groupable

/-- A collecting turn adds to the group that it holds, within the limit. -/
theorem collectMore_group {maxJobs : Nat} {expired : Bool}
    {group : List (GroupableWrite Data Channel)}
    {state after : WriteQueueState Operation Data Channel}
    {taken : Taken Operation Data Channel}
    (collected : collectMore maxJobs expired group state = (after, taken)) :
    group.map .groupable <+: taken.jobs ∧
      (0 < group.length → group.length ≤ maxJobs → taken.HoldsGroup maxJobs) := by
  obtain ⟨longer, limit⟩ := collect_grows maxJobs group state.jobs
  simp only [collectMore] at collected
  split at collected
  · obtain ⟨-, rfl⟩ := Prod.mk.inj collected
    refine ⟨longer.map _, fun nonempty room => ⟨_, rfl, ?_, limit room, rfl⟩⟩
    exact Nat.lt_of_lt_of_le nonempty longer.length_le
  · obtain ⟨-, rfl⟩ := Prod.mk.inj collected
    refine ⟨longer.map _, fun nonempty room => ⟨_, rfl, ?_, limit room, rfl⟩⟩
    exact Nat.lt_of_lt_of_le nonempty longer.length_le

/-- A turn of `pop` holds nothing, one exclusive job, or a group within the limit. -/
theorem pop_group {maxJobs : Nat} {expired : Bool}
    {state after : WriteQueueState Operation Data Channel}
    {taken : Taken Operation Data Channel}
    (popped : pop maxJobs expired state = (after, taken)) (positive : 0 < maxJobs) :
    (taken.heldGroup = none ∧ taken.jobs.length ≤ 1) ∨ taken.HoldsGroup maxJobs := by
  unfold pop at popped
  split at popped
  · split at popped
    · obtain ⟨-, rfl⟩ := Prod.mk.inj popped
      exact .inl ⟨rfl, Nat.zero_le _⟩
    · obtain ⟨-, rfl⟩ := Prod.mk.inj popped
      exact .inl ⟨rfl, Nat.zero_le _⟩
  · obtain ⟨-, rfl⟩ := Prod.mk.inj popped
    exact .inl ⟨rfl, Nat.le_refl _⟩
  · exact .inr ((collectMore_group popped).2 Nat.zero_lt_one positive)

end WriteQueue

/-! ## Bounds -/

/-- The group that the writer collects or commits. -/
def WriterPhase.heldGroup : WriterPhase Data Value → Option (List (GroupableWrite Data Nat))
  | .collecting _ group => some group
  | .committing group => some group
  | _ => none

theorem WriterPhase.heldGroup_ofTaken
    (taken : WriteQueue.Taken (ExclusiveOperation Data Value) Data Nat) :
    (WriterPhase.ofTaken taken).heldGroup = taken.heldGroup := by
  cases taken with
  | exclusive operation channel => cases operation <;> rfl
  | _ => rfl

theorem WriterPhase.wake_heldGroup (phase : WriterPhase Data Value) :
    phase.wake.heldGroup = phase.heldGroup := by
  unfold WriterPhase.wake
  split <;> rfl

/-- What a pool holds at a time: the queue within its capacity, a group within its
limit, and with the writer not more jobs than fit in a group. -/
structure Bounded (pool : PoolConfiguration Data) (shared : Shared Data Value) : Prop where
  queue : shared.queue.jobs.length ≤ pool.writeQueueCapacity
  group : ∀ group, shared.phase.heldGroup = some group →
    0 < group.length ∧ group.length ≤ pool.maxJobs
  held : shared.phase.inFlight.length + shared.phase.unsent.length ≤ pool.maxJobs

theorem ThreadStep.bounded {shared shared' : Shared Data Value}
    {thread thread' : Thread Data Value} {notice : Notice}
    (step : ThreadStep pool shared thread shared' thread' notice)
    (bounded : Bounded pool shared) : Bounded pool shared' := by
  have samePhase := step.phase_eq
  refine ⟨?_, samePhase ▸ bounded.group, samePhase ▸ bounded.held⟩
  cases step with
  | accepted place attempt pushed =>
      obtain ⟨-, room, rfl⟩ := WriteQueue.push_accepted pushed
      rw [List.length_append]
      exact room
  | _ => exact bounded.queue

/-- What the writer took from the queue is within the bounds. -/
theorem Bounded.taken {shared : Shared Data Value} {writer : Writer Data}
    {queue : WriteQueueState (ExclusiveOperation Data Value) Data Nat}
    {taken : WriteQueue.Taken (ExclusiveOperation Data Value) Data Nat}
    (shorter : queue.jobs.length ≤ pool.writeQueueCapacity)
    (holds : (taken.heldGroup = none ∧ taken.jobs.length ≤ 1) ∨
      taken.HoldsGroup pool.maxJobs) :
    Bounded pool
      { shared with queue := queue, phase := .ofTaken taken, writer := writer } := by
  refine ⟨shorter, ?_, ?_⟩
  · intro group held
    rw [WriterPhase.heldGroup_ofTaken] at held
    rcases holds with ⟨noGroup, -⟩ | ⟨own, isOwn, positive, limit, -⟩
    · rw [noGroup] at held
      cases held
    · rw [isOwn] at held
      cases held
      exact ⟨positive, limit⟩
  · rw [WriterPhase.inFlight_ofTaken, WriterPhase.unsent_ofTaken]
    rcases holds with ⟨-, one⟩ | ⟨own, -, -, limit, jobs⟩
    · exact Nat.le_trans one pool.maxJobs_pos
    · rw [jobs, List.length_map]
      exact limit

theorem WriterStep.bounded {shared shared' : Shared Data Value}
    {thread thread' : Thread Data Value} {notice : Notice}
    (step : WriterStep pool shared thread shared' thread' notice)
    (bounded : Bounded pool shared) : Bounded pool shared' := by
  have held := bounded.held
  cases step with
  | pops expired place awake popped =>
      have moved := congrArg List.length (WriteQueue.pop_queue popped).1
      rw [List.length_append] at moved
      apply Bounded.taken
      · exact Nat.le_trans (by omega) bounded.queue
      · exact WriteQueue.pop_group popped pool.maxJobs_pos
  | @collects _ group expired queue taken place resumes collected =>
      have moved := congrArg List.length (WriteQueue.collectMore_queue collected).1
      obtain ⟨positive, limit⟩ := bounded.group group (by rw [place]; rfl)
      obtain ⟨longer, holds⟩ := WriteQueue.collectMore_group collected
      have grown := longer.length_le
      rw [List.length_append, List.length_append] at moved
      apply Bounded.taken
      · exact Nat.le_trans (by omega) bounded.queue
      · exact .inr (holds positive limit)
  | committed place executed =>
      have channels := congrArg List.length (executeGroupCommit_channels executed)
      refine ⟨bounded.queue, (fun group none => by cases none), ?_⟩
      simp only [place, WriterPhase.inFlight, WriterPhase.unsent, List.length_map,
        List.length_nil, groupResponses] at held channels ⊢
      omega
  | answers place =>
      refine ⟨bounded.queue, (fun group none => by cases none), ?_⟩
      simp only [place, WriterPhase.inFlight, WriterPhase.unsent, List.length_cons,
        List.length_nil] at held ⊢
      omega
  | _ =>
      refine ⟨bounded.queue, (fun group none => by cases none), ?_⟩
      simp_all [WriterPhase.inFlight, WriterPhase.unsent]

/-- Waking the writer moves no job. -/
theorem Bounded.waking {shared shared' : Shared Data Value} (bounded : Bounded pool shared)
    (sameJobs : shared'.queue.jobs = shared.queue.jobs)
    (phase : shared'.phase = shared.phase ∨ shared'.phase = shared.phase.wake) :
    Bounded pool shared' := by
  obtain ⟨queue, group, held⟩ := bounded
  rcases phase with same | woken
  · exact ⟨sameJobs ▸ queue, same ▸ group, same ▸ held⟩
  · refine ⟨sameJobs ▸ queue, ?_, ?_⟩
    · rw [woken, WriterPhase.wake_heldGroup]
      exact group
    · rw [woken, WriterPhase.wake_inFlight, WriterPhase.wake_unsent]
      exact held

theorem Notified.bounded {notice : Notice} {state next : System Data Value}
    (notified : Notified notice state next) (bounded : Bounded pool state.shared) :
    Bounded pool next.shared := by
  obtain ⟨same, phase⟩ := notified.shared_eq
  exact bounded.waking (by rw [same]) phase

theorem Bounded.initial {writer : Writer Data} {clients : List (Thread Data Value)}
    {idle : Value} : Bounded pool (System.initial pool writer clients idle).shared where
  queue := Nat.zero_le _
  group := by
    intro group none
    cases none
  held := Nat.zero_le _

theorem Bounded.move {state next : System Data Value} (bounded : Bounded pool state.shared)
    (move : Move pool state next) : Bounded pool next.shared := by
  cases move with
  | step step =>
      cases step with
      | thread step notified => exact notified.bounded (step.bounded bounded)
      | writer step notified => exact notified.bounded (step.bounded bounded)
  | disturbance disturbance =>
      cases disturbance with
      | reader thread => exact bounded
      | submitter thread => exact bounded
      | writer => exact bounded.waking rfl (.inr rfl)
      | closes => exact bounded.waking rfl (.inr rfl)

theorem Bounded.reaches {state next : System Data Value}
    (bounded : Bounded pool state.shared) (run : Reaches pool state next) :
    Bounded pool next.shared := by
  induction run with
  | refl => exact bounded
  | tail earlier move inductionHypothesis => exact inductionHypothesis.move move

/-! ## What was dequeued, and the end of the queue -/

/-- The jobs that ever left the queue: those that have been run, and those in the hands
of the writer. -/
def Shared.dequeued (shared : Shared Data Value) : List (PoolJob Data Value) :=
  shared.handled.map Prod.fst ++ shared.phase.inFlight

theorem ThreadStep.dequeued_eq {shared shared' : Shared Data Value}
    {thread thread' : Thread Data Value} {notice : Notice}
    (step : ThreadStep pool shared thread shared' thread' notice) :
    shared'.dequeued = shared.dequeued := by
  cases step <;> rfl

/-- Jobs leave the queue one behind the other. -/
theorem WriterStep.dequeued_grows {shared shared' : Shared Data Value}
    {thread thread' : Thread Data Value} {notice : Notice}
    (step : WriterStep pool shared thread shared' thread' notice) :
    shared.dequeued <+: shared'.dequeued := by
  have moved := step.jobs_move
  cases step with
  | pops expired place awake popped =>
      simp only [Shared.dequeued, place, WriterPhase.inFlight, List.append_nil]
      exact List.prefix_append _ _
  | collects place resumes collected =>
      simp only [Shared.dequeued, place, WriterPhase.inFlight_ofTaken]
      exact List.prefix_append_right_inj _ |>.mpr (WriteQueue.collectMore_group collected).1
  | _ =>
      have same := List.append_cancel_right moved
      exact ⟨[], by rw [List.append_nil]; exact same.symm⟩

theorem Notified.dequeued_eq {notice : Notice} {state next : System Data Value}
    (notified : Notified notice state next) :
    next.shared.dequeued = state.shared.dequeued := by
  cases notified with
  | writer => simp only [Shared.dequeued, WriterPhase.wake_inFlight]
  | _ => rfl

theorem Move.dequeued_grows {state next : System Data Value} (move : Move pool state next) :
    state.shared.dequeued <+: next.shared.dequeued := by
  cases move with
  | step step =>
      cases step with
      | thread step notified =>
          have same := notified.dequeued_eq.trans step.dequeued_eq
          exact same ▸ List.prefix_rfl
      | writer step notified =>
          rw [notified.dequeued_eq]
          exact step.dequeued_grows
  | disturbance disturbance =>
      cases disturbance with
      | reader thread => exact List.prefix_rfl
      | submitter thread => exact List.prefix_rfl
      | writer => simp only [Shared.dequeued, WriterPhase.wake_inFlight, List.prefix_rfl]
      | closes => simp only [Shared.dequeued, WriterPhase.wake_inFlight, List.prefix_rfl]

theorem dequeued_reaches {state next : System Data Value} (run : Reaches pool state next) :
    state.shared.dequeued <+: next.shared.dequeued := by
  induction run with
  | refl => exact List.prefix_rfl
  | tail earlier move inductionHypothesis =>
      exact inductionHypothesis.trans move.dequeued_grows

/-- A closed queue stays closed and admits nothing. -/
theorem Move.closed {state next : System Data Value} (move : Move pool state next)
    (closed : state.shared.queue.accepting = false) :
    next.shared.queue.accepting = false ∧ next.shared.admitted = state.shared.admitted := by
  cases move with
  | step step =>
      cases step with
      | thread step notified =>
          rw [notified.shared_eq.1]
          cases step with
          | accepted place attempt pushed =>
              have accepting := (WriteQueue.push_accepted pushed).1
              rw [closed] at accepting
              cases accepting
          | _ => exact ⟨closed, rfl⟩
      | writer step notified =>
          rw [notified.shared_eq.1]
          refine ⟨step.queue_shrinks.1.trans closed, ?_⟩
          cases step <;> rfl
  | disturbance disturbance =>
      cases disturbance with
      | closes => exact ⟨rfl, rfl⟩
      | _ => exact ⟨closed, rfl⟩

theorem closed_reaches {state next : System Data Value} (run : Reaches pool state next)
    (closed : state.shared.queue.accepting = false) :
    next.shared.queue.accepting = false ∧ next.shared.admitted = state.shared.admitted := by
  induction run with
  | refl => exact ⟨closed, rfl⟩
  | tail earlier move inductionHypothesis =>
      obtain ⟨still, same⟩ := move.closed inductionHypothesis.1
      exact ⟨still, same.trans inductionHypothesis.2⟩

/-! ## The queue -/

/-- The write queue in a state of a run.  What was dequeued, also in the middle of a
group, and what is queued are the admitted jobs in their order; a group that left the
queue is a piece of them. -/
structure QueueDisciplined (pool : PoolConfiguration Data) (state : System Data Value) :
    Prop where
  capacity : state.shared.queue.jobs.length ≤ pool.writeQueueCapacity
  order : state.shared.dequeued ++ state.shared.queue.jobs = state.shared.admitted
  dequeued : ∀ later, Reaches pool state later →
    state.shared.dequeued <+: later.shared.dequeued ∧
      state.shared.admitted <+: later.shared.admitted
  groups : ∀ group, state.shared.phase = .committing group →
    group ≠ [] ∧ group.length ≤ pool.maxJobs ∧
      group.map .groupable <:+: state.shared.admitted
  answered : state.shared.sent.map Prod.fst <+:
    state.shared.admitted.map WriteJob.response
  unanswered : state.shared.admitted.length - state.shared.sent.length ≤
    pool.writeQueueCapacity + pool.maxJobs
  closed : state.shared.queue.accepting = false → ∀ later, Reaches pool state later →
    later.shared.admitted = state.shared.admitted
  stops : state.shared.phase = .exited →
    state.shared.queue.accepting = false ∧ state.shared.dequeued = state.shared.admitted

theorem Recorded.answered {state : System Data Value} (recorded : Recorded state) :
    state.shared.sent.map Prod.fst <+: state.shared.admitted.map WriteJob.response := by
  rw [← recorded.jobs, List.append_assoc, List.map_append]
  have handled : (state.shared.handled.map Prod.fst).map WriteJob.response =
      state.shared.sent.map Prod.fst ++ state.shared.phase.unsent.map Prod.fst := by
    rw [← List.map_append, recorded.answers, List.map_map, List.map_map]
    rfl
  rw [handled, List.append_assoc]
  exact List.prefix_append _ _

theorem Recorded.unanswered {state : System Data Value} (recorded : Recorded state)
    (bounded : Bounded pool state.shared) :
    state.shared.admitted.length - state.shared.sent.length ≤
      pool.writeQueueCapacity + pool.maxJobs := by
  have jobs := congrArg List.length recorded.jobs
  have answers := congrArg List.length recorded.answers
  have queue := bounded.queue
  have held := bounded.held
  simp only [List.length_append, List.length_map] at jobs answers
  omega

/-- In every interleaving of any number of submitters with the writer, and with the end
of the pool at any time, the queue is disciplined. -/
theorem write_queue_disciplined (pool : PoolConfiguration Data) (writer : Writer Data)
    (idle : Value) (clients : List (Thread Data Value))
    (fresh : ∀ thread ∈ clients, thread.IsClient) (state : System Data Value)
    (run : Reaches pool (System.initial pool writer clients idle) state) :
    QueueDisciplined pool state := by
  have startRecorded : Recorded (System.initial pool writer clients idle) :=
    (@Recorded.initial _ _ pool) fresh
  have recorded := startRecorded.reaches (Ordered.initial fresh) run
  have bounded := Bounded.initial.reaches run
  constructor
  · exact bounded.queue
  · exact recorded.jobs
  · intro later onwards
    exact ⟨dequeued_reaches onwards, (Grows.reaches onwards).admitted⟩
  · intro group committing
    obtain ⟨positive, limit⟩ := bounded.group group (by rw [committing]; rfl)
    refine ⟨List.ne_nil_of_length_pos positive, limit, ?_⟩
    have jobs := recorded.jobs
    rw [committing] at jobs
    exact ⟨_, _, jobs⟩
  · exact recorded.answered
  · exact recorded.unanswered bounded
  · intro closed later onwards
    exact (closed_reaches onwards closed).2
  · intro exited
    obtain ⟨closed, empty⟩ := recorded.exits exited
    have jobs := recorded.jobs
    rw [empty, List.append_nil] at jobs
    exact ⟨closed, jobs⟩

/-- Two clients that submit one statement each. -/
def submittingClients : List (Thread Nat Nat) :=
  [.start false [] (.execute (insertRows 1) fun _ => .ends (.returned (.ok 1))),
    .start false [] (.execute (insertRows 2) fun _ => .ends (.returned (.ok 2)))]

theorem submittingClients_areClients : ∀ thread ∈ submittingClients, thread.IsClient := by
  intro thread member
  simp only [submittingClients, List.mem_cons, List.not_mem_nil, or_false] at member
  rcases member with rfl | rfl
  · exact ⟨_, _, rfl⟩
  · exact ⟨_, _, rfl⟩

def smallPoolWriter : Writer Nat :=
  .new { enabled := false, checkpointIntervalCommits := 1, walSoftLimitFrames := 0 }
    (idleConnection 0)

/-- The writer took one job, waited for more, and took the second one into its group. -/
theorem submittedGroup_runs :
    ∃ state, Reaches smallPool (System.initial smallPool smallPoolWriter submittingClients 0)
        state ∧
      state.shared.phase = .committing [⟨[insertRows 1], 0⟩, ⟨[insertRows 2], 1⟩] := by
  refine ⟨?state, ?run, ?phase⟩
  case run =>
    refine .head (Move.ofThread [_] (.submits rfl rfl rfl (by decide)) (.nothing _)) ?_
    refine .head (Move.ofThread [_] (.accepted rfl (.first _) rfl) (.nothing _)) ?_
    refine .head (Move.ofThread [_] (.countsSubmitted rfl) (.nothing _)) ?_
    refine .head (Move.ofThread [_] (.notifiesWriter rfl) (.writer _)) ?_
    refine .head (.step (.writer (.pops false rfl (by decide) rfl) (.submitters _))) ?_
    refine .head (Move.ofThread [_, _] (.submits rfl rfl rfl (by decide)) (.nothing _)) ?_
    refine .head (Move.ofThread [_, _] (.accepted rfl (.first _) rfl) (.nothing _)) ?_
    refine .head (Move.ofThread [_, _] (.countsSubmitted rfl) (.nothing _)) ?_
    refine .head (Move.ofThread [_, _] (.notifiesWriter rfl) (.writer _)) ?_
    refine .head (.step (.writer (.collects rfl (.woken (by decide) false) rfl)
      (.submitters _))) ?_
    exact .refl
  case phase => rfl

theorem submitted_group_disciplined :
    ∃ state, Reaches smallPool (System.initial smallPool smallPoolWriter submittingClients 0)
        state ∧
      state.shared.phase = .committing [⟨[insertRows 1], 0⟩, ⟨[insertRows 2], 1⟩] ∧
      QueueDisciplined smallPool state := by
  obtain ⟨state, run, phase⟩ := submittedGroup_runs
  refine ⟨state, run, phase, ?_⟩
  exact write_queue_disciplined smallPool _ 0 submittingClients submittingClients_areClients
    state run

/-! ## Sleepers -/

/-- Who sleeps un-notified in a state of a run, and why: the writer in its untimed wait
in front of an open queue, whose jobs are all still to be announced by their submitters;
a submitter in front of an open and full queue; a reader when every free connection has
a reader that was notified for it. -/
structure SleepersServed (pool : PoolConfiguration Data) (state : System Data Value) :
    Prop where
  writer : state.shared.phase = .popping .asleep →
    state.shared.queue.accepting = true ∧
      (state.shared.queue.jobs ≠ [] → ∃ thread ∈ state.threads, 0 < thread.announcing)
  submitters : ∀ thread ∈ state.threads, thread.asleepSubmitter = true →
    state.shared.queue.accepting = true ∧
      state.shared.queue.jobs.length = pool.writeQueueCapacity
  readers : ∀ thread ∈ state.threads, thread.asleepReader = 1 →
    state.shared.readers.connections.length ≤ state.total Thread.notifiedReader

/-- A total that is positive has a thread that counts. -/
theorem exists_of_total_pos {score : Thread Data Value → Nat} {state : System Data Value}
    (positive : 0 < state.total score) : ∃ thread ∈ state.threads, 0 < score thread := by
  by_contra none
  have zero : state.total score = 0 := by
    apply List.sum_eq_zero_iff_forall_eq_nat.mpr
    intro count member
    obtain ⟨thread, inThreads, rfl⟩ := List.mem_map.mp member
    exact Nat.eq_zero_of_not_pos fun some => none ⟨thread, inThreads, some⟩
  omega

theorem le_total {score : Thread Data Value → Nat} {state : System Data Value}
    {thread : Thread Data Value} (member : thread ∈ state.threads) :
    score thread ≤ state.total score := by
  obtain ⟨shared, threads⟩ := state
  obtain ⟨before, after, split⟩ := List.append_of_mem member
  obtain rfl : threads = before ++ thread :: after := split
  rw [total_middle]
  exact Nat.le_add_right _ _

/-- In every interleaving of any number of submitters and readers with the writer, no
wake-up is lost. -/
theorem no_wake_up_lost (pool : PoolConfiguration Data) (writer : Writer Data)
    (idle : Value) (clients : List (Thread Data Value))
    (fresh : ∀ thread ∈ clients, thread.IsClient) (state : System Data Value)
    (run : Reaches pool (System.initial pool writer clients idle) state) :
    SleepersServed pool state := by
  have start : Attentive pool (System.initial pool writer clients idle) :=
    Attentive.initial fresh
  have attentive := start.reaches (Ordered.initial fresh) run
  have bounded := Bounded.initial.reaches run
  constructor
  · intro asleep
    obtain ⟨accepting, announced⟩ := attentive.writer asleep
    refine ⟨accepting, fun nonempty => exists_of_total_pos ?_⟩
    exact Nat.lt_of_lt_of_le (List.length_pos_iff.mpr nonempty) announced
  · intro thread member asleep
    obtain ⟨accepting, full⟩ := attentive.submitters thread member asleep
    exact ⟨accepting, Nat.le_antisymm bounded.queue full⟩
  · intro thread member asleep
    have some := (@le_total _ _ Thread.asleepReader) member
    exact attentive.readers (by omega)

/-- A client that reads, twice, and the two that submit. -/
def sleepingClients : List (Thread Nat Nat) :=
  [.start false [] (.read (.ends (.returned (.ok 3))) fun _ => .ends (.returned (.ok 0))),
    .start false [] (.read (.ends (.returned (.ok 4))) fun _ => .ends (.returned (.ok 0)))] ++
    submittingClients

theorem sleepingClients_areClients : ∀ thread ∈ sleepingClients, thread.IsClient := by
  intro thread member
  rcases List.mem_append.mp member with reader | submitter
  · simp only [List.mem_cons, List.not_mem_nil, or_false] at reader
    rcases reader with rfl | rfl
    · exact ⟨_, _, rfl⟩
    · exact ⟨_, _, rfl⟩
  · exact submittingClients_areClients thread submitter

/-- The writer is asleep, with a job in the queue that is not yet announced; the other
submitter and the reader without a connection are asleep too. -/
theorem sleepingPool_runs :
    ∃ state, Reaches smallPool (System.initial smallPool smallPoolWriter sleepingClients 0)
        state ∧
      state.shared.phase = .popping .asleep ∧ state.shared.queue.jobs.length = 1 ∧
      state.threads.map Thread.asleepSubmitter = [false, false, false, false, true] ∧
      state.threads.map Thread.asleepReader = [0, 0, 1, 0, 0] := by
  refine ⟨?state, ?run, ?phase, ?queue, ?submitters, ?readers⟩
  case run =>
    refine .head (.step (.writer (.pops false rfl (by decide) rfl) (.nothing _))) ?_
    refine .head (Move.ofThread [_] (.readEntered rfl rfl rfl) (.nothing _)) ?_
    refine .head (Move.ofThread [_] (.checkedOut rfl rfl) (.nothing _)) ?_
    refine .head (Move.ofThread [_, _] (.readEntered rfl rfl rfl) (.nothing _)) ?_
    refine .head (Move.ofThread [_, _] (.checkoutSleeps rfl (by decide) rfl)
      (.nothing _)) ?_
    refine .head (Move.ofThread [_, _, _] (.submits rfl rfl rfl (by decide))
      (.nothing _)) ?_
    refine .head (Move.ofThread [_, _, _] (.accepted rfl (.first _) rfl) (.nothing _)) ?_
    refine .head (Move.ofThread [_, _, _, _] (.submits rfl rfl rfl (by decide))
      (.nothing _)) ?_
    refine .head (Move.ofThread [_, _, _, _] (.pushSleeps rfl (.first _) rfl)
      (.nothing _)) ?_
    exact .refl
  case phase => rfl
  case queue => rfl
  case submitters => rfl
  case readers => rfl

theorem sleeping_pool_served :
    ∃ state, Reaches smallPool (System.initial smallPool smallPoolWriter sleepingClients 0)
        state ∧
      state.shared.phase = .popping .asleep ∧ state.shared.queue.jobs.length = 1 ∧
      state.threads.map Thread.asleepSubmitter = [false, false, false, false, true] ∧
      state.threads.map Thread.asleepReader = [0, 0, 1, 0, 0] ∧
      SleepersServed smallPool state := by
  obtain ⟨state, run, phase, queue, submitters, readers⟩ := sleepingPool_runs
  refine ⟨state, run, phase, queue, submitters, readers, ?_⟩
  exact no_wake_up_lost smallPool _ 0 sleepingClients sleepingClients_areClients state run

end Csgdb.Pool
