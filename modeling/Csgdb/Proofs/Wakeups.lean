/-
Module: Csgdb.Proofs.Wakeups
Purpose: Leases are conserved, and no thread sleeps on a condition variable of the
  pool while what it waits for is there and nobody was woken for it.
Trusted boundary: none
Main exports: Attentive, Attentive.move, Attentive.reaches
-/
import Csgdb.Proofs.ThreadDiscipline
import Csgdb.Proofs.WriteQueue

namespace Csgdb.Pool

open Storage

variable {Data Value : Type} {pool : PoolConfiguration Data}

/-! ## Counting threads -/

namespace Thread

/-- Asleep on `available`. -/
def asleepReader (thread : Thread Data Value) : Nat :=
  match thread.control with
  | .checkout .asleep _ _ => 1
  | _ => 0

/-- Woken on `available`, and not yet running. -/
def notifiedReader (thread : Thread Data Value) : Nat :=
  match thread.control with
  | .checkout .notified _ _ => 1
  | _ => 0

/-- Has pushed a job and not yet notified the writer. -/
def announcing (thread : Thread Data Value) : Nat :=
  match thread.control with
  | .accepted _ _ => 1
  | .notifying _ _ => 1
  | _ => 0

/-- Asleep on `not_full`. -/
def asleepSubmitter (thread : Thread Data Value) : Bool :=
  match thread.control with
  | .push .asleep _ _ _ => true
  | _ => false

end Thread

/-- A number of each thread, over all of them. -/
def System.total (score : Thread Data Value → Nat) (state : System Data Value) : Nat :=
  (state.threads.map score).sum

theorem total_middle (score : Thread Data Value → Nat) (shared : Shared Data Value)
    (before after : List (Thread Data Value)) (thread : Thread Data Value) :
    System.total score ⟨shared, before ++ thread :: after⟩ =
      score thread + System.total score ⟨shared, before ++ after⟩ := by
  simp [System.total]
  omega

theorem Woken.stack_eq {thread thread' : Thread Data Value}
    (woken : Woken thread thread') : thread'.stack = thread.stack := by
  cases woken with
  | untouched => rfl
  | reader => unfold Thread.wakeReader; split <;> rfl
  | submitter => unfold Thread.wakeSubmitter; split <;> rfl

theorem Woken.announcing_eq {thread thread' : Thread Data Value}
    (woken : Woken thread thread') : thread'.announcing = thread.announcing := by
  cases woken with
  | untouched => rfl
  | reader => unfold Thread.wakeReader; split <;> simp_all [Thread.announcing]
  | submitter => unfold Thread.wakeSubmitter; split <;> simp_all [Thread.announcing]

/-! ## Leases -/

def Thread.leases (thread : Thread Data Value) : Nat := thread.stack.length

theorem ThreadStep.leases_eq {shared shared' : Shared Data Value}
    {thread thread' : Thread Data Value} {notice : Notice}
    (step : ThreadStep pool shared thread shared' thread' notice) :
    shared'.readers.connections.length + thread'.leases =
      shared.readers.connections.length + thread.leases := by
  cases step with
  | checkedOut wants taken =>
      simp [Thread.leases, ReadPool.checkout_some taken]
      omega
  | returns place inside =>
      simp [Thread.leases, inside, ReadPool.release]
      omega
  | _ => rfl

theorem WriterStep.leases_eq {shared shared' : Shared Data Value}
    {thread thread' : Thread Data Value} {notice : Notice}
    (step : WriterStep pool shared thread shared' thread' notice) :
    shared'.readers = shared.readers ∧ thread'.leases = thread.leases := by
  cases step with
  | pops expired place awake popped =>
      refine ⟨rfl, ?_⟩
      unfold Thread.starts
      split <;> rfl
  | _ => exact ⟨rfl, rfl⟩

/-! ## Sleeping readers -/

/-- How many sleeping readers a notice wakes at most. -/
def Notice.readers : Notice → Nat
  | .reader => 1
  | _ => 0

theorem wakeSubmitter_asleepReader (thread : Thread Data Value) :
    thread.wakeSubmitter.asleepReader = thread.asleepReader := by
  unfold Thread.wakeSubmitter
  split <;> simp_all [Thread.asleepReader]

theorem wakeSubmitter_notifiedReader (thread : Thread Data Value) :
    thread.wakeSubmitter.notifiedReader = thread.notifiedReader := by
  unfold Thread.wakeSubmitter
  split <;> simp_all [Thread.notifiedReader]

theorem wakeReader_notified (thread : Thread Data Value) :
    (thread.wakeReader .notified).asleepReader = 0 ∧
      (thread.wakeReader .notified).notifiedReader =
        thread.notifiedReader + thread.asleepReader := by
  unfold Thread.wakeReader
  split <;> simp_all [Thread.asleepReader, Thread.notifiedReader]

theorem wakeReader_entering (thread : Thread Data Value) :
    (thread.wakeReader .entering).asleepReader = 0 ∧
      (thread.wakeReader .entering).notifiedReader = thread.notifiedReader := by
  unfold Thread.wakeReader
  split <;> simp_all [Thread.asleepReader, Thread.notifiedReader]

theorem wantsReader_counts {thread : Thread Data Value}
    {wanted : Program Data Value × Resume Data Value}
    (wants : thread.wantsReader = some wanted) :
    thread.asleepReader = 0 ∧ thread.notifiedReader ≤ 1 := by
  unfold Thread.wantsReader at wants
  split at wants
  all_goals simp_all [Thread.asleepReader, Thread.notifiedReader]

/-- Sleeping readers have at most as many free connections as woken ones. -/
def ReadersServed (free asleep notified : Nat) : Prop := 0 < asleep → free ≤ notified

/-- A step of one thread, next to any others, keeps sleeping readers served when its
own notice is counted. -/
theorem ThreadStep.readersServed {shared shared' : Shared Data Value}
    {thread thread' : Thread Data Value} {notice : Notice}
    (step : ThreadStep pool shared thread shared' thread' notice) (asleep notified : Nat)
    (served : ReadersServed shared.readers.connections.length
      (thread.asleepReader + asleep) (thread.notifiedReader + notified)) :
    ReadersServed shared'.readers.connections.length (thread'.asleepReader + asleep)
      (thread'.notifiedReader + notified + notice.readers) := by
  unfold ReadersServed at served ⊢
  cases step with
  | checkedOut wants taken =>
      obtain ⟨awake, atMost⟩ := wantsReader_counts wants
      rw [ReadPool.checkout_some taken, List.length_cons] at served
      simp only [Thread.asleepReader, Thread.notifiedReader, Notice.readers]
      omega
  | checkoutSleeps place awake empty =>
      rw [ReadPool.checkout_none empty]
      exact fun _ => Nat.zero_le _
  | exhausted place empty =>
      rw [ReadPool.rejected, ReadPool.checkout_none empty]
      exact fun _ => Nat.zero_le _
  | returns place inside =>
      simp only [Thread.asleepReader, Thread.notifiedReader, place] at served
      simp only [Thread.asleepReader, Thread.notifiedReader, Notice.readers,
        ReadPool.release, List.length_cons]
      omega
  | @readEntered _ _ _ blocking pools place reads entered =>
      simp only [Thread.asleepReader, Thread.notifiedReader, place] at served
      cases blocking <;>
        simpa [Thread.asleepReader, Thread.notifiedReader, Notice.readers] using served
  | _ =>
      simp_all [Thread.asleepReader, Thread.notifiedReader, Thread.goesOn, Notice.readers,
        Shared.updateMetrics]

theorem Notified.readersServed {notice : Notice} {state next : System Data Value}
    (notified : Notified notice state next)
    (served : ReadersServed state.shared.readers.connections.length
      (state.total Thread.asleepReader)
      (state.total Thread.notifiedReader + notice.readers)) :
    ReadersServed next.shared.readers.connections.length
      (next.total Thread.asleepReader) (next.total Thread.notifiedReader) := by
  unfold ReadersServed at served ⊢
  cases notified with
  | nothing => exact served
  | writer => exact served
  | submitters =>
      simpa [System.total, Function.comp_def, wakeSubmitter_asleepReader,
        wakeSubmitter_notifiedReader, Notice.readers] using served
  | @reader shared before after thread body resume asleep =>
      have own : thread.asleepReader = 1 := by simp [Thread.asleepReader, asleep]
      obtain ⟨none, woken⟩ := wakeReader_notified thread
      simp only [total_middle, Notice.readers] at served ⊢
      omega
  | noReader awake =>
      intro some
      have zero : state.total Thread.asleepReader = 0 := by
        refine List.sum_eq_zero_iff_forall_eq_nat.mpr fun count member => ?_
        obtain ⟨thread, inThreads, rfl⟩ := List.mem_map.mp member
        unfold Thread.asleepReader
        split
        · next body resume asleep => exact absurd asleep (awake thread inThreads _ _)
        · rfl
      omega

/-! ## The sleeping writer -/

def Notice.writers : Notice → Nat
  | .writer => 1
  | _ => 0

/-- The writer sleeps in front of an open queue, of jobs that are still announced. -/
def WriterServed (shared : Shared Data Value) (announcing : Nat) : Prop :=
  shared.phase = .popping .asleep →
    shared.queue.accepting = true ∧ shared.queue.jobs.length ≤ announcing

theorem ThreadStep.writerServed {shared shared' : Shared Data Value}
    {thread thread' : Thread Data Value} {notice : Notice}
    (step : ThreadStep pool shared thread shared' thread' notice) (announcing : Nat)
    (served : WriterServed shared (thread.announcing + announcing)) :
    WriterServed shared' (thread'.announcing + announcing + notice.writers) := by
  unfold WriterServed at served ⊢
  rw [step.phase_eq]
  intro asleep
  obtain ⟨accepting, announced⟩ := served asleep
  cases step with
  | accepted place attempt pushed =>
      obtain ⟨-, -, rfl⟩ := WriteQueue.push_accepted pushed
      simp only [Thread.announcing, place] at announced
      refine ⟨accepting, ?_⟩
      simp only [Thread.announcing, Notice.writers, List.length_append, List.length_cons,
        List.length_nil]
      omega
  | notifiesWriter place =>
      simp only [Thread.announcing, place] at announced
      refine ⟨accepting, ?_⟩
      simp only [Thread.announcing, Notice.writers]
      omega
  | checkedOut wants taken =>
      have silent : thread.announcing = 0 := by
        unfold Thread.wantsReader at wants
        split at wants <;> simp_all [Thread.announcing]
      refine ⟨accepting, ?_⟩
      simp only [Thread.announcing, Notice.writers]
      omega
  | @readEntered _ _ _ blocking pools place reads entered =>
      simp only [Thread.announcing, place] at announced
      cases blocking <;>
        simpa [Thread.announcing, Notice.writers] using And.intro accepting announced
  | _ =>
      simp_all [Thread.announcing, Thread.goesOn, Notice.writers, Shared.updateMetrics]

theorem WriterPhase.wake_ne_asleep (phase : WriterPhase Data Value) :
    phase.wake ≠ .popping .asleep := by
  unfold WriterPhase.wake
  split
  · nofun
  · nofun
  · next awake _ => exact awake

theorem Notified.writerServed {notice : Notice} {state next : System Data Value}
    (notified : Notified notice state next)
    (served : WriterServed state.shared
      (state.total Thread.announcing + notice.writers)) :
    WriterServed next.shared (next.total Thread.announcing) := by
  have same := sum_of_woken notified.woken Woken.announcing_eq
  unfold System.total at served ⊢
  rw [same]
  cases notified with
  | writer => exact fun asleep => absurd asleep (WriterPhase.wake_ne_asleep _)
  | _ => exact served

/-! ## Sleeping submitters -/

/-- Submitters sleep in front of a full and open queue. -/
def SubmitterServed (pool : PoolConfiguration Data) (shared : Shared Data Value)
    (thread : Thread Data Value) : Prop :=
  thread.asleepSubmitter = true →
    shared.queue.accepting = true ∧ pool.writeQueueCapacity ≤ shared.queue.jobs.length

/-- A step of a thread only adds to the queue. -/
theorem ThreadStep.queue_grows {shared shared' : Shared Data Value}
    {thread thread' : Thread Data Value} {notice : Notice}
    (step : ThreadStep pool shared thread shared' thread' notice) :
    shared'.queue.accepting = shared.queue.accepting ∧
      shared.queue.jobs.length ≤ shared'.queue.jobs.length := by
  cases step with
  | accepted place attempt pushed =>
      obtain ⟨-, -, rfl⟩ := WriteQueue.push_accepted pushed
      exact ⟨rfl, by simp⟩
  | _ => exact ⟨rfl, Nat.le_refl _⟩

theorem ThreadStep.submitterServed {shared shared' : Shared Data Value}
    {thread thread' : Thread Data Value} {notice : Notice}
    (step : ThreadStep pool shared thread shared' thread' notice) :
    SubmitterServed pool shared' thread' := by
  intro asleep
  cases step with
  | pushSleeps place attempt pushed => exact WriteQueue.push_sleeps pushed
  | @readEntered _ _ _ blocking pools place reads entered => cases blocking <;> cases asleep
  | _ => cases asleep

theorem Woken.asleepSubmitter {thread thread' : Thread Data Value}
    (woken : Woken thread thread') (asleep : thread'.asleepSubmitter = true) :
    thread.asleepSubmitter = true := by
  cases woken with
  | untouched => exact asleep
  | reader =>
      unfold Thread.wakeReader at asleep
      split at asleep
      · cases asleep
      · exact asleep
  | submitter =>
      unfold Thread.wakeSubmitter at asleep
      split at asleep
      · cases asleep
      · exact asleep

theorem wakeSubmitter_awake (thread : Thread Data Value) :
    thread.wakeSubmitter.asleepSubmitter = false := by
  unfold Thread.wakeSubmitter
  split
  · rfl
  · next awake =>
      unfold Thread.asleepSubmitter
      split
      · next policy job resume asleep => exact absurd asleep (awake policy job resume)
      · rfl

/-- A turn of the writer at the queue: jobs leave it and all submitters are woken, or
nothing changes. -/
theorem takeNotice_cases
    (before after : WriteQueueState (ExclusiveOperation Data Value) Data Nat) :
    takeNotice before after = .submitters ∨
      takeNotice before after = .nothing ∧ before.jobs.length ≤ after.jobs.length := by
  unfold takeNotice
  split
  · exact .inl rfl
  · next same => exact .inr ⟨rfl, by omega⟩

/-- What a step of the writer thread does to the queue. -/
theorem WriterStep.queue_shrinks {shared shared' : Shared Data Value}
    {thread thread' : Thread Data Value} {notice : Notice}
    (step : WriterStep pool shared thread shared' thread' notice) :
    shared'.queue.accepting = shared.queue.accepting ∧
      (notice = .submitters ∨ notice = .nothing ∧
        shared.queue.jobs.length ≤ shared'.queue.jobs.length) := by
  cases step with
  | pops expired place awake popped =>
      exact ⟨(WriteQueue.pop_queue popped).2, takeNotice_cases _ _⟩
  | collects place resumes collected =>
      exact ⟨(WriteQueue.collectMore_queue collected).2.1, takeNotice_cases _ _⟩
  | _ => exact ⟨rfl, .inr ⟨rfl, Nat.le_refl _⟩⟩

/-- The writer falls asleep only in front of an empty and open queue. -/
theorem WriterStep.writerServed {shared shared' : Shared Data Value}
    {thread thread' : Thread Data Value} {notice : Notice}
    (step : WriterStep pool shared thread shared' thread' notice) (announcing : Nat) :
    WriterServed shared' announcing := by
  intro asleep
  cases step with
  | @pops _ _ taken expired place awake popped =>
      cases taken with
      | sleeps =>
          obtain ⟨accepting, empty⟩ := WriteQueue.pop_sleeps popped
          exact ⟨accepting, by simp [empty]⟩
      | exclusive operation channel => cases operation <;> cases asleep
      | _ => cases asleep
  | @collects _ _ _ _ taken place resumes collected =>
      rcases (WriteQueue.collectMore_queue collected).2.2 with ⟨jobs, rfl⟩ | ⟨jobs, rfl⟩
      · cases asleep
      · cases asleep
  | _ => cases asleep

/-- Of the threads, a step of the writer only starts a callback on its own. -/
theorem WriterStep.thread_cases {shared shared' : Shared Data Value}
    {thread thread' : Thread Data Value} {notice : Notice}
    (step : WriterStep pool shared thread shared' thread' notice)
    (rest : shared.phase.isCalling = false → thread.AtRest) :
    thread' = thread ∨ thread.AtRest ∧ ∃ body, thread' = thread.goesOn body := by
  cases step with
  | pops expired place awake popped =>
      unfold Thread.starts
      split
      · exact .inr ⟨rest (by rw [place]; rfl), _, rfl⟩
      · exact .inl rfl
  | _ => exact .inl rfl

theorem WriterStep.notice_counts {shared shared' : Shared Data Value}
    {thread thread' : Thread Data Value} {notice : Notice}
    (step : WriterStep pool shared thread shared' thread' notice) :
    notice.readers = 0 ∧ notice.writers = 0 := by
  rcases step.queue_shrinks.2 with rfl | ⟨rfl, -⟩ <;> exact ⟨rfl, rfl⟩

/-- A thread that starts a callback slept nowhere before and sleeps nowhere now. -/
theorem WriterStep.scores_eq {shared shared' : Shared Data Value}
    {thread thread' : Thread Data Value} {notice : Notice}
    (step : WriterStep pool shared thread shared' thread' notice)
    (rest : shared.phase.isCalling = false → thread.AtRest) :
    thread'.asleepReader = thread.asleepReader ∧
      thread'.notifiedReader = thread.notifiedReader ∧
      thread'.asleepSubmitter = thread.asleepSubmitter := by
  rcases step.thread_cases rest with rfl | ⟨⟨⟨outcome, ended⟩, -⟩, body, rfl⟩
  · exact ⟨rfl, rfl, rfl⟩
  · simp [Thread.asleepReader, Thread.notifiedReader, Thread.asleepSubmitter,
      Thread.goesOn, ended]

/-! ## The system -/

/-- Leases are conserved, and nobody sleeps in vain. -/
structure Attentive (pool : PoolConfiguration Data) (state : System Data Value) : Prop where
  leases : state.shared.readers.connections.length + state.total Thread.leases =
    pool.readConnections
  readers : ReadersServed state.shared.readers.connections.length
    (state.total Thread.asleepReader) (state.total Thread.notifiedReader)
  writer : WriterServed state.shared (state.total Thread.announcing)
  submitters : ∀ thread ∈ state.threads, SubmitterServed pool state.shared thread

theorem initial_starts {writer : Writer Data} {clients : List (Thread Data Value)}
    {idle : Value} (fresh : ∀ thread ∈ clients, thread.IsClient) :
    ∀ thread ∈ (System.initial pool writer clients idle).threads,
      ∃ flag outer program, thread = Thread.start flag outer program := by
  intro thread member
  rcases List.mem_cons.mp member with rfl | inClients
  · exact ⟨_, _, _, rfl⟩
  · obtain ⟨outer, program, rfl⟩ := fresh thread inClients
    exact ⟨_, _, _, rfl⟩

theorem total_initial {writer : Writer Data} {clients : List (Thread Data Value)}
    {idle : Value} (fresh : ∀ thread ∈ clients, thread.IsClient)
    (score : Thread Data Value → Nat)
    (zero : ∀ flag outer program, score (Thread.start flag outer program) = 0) :
    (System.initial pool writer clients idle).total score = 0 := by
  refine List.sum_eq_zero_iff_forall_eq_nat.mpr fun count member => ?_
  obtain ⟨thread, inThreads, rfl⟩ := List.mem_map.mp member
  obtain ⟨flag, outer, program, rfl⟩ := initial_starts fresh thread inThreads
  exact zero _ _ _

theorem Attentive.initial {writer : Writer Data} {clients : List (Thread Data Value)}
    {idle : Value} (fresh : ∀ thread ∈ clients, thread.IsClient) :
    Attentive pool (System.initial pool writer clients idle) := by
  constructor
  · rw [total_initial fresh Thread.leases fun _ _ _ => rfl]
    simp [System.initial]
  · rw [ReadersServed, total_initial fresh Thread.asleepReader fun _ _ _ => rfl]
    nofun
  · nofun
  · intro thread member
    obtain ⟨flag, outer, program, rfl⟩ := initial_starts fresh thread member
    nofun

/-- A notification after a step: leases and the queue are as the step left them. -/
theorem Attentive.notified {notice : Notice} {state next : System Data Value}
    (notified : Notified notice state next)
    (leases : state.shared.readers.connections.length + state.total Thread.leases =
      pool.readConnections)
    (readers : ReadersServed state.shared.readers.connections.length
      (state.total Thread.asleepReader)
      (state.total Thread.notifiedReader + notice.readers))
    (writer : WriterServed state.shared (state.total Thread.announcing + notice.writers))
    (submitters : notice = .submitters ∨
      ∀ thread ∈ state.threads, SubmitterServed pool state.shared thread) :
    Attentive pool next where
  leases := by
    rw [System.total, sum_of_woken notified.woken fun woken => by
      rw [Thread.leases, Thread.leases, woken.stack_eq], notified.shared_eq.1]
    exact leases
  readers := notified.readersServed readers
  writer := notified.writerServed writer
  submitters := by
    rcases submitters with rfl | served
    · cases notified
      intro thread member asleep
      obtain ⟨before, -, rfl⟩ := List.mem_map.mp member
      rw [wakeSubmitter_awake] at asleep
      cases asleep
    · rw [notified.shared_eq.1]
      exact (@forall_of_woken _ _ (SubmitterServed pool state.shared)) notified.woken
        (fun woken before asleep => before (woken.asleepSubmitter asleep)) served

theorem Attentive.thread_step {shared shared' : Shared Data Value}
    {before after : List (Thread Data Value)} {thread thread' : Thread Data Value}
    {notice : Notice} {next : System Data Value}
    (attentive : Attentive pool ⟨shared, before ++ thread :: after⟩)
    (step : ThreadStep pool shared thread shared' thread' notice)
    (notified : Notified notice ⟨shared', before ++ thread' :: after⟩ next) :
    Attentive pool next := by
  obtain ⟨leases, readers, writer, submitters⟩ := attentive
  simp only [total_middle] at leases readers writer
  refine Attentive.notified notified ?_ ?_ ?_ (.inr ?_)
  · have conserved := step.leases_eq
    simp only [total_middle]
    simp only [System.total] at leases ⊢
    omega
  · simp only [total_middle]
    exact step.readersServed _ _ readers
  · simp only [total_middle]
    exact step.writerServed _ writer
  · obtain ⟨accepting, longer⟩ := step.queue_grows
    have others : ∀ other ∈ before ++ thread :: after, SubmitterServed pool shared' other := by
      intro other member asleep
      have full := submitters other member asleep
      exact ⟨accepting.trans full.1, Nat.le_trans full.2 longer⟩
    intro other member
    rcases List.mem_append.mp member with inBefore | inRest
    · exact others other (List.mem_append_left _ inBefore)
    · rcases List.mem_cons.mp inRest with rfl | inAfter
      · exact step.submitterServed
      · exact others other (by simp [inAfter])

theorem Attentive.writer_step {shared shared' : Shared Data Value}
    {clients : List (Thread Data Value)} {thread thread' : Thread Data Value}
    {notice : Notice} {next : System Data Value}
    (attentive : Attentive pool ⟨shared, thread :: clients⟩)
    (rest : shared.phase.isCalling = false → thread.AtRest)
    (step : WriterStep pool shared thread shared' thread' notice)
    (notified : Notified notice ⟨shared', thread' :: clients⟩ next) :
    Attentive pool next := by
  obtain ⟨leases, readers, -, submitters⟩ := attentive
  obtain ⟨sameReaders, sameLeases⟩ := step.leases_eq
  obtain ⟨sameAsleep, sameNotified, sameSubmitter⟩ := step.scores_eq rest
  obtain ⟨accepting, change⟩ := step.queue_shrinks
  refine Attentive.notified notified ?_ ?_ (step.writerServed _) ?_
  · simp only [System.total, List.map_cons, sameReaders, sameLeases]
    exact leases
  · simp only [System.total, List.map_cons, sameReaders, sameAsleep, sameNotified,
      step.notice_counts.1]
    exact readers
  · rcases change with woken | ⟨-, longer⟩
    · exact .inl woken
    · refine .inr fun other member asleep => ?_
      have full : SubmitterServed pool shared other := by
        rcases List.mem_cons.mp member with rfl | inClients
        · intro asleep
          exact submitters thread (by simp) (sameSubmitter ▸ asleep)
        · exact submitters other (by simp [inClients])
      exact ⟨accepting.trans (full asleep).1, Nat.le_trans (full asleep).2 longer⟩

theorem Attentive.disturbed {state next : System Data Value}
    (attentive : Attentive pool state) (disturbance : Disturbance state next) :
    Attentive pool next := by
  obtain ⟨leases, readers, writer, submitters⟩ := attentive
  have sameLeases : next.total Thread.leases = state.total Thread.leases :=
    sum_of_woken disturbance.woken fun woken => by
      rw [Thread.leases, Thread.leases, woken.stack_eq]
  have sameAnnouncing : next.total Thread.announcing = state.total Thread.announcing :=
    sum_of_woken disturbance.woken Woken.announcing_eq
  have sleepers : ∀ thread ∈ next.threads, SubmitterServed pool state.shared thread :=
    forall_of_woken disturbance.woken
      (fun woken before asleep => before (woken.asleepSubmitter asleep)) submitters
  cases disturbance with
  | reader thread =>
      refine ⟨sameLeases ▸ leases, ?_, sameAnnouncing ▸ writer, sleepers⟩
      obtain ⟨none, woken⟩ := wakeReader_entering thread
      simp only [ReadersServed, total_middle] at readers ⊢
      omega
  | submitter thread =>
      refine ⟨sameLeases ▸ leases, ?_, sameAnnouncing ▸ writer, sleepers⟩
      simpa only [total_middle, wakeSubmitter_asleepReader,
        wakeSubmitter_notifiedReader] using readers
  | writer =>
      exact ⟨leases, readers,
        fun asleep => absurd asleep (WriterPhase.wake_ne_asleep _), submitters⟩
  | closes =>
      refine ⟨sameLeases ▸ leases, ?_,
        fun asleep => absurd asleep (WriterPhase.wake_ne_asleep _), ?_⟩
      · simpa [System.total, Function.comp_def, wakeSubmitter_asleepReader,
          wakeSubmitter_notifiedReader] using readers
      · intro thread member asleep
        obtain ⟨before, -, rfl⟩ := List.mem_map.mp member
        rw [wakeSubmitter_awake] at asleep
        cases asleep

/-- Every move keeps the pool attentive. -/
theorem Attentive.move {identities : List (Bool × List Nat)}
    {state next : System Data Value} (attentive : Attentive pool state)
    (ordered : Ordered pool identities state) (move : Move pool state next) :
    Attentive pool next := by
  cases move with
  | disturbance disturbance => exact attentive.disturbed disturbance
  | step step =>
      cases step with
      | thread step notified => exact attentive.thread_step step notified
      | writer step notified =>
          exact attentive.writer_step (ordered.rests _ _ rfl) step notified

/-- In every interleaving nobody sleeps in vain. -/
theorem Attentive.reaches {identities : List (Bool × List Nat)}
    {state next : System Data Value} (attentive : Attentive pool state)
    (ordered : Ordered pool identities state) (run : Reaches pool state next) :
    Attentive pool next := by
  induction run with
  | refl => exact attentive
  | tail earlier move inductionHypothesis =>
      exact inductionHypothesis.move (ordered.reaches earlier) move

end Csgdb.Pool
