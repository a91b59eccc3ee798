/-
Module: Csgdb.Proofs.ThreadDiscipline
Purpose: Where a thread of a pool can be, with its thread-local list of pools: what
  every step of every thread keeps.
Trusted boundary: none
Main exports: Place, Disciplined, ThreadStep.disciplined, Woken, Notified.woken,
  Ordered, Ordered.move, Ordered.reaches
-/
import Csgdb.Pool.System
import Mathlib.Algebra.Ring.Nat
import Mathlib.Data.List.Forall2

namespace Csgdb.Pool

open Storage

variable {Data Value : Type} {pool : PoolConfiguration Data}

/-! ## Places -/

/-- The kinds of places inside a call. -/
inductive Place where
  | program
  | reader
  | submission
deriving Repr, DecidableEq

def Control.place : Control Data Value → Place
  | .running _ => .program
  | .checkout _ _ _ => .reader
  | .tryCheckout _ _ => .reader
  | _ => .submission

/-- A thread outside of any call; one that asks for a reader; one inside of a read
callback; and a client inside of a submission.  The list of pools being read tells
them apart. -/
inductive Disciplined (identity : Nat) (thread : Thread Data Value) : Prop
  | outside (place : thread.control.place = .program) (stack : thread.stack = [])
      (pools : thread.readCallbackPools = thread.outer)
  | asking (place : thread.control.place = .reader) (stack : thread.stack = [])
      (pools : thread.readCallbackPools = thread.outer ++ [identity])
  | reading (place : thread.control.place = .program) (frame : Frame Data Value)
      (stack : thread.stack = [frame])
      (pools : thread.readCallbackPools = thread.outer ++ [identity])
  | submitting (place : thread.control.place = .submission) (stack : thread.stack = [])
      (client : thread.inWriteWorker = false)
      (pools : thread.readCallbackPools = thread.outer)

namespace Disciplined

variable {identity : Nat} {thread : Thread Data Value}

theorem program (disciplined : Disciplined identity thread)
    (place : thread.control.place = .program) :
    (thread.stack = [] ∧ thread.readCallbackPools = thread.outer) ∨
      ∃ frame, thread.stack = [frame] ∧
        thread.readCallbackPools = thread.outer ++ [identity] := by
  cases disciplined with
  | outside _ stack pools => exact .inl ⟨stack, pools⟩
  | reading _ frame stack pools => exact .inr ⟨frame, stack, pools⟩
  | asking other => rw [place] at other; cases other
  | submitting other => rw [place] at other; cases other

theorem reader (disciplined : Disciplined identity thread)
    (place : thread.control.place = .reader) :
    thread.stack = [] ∧ thread.readCallbackPools = thread.outer ++ [identity] := by
  cases disciplined with
  | asking _ stack pools => exact ⟨stack, pools⟩
  | outside other => rw [place] at other; cases other
  | reading other => rw [place] at other; cases other
  | submitting other => rw [place] at other; cases other

theorem submission (disciplined : Disciplined identity thread)
    (place : thread.control.place = .submission) :
    thread.stack = [] ∧ thread.inWriteWorker = false ∧
      thread.readCallbackPools = thread.outer := by
  cases disciplined with
  | submitting _ stack client pools => exact ⟨stack, client, pools⟩
  | outside other => rw [place] at other; cases other
  | asking other => rw [place] at other; cases other
  | reading other => rw [place] at other; cases other

/-- A thread with a lease runs its callback. -/
theorem of_lease (disciplined : Disciplined identity thread) (lease : thread.stack ≠ []) :
    thread.control.place = .program := by
  cases disciplined with
  | reading place => exact place
  | outside _ stack => exact absurd stack lease
  | asking _ stack => exact absurd stack lease
  | submitting _ stack => exact absurd stack lease

/-- The writer thread never submits. -/
theorem of_worker (disciplined : Disciplined identity thread)
    (worker : thread.inWriteWorker = true) : thread.control.place ≠ .submission := by
  intro place
  have client := (disciplined.submission place).2.1
  rw [worker] at client
  cases client

/-- A program goes on at the same place. -/
theorem goesOn (disciplined : Disciplined identity thread)
    (place : thread.control.place = .program) (next : Program Data Value) :
    Disciplined identity (thread.goesOn next) := by
  rcases disciplined.program place with ⟨stack, pools⟩ | ⟨frame, stack, pools⟩
  · exact .outside rfl stack pools
  · exact .reading rfl frame stack pools

/-- A submission goes on to its end, or to its next place. -/
theorem submitted (disciplined : Disciplined identity thread)
    (place : thread.control.place = .submission) {control : Control Data Value}
    (next : control.place ≠ .reader) :
    Disciplined identity { thread with control := control } := by
  obtain ⟨stack, client, pools⟩ := disciplined.submission place
  cases kind : control.place with
  | program => exact .outside kind stack pools
  | submission => exact .submitting kind stack client pools
  | reader => exact absurd kind next

end Disciplined

/-! ## What a thread keeps -/

/-- The marker of the writer thread, and the pools that the thread reads elsewhere. -/
def Thread.identity (thread : Thread Data Value) : Bool × List Nat :=
  (thread.inWriteWorker, thread.outer)

theorem ThreadStep.identity_eq {shared shared' : Shared Data Value}
    {thread thread' : Thread Data Value} {notice : Notice}
    (step : ThreadStep pool shared thread shared' thread' notice) :
    thread'.identity = thread.identity := by
  cases step <;> rfl

theorem Thread.wantsReader_place {thread : Thread Data Value} {body : Program Data Value}
    {resume : Resume Data Value} (wants : thread.wantsReader = some (body, resume)) :
    thread.control.place = .reader := by
  unfold Thread.wantsReader at wants
  split at wants
  case h_4 => cases wants
  all_goals
    rename_i control
    rw [control]
    rfl

/-- Every step keeps a thread at one of its places. -/
theorem ThreadStep.disciplined {shared shared' : Shared Data Value}
    {thread thread' : Thread Data Value} {notice : Notice}
    (step : ThreadStep pool shared thread shared' thread' notice)
    (before : Disciplined pool.identity thread) : Disciplined pool.identity thread' := by
  cases step with
  | writes place worker outside => exact before.goesOn (by rw [place]; rfl) _
  | queries view place other => exact before.goesOn (by rw [place]; rfl) _
  | readRefused place reads nested => exact before.goesOn (by rw [place]; rfl) _
  | @readEntered _ _ _ blocking pools place reads entered =>
      obtain ⟨fresh, rfl⟩ := ReadCallbackGuard.enter_ok entered
      -- Inside of a read callback the guard would have refused.
      rcases before.program (by rw [place]; rfl) with ⟨stack, same⟩ | ⟨frame, stack, same⟩
      · refine .asking ?_ stack (by rw [same])
        cases blocking <;> rfl
      · rw [same] at fresh
        simp at fresh
  | checkedOut wants taken =>
      obtain ⟨stack, pools⟩ := before.reader (Thread.wantsReader_place wants)
      exact .reading rfl _ (by rw [stack]) pools
  | checkoutSleeps place awake empty =>
      obtain ⟨stack, pools⟩ := before.reader (by rw [place]; rfl)
      exact .asking rfl stack pools
  | exhausted place empty =>
      obtain ⟨stack, pools⟩ := before.reader (by rw [place]; rfl)
      refine .outside rfl stack ?_
      rw [pools]
      exact ReadCallbackGuard.drop_append _ _
  | @returns _ frame frames place inside =>
      rcases before.program (by rw [place]; rfl) with ⟨stack, same⟩ | ⟨only, stack, same⟩
      · rw [stack] at inside
        cases inside
      · rw [stack] at inside
        obtain ⟨-, rfl⟩ := List.cons.inj inside
        refine .outside rfl rfl ?_
        rw [same]
        exact ReadCallbackGuard.drop_append _ _
  | submitRefused place submits nested => exact before.goesOn (by rw [place]; rfl) _
  | submits place submits client outside =>
      rcases before.program (by rw [place]; rfl) with ⟨stack, same⟩ | ⟨frame, stack, same⟩
      · exact .submitting rfl stack client same
      · rw [same] at outside
        simp at outside
  | accepted place attempt pushed => exact before.submitted (by rw [place]; rfl) nofun
  | pushSleeps place attempt pushed => exact before.submitted (by rw [place]; rfl) nofun
  | refused place attempt pushed => exact before.submitted (by rw [place]; rfl) nofun
  | refusedReturns place => exact before.submitted (by rw [place]; rfl) nofun
  | countsSubmitted place => exact before.submitted (by rw [place]; rfl) nofun
  | notifiesWriter place => exact before.submitted (by rw [place]; rfl) nofun
  | receives place arrived => exact before.submitted (by rw [place]; rfl) nofun
  | disconnected place silent dropped => exact before.submitted (by rw [place]; rfl) nofun

/-! ## Wake-ups -/

/-- What a step of one thread does to another: it may wake it. -/
inductive Woken : Thread Data Value → Thread Data Value → Prop
  | untouched (thread : Thread Data Value) : Woken thread thread
  | reader (wait : Wait) (thread : Thread Data Value) : Woken thread (thread.wakeReader wait)
  | submitter (thread : Thread Data Value) : Woken thread thread.wakeSubmitter

theorem Woken.identity_eq {thread thread' : Thread Data Value}
    (woken : Woken thread thread') : thread'.identity = thread.identity := by
  cases woken with
  | untouched => rfl
  | reader => unfold Thread.wakeReader; split <;> rfl
  | submitter => unfold Thread.wakeSubmitter; split <;> rfl

theorem Woken.disciplined {identity : Nat} {thread thread' : Thread Data Value}
    (woken : Woken thread thread') (disciplined : Disciplined identity thread) :
    Disciplined identity thread' := by
  cases woken with
  | untouched => exact disciplined
  | reader =>
      unfold Thread.wakeReader
      split
      · next place =>
          obtain ⟨stack, pools⟩ := disciplined.reader (by rw [place]; rfl)
          exact .asking rfl stack pools
      · exact disciplined
  | submitter =>
      unfold Thread.wakeSubmitter
      split
      · next place => exact disciplined.submitted (by rw [place]; rfl) nofun
      · exact disciplined

theorem woken_refl (threads : List (Thread Data Value)) :
    List.Forall₂ Woken threads threads :=
  List.forall₂_same.mpr fun thread _ => .untouched thread

theorem woken_middle {before after : List (Thread Data Value)}
    {thread thread' : Thread Data Value} (woken : Woken thread thread') :
    List.Forall₂ Woken (before ++ thread :: after) (before ++ thread' :: after) :=
  List.rel_append (woken_refl before) (.cons woken (woken_refl after))

theorem woken_submitters (threads : List (Thread Data Value)) :
    List.Forall₂ Woken threads (threads.map Thread.wakeSubmitter) := by
  induction threads with
  | nil => exact .nil
  | cons thread rest inductionHypothesis =>
      exact .cons (.submitter thread) inductionHypothesis

/-- A notification only wakes threads. -/
theorem Notified.woken {notice : Notice} {state next : System Data Value}
    (notified : Notified notice state next) :
    List.Forall₂ Woken state.threads next.threads := by
  cases notified with
  | nothing => exact woken_refl _
  | reader asleep => exact woken_middle (.reader _ _)
  | noReader awake => exact woken_refl _
  | writer => exact woken_refl _
  | submitters => exact woken_submitters _

/-- It leaves the pool as it is, but for a sleeping writer. -/
theorem Notified.shared_eq {notice : Notice} {state next : System Data Value}
    (notified : Notified notice state next) :
    next.shared = { state.shared with phase := next.shared.phase } ∧
      (next.shared.phase = state.shared.phase ∨
        next.shared.phase = state.shared.phase.wake) := by
  cases notified with
  | writer => exact ⟨rfl, .inr rfl⟩
  | nothing => exact ⟨rfl, .inl rfl⟩
  | reader => exact ⟨rfl, .inl rfl⟩
  | noReader => exact ⟨rfl, .inl rfl⟩
  | submitters => exact ⟨rfl, .inl rfl⟩

theorem Disturbance.woken {state next : System Data Value}
    (disturbance : Disturbance state next) :
    List.Forall₂ Woken state.threads next.threads := by
  cases disturbance with
  | reader thread => exact woken_middle (.reader _ thread)
  | submitter thread => exact woken_middle (.submitter thread)
  | writer => exact woken_refl _
  | closes => exact woken_submitters _

theorem forall_of_woken {holds : Thread Data Value → Prop}
    {threads threads' : List (Thread Data Value)}
    (woken : List.Forall₂ Woken threads threads')
    (keeps : ∀ {thread thread'}, Woken thread thread' → holds thread → holds thread')
    (all : ∀ thread ∈ threads, holds thread) : ∀ thread ∈ threads', holds thread := by
  induction woken with
  | nil => exact all
  | cons first rest inductionHypothesis =>
      rw [List.forall_mem_cons] at all ⊢
      exact ⟨keeps first all.1, inductionHypothesis all.2⟩

/-- A number that waking a thread leaves alone, summed over all threads. -/
theorem sum_of_woken {score : Thread Data Value → Nat}
    {threads threads' : List (Thread Data Value)}
    (woken : List.Forall₂ Woken threads threads')
    (keeps : ∀ {thread thread'}, Woken thread thread' → score thread' = score thread) :
    (threads'.map score).sum = (threads.map score).sum := by
  induction woken with
  | nil => rfl
  | cons first rest inductionHypothesis =>
      rw [List.map_cons, List.map_cons, List.sum_cons, List.sum_cons, keeps first,
        inductionHypothesis]

/-! ## The writer thread -/

/-- The thread runs nothing. -/
def Thread.AtRest (thread : Thread Data Value) : Prop :=
  (∃ outcome, thread.control = .running (.ends outcome)) ∧ thread.stack = []

theorem Thread.AtRest.no_step {shared shared' : Shared Data Value}
    {thread thread' : Thread Data Value} {notice : Notice} (rest : thread.AtRest) :
    ¬ ThreadStep pool shared thread shared' thread' notice := by
  obtain ⟨⟨outcome, ended⟩, stack⟩ := rest
  intro step
  cases step with
  | returns place inside => rw [stack] at inside; cases inside
  | checkedOut wants taken => simp [Thread.wantsReader, ended] at wants
  | readRefused place reads nested =>
      rw [ended] at place
      cases place
      cases reads
  | readEntered place reads entered =>
      rw [ended] at place
      cases place
      cases reads
  | submitRefused place submits nested =>
      rw [ended] at place
      cases place
      cases submits
  | submits place submits client outside =>
      rw [ended] at place
      cases place
      cases submits
  | _ => simp_all

theorem Woken.atRest {thread thread' : Thread Data Value} (woken : Woken thread thread')
    (rest : thread.AtRest) : thread'.AtRest := by
  obtain ⟨⟨outcome, ended⟩, stack⟩ := rest
  cases woken with
  | untouched => exact ⟨⟨outcome, ended⟩, stack⟩
  | reader => simpa [Thread.wakeReader, ended] using ⟨⟨outcome, ended⟩, stack⟩
  | submitter => simpa [Thread.wakeSubmitter, ended] using ⟨⟨outcome, ended⟩, stack⟩

def WriterPhase.isCalling : WriterPhase Data Value → Bool
  | .calling _ _ => true
  | _ => false

theorem WriterPhase.wake_isCalling (phase : WriterPhase Data Value) :
    phase.wake.isCalling = phase.isCalling := by
  unfold WriterPhase.wake
  split <;> rfl

theorem ThreadStep.phase_eq {shared shared' : Shared Data Value}
    {thread thread' : Thread Data Value} {notice : Notice}
    (step : ThreadStep pool shared thread shared' thread' notice) :
    shared'.phase = shared.phase := by
  cases step <;> rfl

theorem WriterStep.identity_eq {shared shared' : Shared Data Value}
    {thread thread' : Thread Data Value} {notice : Notice}
    (step : WriterStep pool shared thread shared' thread' notice) :
    thread'.identity = thread.identity := by
  cases step with
  | pops expired place awake popped =>
      unfold Thread.starts
      split <;> rfl
  | _ => rfl

/-- The writer thread leaves its rest only for the callback of an exclusive job. -/
theorem WriterStep.rests {shared shared' : Shared Data Value}
    {thread thread' : Thread Data Value} {notice : Notice}
    (step : WriterStep pool shared thread shared' thread' notice)
    (rest : shared.phase.isCalling = false → thread.AtRest) :
    shared'.phase.isCalling = false → thread'.AtRest := by
  cases step with
  | @pops _ _ taken expired place awake popped =>
      intro elsewhere
      have before : thread.AtRest := rest (by rw [place]; rfl)
      cases taken with
      | exclusive operation channel =>
          cases operation with
          | callback body => cases elsewhere
          | maintenance operation => exact before
      | _ => exact before
  | called place ended outside => exact fun _ => ⟨⟨_, ended⟩, outside⟩
  | collects place resumes collected => exact fun _ => rest (by rw [place]; rfl)
  | maintained checkpointed changed place performed =>
      exact fun _ => rest (by rw [place]; rfl)
  | committed place executed => exact fun _ => rest (by rw [place]; rfl)
  | maintains automatic place => exact fun _ => rest (by rw [place]; rfl)
  | counts place => exact fun _ => rest (by rw [place]; rfl)
  | answers place => exact fun _ => rest (by rw [place]; rfl)
  | finishes place => exact fun _ => rest (by rw [place]; rfl)

theorem WriterStep.disciplined {shared shared' : Shared Data Value}
    {thread thread' : Thread Data Value} {notice : Notice}
    (step : WriterStep pool shared thread shared' thread' notice)
    (rest : shared.phase.isCalling = false → thread.AtRest)
    (before : Disciplined pool.identity thread) : Disciplined pool.identity thread' := by
  cases step with
  | pops expired place awake popped =>
      obtain ⟨⟨outcome, ended⟩, -⟩ := rest (by rw [place]; rfl)
      unfold Thread.starts
      split
      · exact before.goesOn (by rw [ended]; rfl) _
      · exact before
  | _ => exact before

/-! ## The system -/

/-- What holds of all threads: each is disciplined, the first one and no other is the
writer, and the writer runs a program only while it calls one. -/
structure Ordered (pool : PoolConfiguration Data) (identities : List (Bool × List Nat))
    (state : System Data Value) : Prop where
  disciplined : ∀ thread ∈ state.threads, Disciplined pool.identity thread
  roles : state.threads.map Thread.identity = identities
  rests : ∀ worker clients, state.threads = worker :: clients →
    state.shared.phase.isCalling = false → worker.AtRest

theorem map_identity_of_woken {threads threads' : List (Thread Data Value)}
    (woken : List.Forall₂ Woken threads threads') :
    threads'.map Thread.identity = threads.map Thread.identity := by
  induction woken with
  | nil => rfl
  | cons first rest inductionHypothesis =>
      rw [List.map_cons, List.map_cons, first.identity_eq, inductionHypothesis]

/-- Waking threads keeps the order. -/
theorem Ordered.woken {identities : List (Bool × List Nat)}
    {state next : System Data Value} (ordered : Ordered pool identities state)
    (woken : List.Forall₂ Woken state.threads next.threads)
    (phase : next.shared.phase.isCalling = state.shared.phase.isCalling) :
    Ordered pool identities next where
  disciplined := forall_of_woken woken Woken.disciplined ordered.disciplined
  roles := (map_identity_of_woken woken).trans ordered.roles
  rests := by
    intro worker clients same elsewhere
    rw [same] at woken
    cases before : state.threads with
    | nil => rw [before] at woken; cases woken
    | cons first rest =>
        rw [before] at woken
        cases woken with
        | cons head tail => exact head.atRest (ordered.rests first rest before (phase ▸ elsewhere))

theorem Ordered.notified {identities : List (Bool × List Nat)}
    {state next : System Data Value} {notice : Notice}
    (ordered : Ordered pool identities state)
    (notified : Notified notice state next) : Ordered pool identities next := by
  refine ordered.woken notified.woken ?_
  rcases notified.shared_eq.2 with same | woken
  · rw [same]
  · rw [woken, WriterPhase.wake_isCalling]

/-- Every move keeps the order. -/
theorem Ordered.move {identities : List (Bool × List Nat)} {state next : System Data Value}
    (ordered : Ordered pool identities state) (move : Move pool state next) :
    Ordered pool identities next := by
  cases move with
  | disturbance disturbance =>
      refine ordered.woken disturbance.woken ?_
      cases disturbance with
      | writer => exact WriterPhase.wake_isCalling _
      | closes => exact WriterPhase.wake_isCalling _
      | _ => rfl
  | step step =>
      cases step with
      | @thread shared shared' before after thread thread' notice next step notified =>
          refine Ordered.notified ⟨?_, ?_, ?_⟩ notified
          · intro other member
            rcases List.mem_append.mp member with inBefore | inRest
            · exact ordered.disciplined other (List.mem_append_left _ inBefore)
            · rcases List.mem_cons.mp inRest with rfl | inAfter
              · exact step.disciplined (ordered.disciplined thread (by simp))
              · exact ordered.disciplined other (by simp [inAfter])
          · rw [← ordered.roles]
            simp [step.identity_eq]
          · intro worker clients same elsewhere
            cases before with
            | nil =>
                have rest := ordered.rests thread after rfl (step.phase_eq ▸ elsewhere)
                exact absurd step rest.no_step
            | cons first others =>
                obtain ⟨rfl, -⟩ := List.cons.inj same
                exact ordered.rests first _ rfl (step.phase_eq ▸ elsewhere)
      | @writer shared shared' clients thread thread' notice next step notified =>
          have rest := ordered.rests thread clients rfl
          refine Ordered.notified ⟨?_, ?_, ?_⟩ notified
          · have all := ordered.disciplined
            simp only [List.forall_mem_cons] at all ⊢
            exact ⟨step.disciplined rest all.1, all.2⟩
          · rw [← ordered.roles]
            simp [step.identity_eq]
          · intro worker others same elsewhere
            obtain ⟨rfl, -⟩ := List.cons.inj same
            exact step.rests rest elsewhere

/-- A client that comes to the pool with a program. -/
def Thread.IsClient (thread : Thread Data Value) : Prop :=
  ∃ outer program, thread = Thread.start false outer program

theorem Ordered.initial {writer : Writer Data} {clients : List (Thread Data Value)}
    {idle : Value} (fresh : ∀ thread ∈ clients, thread.IsClient) :
    Ordered pool ((System.initial pool writer clients idle).threads.map Thread.identity)
      (System.initial pool writer clients idle) where
  disciplined := by
    intro thread member
    rcases List.mem_cons.mp member with rfl | inClients
    · exact .outside rfl rfl rfl
    · obtain ⟨outer, program, rfl⟩ := fresh thread inClients
      exact .outside rfl rfl rfl
  roles := rfl
  rests := by
    intro worker others same _
    obtain ⟨rfl, -⟩ := List.cons.inj same
    exact ⟨⟨_, rfl⟩, rfl⟩

/-- In every interleaving the threads stay ordered. -/
theorem Ordered.reaches {identities : List (Bool × List Nat)}
    {state next : System Data Value} (ordered : Ordered pool identities state)
    (run : Reaches pool state next) : Ordered pool identities next := by
  induction run with
  | refl => exact ordered
  | tail _ move inductionHypothesis => exact inductionHypothesis.move move

end Csgdb.Pool
