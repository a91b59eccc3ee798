/-
Module: Csgdb.Proofs.ReadLeases
Purpose: When a leased reader goes back without an open transaction, and what the next
  callbacks then see.
Trusted boundary: none
Main exports: openAfterTexts, LeaseEvent.Settled, SettledRun,
  read_leases_hold_no_snapshot, text_transaction_outlives_lease
-/
import Csgdb.Pool.ReadConnection

namespace Csgdb.Pool

open Storage

variable {Data Row Value : Type} {fault : Nat → Nat → Option Fault}

/-! ## Transactions that texts open -/

/-- What the texts of a callback, the newest first, leave open. -/
def openAfterTexts : List (ReadCommand Data Row × StatementAnswer Row) → OpenText
  | [] => none
  | (command, answer) :: earlier =>
      if answer.rolledBack then none
      else if answer.ending = .ok true then afterText command.text (openAfterTexts earlier)
      else openAfterTexts earlier

/-- The reader has the transaction open that the texts say. -/
def Reader.Opened (current : OpenText) (reader : Reader) : Prop :=
  current = reader.transaction.map fun opened => (opened.explicit, opened.savepoints)

theorem Reader.Opened.closed {reader : Reader} (opened : reader.Opened none) :
    reader.transaction = none := by
  cases state : reader.transaction with
  | none => rfl
  | some current => simp [Reader.Opened, state] at opened

theorem Reader.opened_of_closed {reader : Reader} (closed : reader.transaction = none) :
    reader.Opened none := by
  simp [Reader.Opened, closed]

/-! ## One statement -/

/-- A successful control statement does what its text says. -/
theorem Reader.control_opened {command : ReadCommand Data Row} {reader : Reader}
    {current : OpenText} (opened : reader.Opened current)
    (ok : (reader.control command).2 = .ok true) :
    (reader.control command).1.Opened (afterText command.text current) := by
  cases state : reader.transaction with
  | none =>
      obtain rfl : current = none := by rw [opened, state]; rfl
      cases command with
      | begin =>
          simp [Reader.control, state, afterText,
            ReadCommand.text, ControlText.run, Reader.Opened]
      | savepoint name =>
          simp [Reader.control, state, afterText,
            ReadCommand.text, ControlText.run, Reader.Opened]
      | _ => simp only [Reader.control, state] at ok; cases ok
  | some held =>
      obtain rfl : current = some (held.explicit, held.savepoints) := by
        rw [opened, state]
        rfl
      cases command with
      | commit =>
          simp [Reader.control, state, afterText,
            ReadCommand.text, ControlText.run, Reader.Opened, Reader.rolledBack]
      | rollback =>
          simp [Reader.control, state, afterText,
            ReadCommand.text, ControlText.run, Reader.Opened, Reader.rolledBack]
      | savepoint name =>
          simp [Reader.control, state, afterText,
            ReadCommand.text, ControlText.run, Reader.Opened]
      | release name =>
          simp only [Reader.control, state, afterText, ReadCommand.text, ControlText.run] at ok ⊢
          cases found : savepointNames name held.savepoints with
          | none => rw [found] at ok; cases ok
          | some kept =>
              simp only
              split <;> simp [Reader.Opened, Reader.rolledBack]
      | rollbackTo name =>
          simp only [Reader.control, state, afterText, ReadCommand.text, ControlText.run] at ok ⊢
          cases found : savepointNames name held.savepoints with
          | none => rw [found] at ok; cases ok
          | some kept => simp [Reader.Opened]
      | _ => simp only [Reader.control, state] at ok; cases ok

/-- A control statement that fails changes nothing. -/
theorem Reader.control_failed {command : ReadCommand Data Row} {reader : Reader}
    (failed : (reader.control command).2 ≠ .ok true) :
    (reader.control command).1 = reader := by
  cases state : reader.transaction with
  | none =>
      cases command with
      | begin => simp only [Reader.control, state] at failed; exact absurd rfl failed
      | savepoint name =>
          simp only [Reader.control, state] at failed
          exact absurd rfl failed
      | _ => simp only [Reader.control, state]
  | some held =>
      cases command with
      | commit => simp only [Reader.control, state] at failed; exact absurd rfl failed
      | rollback => simp only [Reader.control, state] at failed; exact absurd rfl failed
      | savepoint name =>
          simp only [Reader.control, state] at failed
          exact absurd rfl failed
      | release name =>
          simp only [Reader.control, state] at failed ⊢
          cases found : savepointNames name held.savepoints with
          | none => rfl
          | some kept =>
              rw [found] at failed
              simp only at failed
              split at failed <;> exact absurd rfl failed
      | rollbackTo name =>
          simp only [Reader.control, state] at failed ⊢
          cases found : savepointNames name held.savepoints with
          | none => rfl
          | some kept => rw [found] at failed; exact absurd rfl failed
      | _ => simp only [Reader.control, state]

theorem Reader.holding_opened {reader : Reader} {current : OpenText}
    (opened : reader.Opened current) (latest : Nat) :
    (reader.holding latest).Opened current := by
  unfold Reader.Opened Reader.holding at *
  cases state : reader.transaction with
  | none => simpa [state] using opened
  | some held => simpa [state] using opened

def ReadCommand.isControl : ReadCommand Data Row → Bool
  | .invalid _ => false
  | .ordinary _ => false
  | _ => true

/-- A control statement that is stepped: it fails as the engine decides, or it runs. -/
theorem Reader.run_control {command : ReadCommand Data Row}
    (isControl : command.isControl = true) (fault : Nat → Option Fault)
    (committed : Nat → Data) (latest : Nat) {steps : Nat} (stepped : steps ≠ 0)
    (reader : Reader) :
    reader.run fault committed latest steps command =
      match fault reader.controls with
      | some (.refused error) =>
          ({ reader with controls := reader.controls + 1 },
            { rows := [], ending := .error error, rolledBack := false })
      | some (.aborted error) =>
          (({ reader with controls := reader.controls + 1 } : Reader).rolledBack,
            { rows := [], ending := .error error, rolledBack := true })
      | none =>
          ((({ reader with controls := reader.controls + 1 } : Reader).control command).1,
            { rows := []
              ending :=
                (({ reader with controls := reader.controls + 1 } : Reader).control command).2
              rolledBack := false }) := by
  cases command with
  | invalid error => cases isControl
  | ordinary behaviour => cases isControl
  | _ => exact if_neg stepped

/-- All that a statement does to the transaction of a reader: it keeps it, the engine
rolls it back, or a control statement succeeds. -/
theorem Reader.run_cases (fault : Nat → Option Fault) (committed : Nat → Data)
    (latest steps : Nat) (command : ReadCommand Data Row) (reader : Reader) :
    ((reader.run fault committed latest steps command).2.rolledBack = false ∧
        (command.isControl = true →
          (reader.run fault committed latest steps command).2.ending ≠ .ok true) ∧
        ((reader.run fault committed latest steps command).1.transaction =
            reader.transaction ∨
          (reader.run fault committed latest steps command).1 = reader.holding latest)) ∨
      ((reader.run fault committed latest steps command).2.rolledBack = true ∧
        (reader.run fault committed latest steps command).1.transaction = none) ∨
      ((reader.run fault committed latest steps command).2.rolledBack = false ∧
        (reader.run fault committed latest steps command).2.ending = .ok true ∧
        ∃ counted : Reader, counted.transaction = reader.transaction ∧
          (counted.control command).2 = .ok true ∧
          (reader.run fault committed latest steps command).1 =
            (counted.control command).1) := by
  cases kind : command.isControl with
  | false =>
      cases command with
      | invalid error => exact .inl ⟨rfl, (fun same => by cases same), .inl rfl⟩
      | ordinary behaviour =>
          simp only [Reader.run]
          split
          · exact .inl ⟨rfl, (fun same => by cases same), .inl rfl⟩
          · split
            · exact .inl ⟨rfl, (fun same => by cases same), .inr rfl⟩
            · cases (behaviour (committed (reader.sees latest))).2 with
              | done => exact .inl ⟨rfl, (fun same => by cases same), .inr rfl⟩
              | failed error => exact .inl ⟨rfl, (fun same => by cases same), .inr rfl⟩
              | aborted error => exact .inr (.inl ⟨rfl, rfl⟩)
      | _ => cases kind
  | true =>
      by_cases stepped : steps = 0
      · have idle : reader.run fault committed latest steps command =
            (reader, { rows := [], ending := .ok false, rolledBack := false }) := by
          cases command with
          | invalid error => cases kind
          | ordinary behaviour => cases kind
          | _ => simp only [Reader.run, if_pos stepped]
        rw [idle]
        exact .inl ⟨rfl, fun _ same => (by cases same), .inl rfl⟩
      · rw [Reader.run_control kind fault committed latest stepped reader]
        cases fault reader.controls with
        | some failure =>
            cases failure with
            | refused error => exact .inl ⟨rfl, fun _ same => (by cases same), .inl rfl⟩
            | aborted error => exact .inr (.inl ⟨rfl, rfl⟩)
        | none =>
            by_cases ok :
                (({ reader with controls := reader.controls + 1 } : Reader).control
                  command).2 = .ok true
            · exact .inr (.inr
                ⟨rfl, ok, { reader with controls := reader.controls + 1 }, rfl, ok, rfl⟩)
            · refine .inl ⟨rfl, fun _ => ok, .inl ?_⟩
              change (({ reader with controls := reader.controls + 1 } : Reader).control
                command).1.transaction = reader.transaction
              rw [Reader.control_failed ok]

/-- A statement leaves the transaction open that the texts with its own one say. -/
theorem Reader.run_opened {reader : Reader}
    {texts : List (ReadCommand Data Row × StatementAnswer Row)}
    (opened : reader.Opened (openAfterTexts texts)) (fault : Nat → Option Fault)
    (committed : Nat → Data) (latest steps : Nat) (command : ReadCommand Data Row) :
    (reader.run fault committed latest steps command).1.Opened
      (openAfterTexts
        ((command, (reader.run fault committed latest steps command).2) :: texts)) := by
  rcases reader.run_cases fault committed latest steps command with
    ⟨kept, noSuccess, same⟩ | ⟨rolled, closed⟩ | ⟨kept, ok, counted, sameOpen, ran, same⟩
  · have unchanged : openAfterTexts
        ((command, (reader.run fault committed latest steps command).2) :: texts) =
          openAfterTexts texts := by
      simp only [openAfterTexts, kept, Bool.false_eq_true, if_false]
      split
      case isTrue ended =>
        cases command with
        | invalid error => simp [afterText, ReadCommand.text]
        | ordinary behaviour => simp [afterText, ReadCommand.text]
        | _ => exact absurd ended (noSuccess rfl)
      case isFalse => rfl
    rw [unchanged]
    rcases same with same | same
    · simpa [Reader.Opened, same] using opened
    · rw [same]
      exact Reader.holding_opened opened latest
  · simp only [openAfterTexts, rolled, if_true]
    exact Reader.opened_of_closed closed
  · simp only [openAfterTexts, kept, ok, Bool.false_eq_true, if_false, if_true]
    rw [same]
    apply Reader.control_opened _ ran
    simpa [Reader.Opened, sameOpen] using opened

/-- The transaction of a reader, if it holds a version, holds no older one. -/
def Reader.Recent (since : Nat) (reader : Reader) : Prop :=
  ∀ opened ∈ reader.transaction, ∀ version ∈ opened.snapshot, since ≤ version

theorem Reader.recent_of_closed {since : Nat} {reader : Reader}
    (closed : reader.transaction = none) : reader.Recent since := by
  simp [Reader.Recent, closed]

/-- A successful control statement takes no version. -/
theorem Reader.control_recent {since : Nat} {command : ReadCommand Data Row}
    {reader : Reader} (recent : reader.Recent since) :
    (reader.control command).1.Recent since := by
  by_cases ok : (reader.control command).2 = .ok true
  · cases state : reader.transaction with
    | none =>
        cases command with
        | begin => simp [Reader.control, state, Reader.Recent]
        | savepoint name => simp [Reader.control, state, Reader.Recent]
        | _ => simp only [Reader.control, state] at ok; cases ok
    | some held =>
        have heldRecent := recent held state
        cases command with
        | commit =>
            exact Reader.recent_of_closed (by simp [Reader.control, state, Reader.rolledBack])
        | rollback =>
            exact Reader.recent_of_closed (by simp [Reader.control, state, Reader.rolledBack])
        | savepoint name => simpa [Reader.control, state, Reader.Recent] using heldRecent
        | release name =>
            simp only [Reader.control, state]
            cases savepointNames name held.savepoints with
            | none => exact recent
            | some kept =>
                simp only
                split
                · exact Reader.recent_of_closed rfl
                · simpa [Reader.Recent] using heldRecent
        | rollbackTo name =>
            simp only [Reader.control, state]
            cases savepointNames name held.savepoints with
            | none => exact recent
            | some kept => simpa [Reader.Recent] using heldRecent
        | _ => simp only [Reader.control, state] at ok; cases ok
  · rw [Reader.control_failed ok]
    exact recent

theorem Reader.run_recent {reader : Reader} {since latest : Nat}
    (recent : reader.Recent since) (old : since ≤ latest) (fault : Nat → Option Fault)
    (committed : Nat → Data) (steps : Nat) (command : ReadCommand Data Row) :
    (reader.run fault committed latest steps command).1.Recent since := by
  rcases reader.run_cases fault committed latest steps command with
    ⟨-, -, same⟩ | ⟨-, closed⟩ | ⟨-, -, counted, sameOpen, -, same⟩
  · rcases same with same | same
    · simpa [Reader.Recent, same] using recent
    · rw [same]
      intro opened isOpen version held
      obtain ⟨before, wasOpen, rfl⟩ := Option.map_eq_some_iff.mp isOpen
      obtain rfl := Option.some.inj held
      cases taken : before.snapshot with
      | none => exact old
      | some version => exact recent before wasOpen version taken
  · exact Reader.recent_of_closed closed
  · rw [same]
    apply Reader.control_recent
    simpa [Reader.Recent, sameOpen] using recent

/-- `BEGIN` succeeds only where no transaction is open. -/
theorem Reader.closed_of_begin {reader : Reader} {fault : Nat → Option Fault}
    {committed : Nat → Data} {latest : Nat} {ended : Bool}
    (ok : (reader.run fault committed latest 1 (.begin : ReadCommand Data Row)).2.ending =
      .ok ended) : reader.transaction = none := by
  rw [Reader.run_control rfl fault committed latest Nat.one_ne_zero] at ok
  cases decided : fault reader.controls with
  | some failure =>
      rw [decided] at ok
      cases failure <;> cases ok
  | none =>
      cases state : reader.transaction with
      | none => rfl
      | some opened =>
          simp only [decided, Reader.control, state] at ok
          cases ok

/-! ## One lease -/

/-- The texts of a callback account for the transaction that is open outside of
transaction values; a transaction value starts from none. -/
def Lease.Accounted (lease : Lease Data Row Value) (reader : Reader) : Prop :=
  match lease.place with
  | .callback _ => reader.Opened (openAfterTexts lease.texts)
  | .scope _ => openAfterTexts lease.texts = none

structure LeaseKept (latest : Nat) (reader : Reader) (lease : Lease Data Row Value) :
    Prop where
  since_le : lease.since ≤ latest
  recent : reader.Recent lease.since
  accounted : lease.Accounted reader

/-- One operation keeps the account of a lease. -/
theorem Lease.advance_kept {fault : Nat → Option Fault} {committed : Nat → Data}
    {latest : Nat} {reader after : Reader} {lease next : Lease Data Row Value}
    (kept : LeaseKept latest reader lease)
    (runs : lease.advance fault committed latest reader = some (after, next)) :
    LeaseKept latest after next ∧ next.number = lease.number := by
  obtain ⟨number, since, texts, place⟩ := lease
  obtain ⟨old, recent, accounted⟩ := kept
  have ran (steps : Nat) (command : ReadCommand Data Row) :=
    Reader.run_recent recent old fault committed steps command
  cases place with
  | callback callback =>
      cases callback with
      | ends outcome => cases runs
      | statement steps command resume =>
          obtain ⟨rfl, rfl⟩ := Prod.mk.inj (Option.some.inj runs)
          exact ⟨⟨old, ran steps command,
            Reader.run_opened accounted fault committed latest steps command⟩, rfl⟩
      | transaction refused body =>
          have opened := Reader.run_opened accounted fault committed latest 1 .begin
          simp only [Lease.advance] at runs
          cases ending : (reader.run fault committed latest 1
              (.begin : ReadCommand Data Row)).2.ending with
          | error error =>
              simp only [ending] at runs
              obtain ⟨rfl, rfl⟩ := Prod.mk.inj (Option.some.inj runs)
              exact ⟨⟨old, ran 1 .begin, opened⟩, rfl⟩
          | ok ended =>
              simp only [ending] at runs
              obtain ⟨rfl, rfl⟩ := Prod.mk.inj (Option.some.inj runs)
              have closed := Reader.closed_of_begin ending
              refine ⟨⟨old, ran 1 .begin, ?_⟩, rfl⟩
              have none : openAfterTexts texts = none := by
                rw [show openAfterTexts texts = _ from accounted, closed]
                rfl
              exact none
  | scope scope =>
      have closed : (reader.rolledBack).Opened (openAfterTexts texts) := by
        rw [show openAfterTexts texts = none from accounted]
        exact Reader.opened_of_closed rfl
      cases scope with
      | statement steps command resume =>
          obtain ⟨rfl, rfl⟩ := Prod.mk.inj (Option.some.inj runs)
          exact ⟨⟨old, ran steps command, accounted⟩, rfl⟩
      | commit resume =>
          obtain ⟨rfl, rfl⟩ := Prod.mk.inj (Option.some.inj runs)
          exact ⟨⟨old, Reader.recent_of_closed rfl, closed⟩, rfl⟩
      | drop resume =>
          obtain ⟨rfl, rfl⟩ := Prod.mk.inj (Option.some.inj runs)
          exact ⟨⟨old, Reader.recent_of_closed rfl, closed⟩, rfl⟩
      | panics =>
          obtain ⟨rfl, rfl⟩ := Prod.mk.inj (Option.some.inj runs)
          exact ⟨⟨old, Reader.recent_of_closed rfl, closed⟩, rfl⟩

/-! ## All leases -/

/-- When the lease is dropped, its callback has ended with its own texts every
transaction that it began with them. -/
def LeaseEvent.Settled : LeaseEvent Data Row Value → Prop
  | .finish lease => openAfterTexts lease.texts = none
  | _ => True

/-- Runs in which every event meets a condition. -/
inductive LeaseRun (fault : Nat → Nat → Option Fault)
    (allowed : LeaseEvent Data Row Value → Prop) (start : LeasedReaders Data Row Value) :
    LeasedReaders Data Row Value → Prop
  | start : LeaseRun fault allowed start start
  | step {state next : LeasedReaders Data Row Value} {event : LeaseEvent Data Row Value}
      (run : LeaseRun fault allowed start state) (step : LeaseStep fault event state next)
      (isAllowed : allowed event) : LeaseRun fault allowed start next

/-- A pool that was just opened: distinct connections, none of them leased or in a
transaction. -/
structure JustOpened (state : LeasedReaders Data Row Value) : Prop where
  distinct : state.readers.connections.Nodup
  unleased : state.leases = []
  closed : ∀ number, (state.connection number).transaction = none

/-- What holds between two steps of a settled run. -/
structure LeasesKept (state : LeasedReaders Data Row Value) : Prop where
  distinct : (state.readers.connections ++ state.leases.map Lease.number).Nodup
  free_closed : ∀ number ∈ state.readers.connections,
    (state.connection number).transaction = none
  leases : ∀ lease ∈ state.leases,
    LeaseKept state.latest (state.connection lease.number) lease

theorem JustOpened.kept {state : LeasedReaders Data Row Value}
    (opened : JustOpened state) : LeasesKept state where
  distinct := by simpa [opened.unleased] using opened.distinct
  free_closed := fun number _ => opened.closed number
  leases := by simp [opened.unleased]

/-- The connection of a lease is neither free nor leased a second time. -/
theorem LeasesKept.number_ne {state : LeasedReaders Data Row Value}
    {earlier later : List (Lease Data Row Value)} {lease : Lease Data Row Value}
    (kept : LeasesKept state) (place : state.leases = earlier ++ lease :: later) :
    (∀ number ∈ state.readers.connections, number ≠ lease.number) ∧
      ∀ other ∈ earlier ++ later, other.number ≠ lease.number := by
  have distinct := kept.distinct
  rw [place, List.map_append, List.map_cons] at distinct
  obtain ⟨-, leases, apart⟩ := List.nodup_append.mp distinct
  have once := List.nodup_cons.mp (List.perm_middle.nodup_iff.mp leases)
  constructor
  · intro number member
    exact apart number member lease.number (by simp)
  · intro other member same
    rw [← List.map_append] at once
    exact once.1 (List.mem_map.mpr ⟨other, member, same⟩)

/-- An operation of one callback keeps all leases. -/
theorem LeasesKept.operation {state : LeasedReaders Data Row Value}
    {earlier later : List (Lease Data Row Value)} {lease next : Lease Data Row Value}
    {reader : Reader} {fault : Nat → Option Fault} (kept : LeasesKept state)
    (place : state.leases = earlier ++ lease :: later)
    (runs : lease.advance fault state.committed state.latest
      (state.connection lease.number) = some (reader, next)) :
    LeasesKept { state with
      connection := Function.update state.connection lease.number reader
      leases := earlier ++ next :: later } := by
  have leased : lease ∈ state.leases := by rw [place]; simp
  obtain ⟨nextKept, sameNumber⟩ := Lease.advance_kept (kept.leases lease leased) runs
  obtain ⟨notFree, notLeased⟩ := kept.number_ne place
  constructor
  · have distinct := kept.distinct
    rw [place, List.map_append, List.map_cons] at distinct
    simpa only [List.map_append, List.map_cons, sameNumber] using distinct
  · intro number member
    change (Function.update state.connection lease.number reader number).transaction = none
    rw [Function.update_of_ne (notFree number member)]
    exact kept.free_closed number member
  · intro other member
    change LeaseKept state.latest
      (Function.update state.connection lease.number reader other.number) other
    have another (elsewhere : other ∈ earlier ++ later) : LeaseKept state.latest
        (Function.update state.connection lease.number reader other.number) other := by
      rw [Function.update_of_ne (notLeased other elsewhere)]
      apply kept.leases
      rw [place]
      rcases List.mem_append.mp elsewhere with before | behind
      · exact List.mem_append_left _ before
      · exact List.mem_append_right _ (List.mem_cons_of_mem _ behind)
    rcases List.mem_append.mp member with before | rest
    · exact another (List.mem_append_left _ before)
    · rcases List.mem_cons.mp rest with rfl | behind
      · rw [sameNumber, Function.update_self]
        exact nextKept
      · exact another (List.mem_append_right _ behind)

theorem LeasesKept.step {state next : LeasedReaders Data Row Value}
    {event : LeaseEvent Data Row Value} (kept : LeasesKept state)
    (settled : event.Settled) (step : LeaseStep fault event state next) :
    LeasesKept next := by
  cases step with
  | @checkout _ number after callback free =>
      have shape := ReadPool.checkout_some free
      have distinct := kept.distinct
      rw [shape] at distinct
      have closed : (state.connection number).transaction = none :=
        kept.free_closed number (by rw [shape]; exact List.mem_cons_self)
      refine ⟨List.perm_middle.nodup_iff.mpr distinct, ?_, ?_⟩
      · intro other member
        exact kept.free_closed other (by rw [shape]; exact List.mem_cons_of_mem _ member)
      · intro lease member
        rcases List.mem_cons.mp member with rfl | member
        · exact ⟨Nat.le_refl _, Reader.recent_of_closed closed,
            Reader.opened_of_closed closed⟩
        · exact kept.leases lease member
  | rejected empty => exact ⟨kept.distinct, kept.free_closed, kept.leases⟩
  | operation place runs => exact kept.operation place runs
  | @finish _ earlier later lease outcome place ended =>
      have leased : lease ∈ state.leases := by rw [place]; simp
      have account := (kept.leases lease leased).accounted
      unfold Lease.Accounted at account
      rw [ended] at account
      simp only at account
      rw [show openAfterTexts lease.texts = none from settled] at account
      have distinct := kept.distinct
      rw [place, List.map_append, List.map_cons, ← List.append_assoc] at distinct
      refine ⟨?_, ?_, ?_⟩
      · rw [List.map_append]
        have moved := List.perm_middle.nodup_iff.mp distinct
        rw [List.append_assoc] at moved
        exact moved
      · intro number member
        rcases List.mem_cons.mp member with rfl | old
        · exact account.closed
        · exact kept.free_closed number old
      · intro other member
        apply kept.leases other
        rw [place]
        rcases List.mem_append.mp member with before | behind
        · exact List.mem_append_left _ before
        · exact List.mem_append_right _ (List.mem_cons_of_mem _ behind)
  | write data =>
      refine ⟨kept.distinct, kept.free_closed, fun lease member => ?_⟩
      have old := kept.leases lease member
      exact ⟨Nat.le_succ_of_le old.since_le, old.recent, old.accounted⟩

theorem LeaseRun.kept {start state : LeasedReaders Data Row Value}
    (opened : JustOpened start)
    (run : LeaseRun fault LeaseEvent.Settled start state) : LeasesKept state := by
  induction run with
  | start => exact opened.kept
  | step _ step settled inductionHypothesis => exact inductionHypothesis.step settled step

/-- What a lease reads is never older than its checkout. -/
theorem LeaseKept.since_le_sees {latest : Nat} {reader : Reader}
    {lease : Lease Data Row Value} (kept : LeaseKept latest reader lease) :
    lease.since ≤ reader.sees latest := by
  unfold Reader.sees
  cases state : reader.transaction with
  | none => exact kept.since_le
  | some opened =>
      change lease.since ≤ opened.snapshot.getD latest
      cases taken : opened.snapshot with
      | none => exact kept.since_le
      | some version => exact kept.recent opened state version taken

/-- In every run whose callbacks end the transactions that they begin by their texts, every
callback starts without an open transaction, a connection without a lease holds none, and
a lease reads nothing older than what was committed when it was checked out. -/
theorem read_leases_hold_no_snapshot (fault : Nat → Nat → Option Fault)
    (start state : LeasedReaders Data Row Value) (opened : JustOpened start)
    (run : LeaseRun fault LeaseEvent.Settled start state) :
    (∀ (lease : Lease Data Row Value) (next : LeasedReaders Data Row Value),
      LeaseStep fault (.checkout lease) state next →
        lease.since = state.latest ∧ (next.connection lease.number).transaction = none) ∧
    (∀ number ∈ state.readers.connections,
      (state.connection number).transaction = none) ∧
    (∀ lease ∈ state.leases,
      lease.since ≤ (state.connection lease.number).sees state.latest) := by
  have kept := run.kept opened
  refine ⟨?_, kept.free_closed, fun lease member => (kept.leases lease member).since_le_sees⟩
  intro lease next step
  cases step with
  | @checkout _ number after callback free =>
      refine ⟨rfl, kept.free_closed number ?_⟩
      rw [ReadPool.checkout_some free]
      exact List.mem_cons_self

/-! ## One reader -/

/-- A pool of one reader over a stored number. -/
def oneReader : LeasedReaders Nat Nat Int where
  readers := { connections := [0], active := 0, rejectedCheckouts := 0 }
  connection := fun _ => { transaction := none, controls := 0 }
  leases := []
  committed := fun _ => 0
  latest := 0

def selectStored : ReadCommand Nat Nat :=
  .ordinary fun stored => ([stored], .done)

def storedColumn (stored : Nat) : Result Int := .ok stored

/-- `query_i64("BEGIN")`, which fails because it yields no row, and a query. -/
def beginningRead : ReadCallback Nat Nat Int :=
  .queryI64 storedColumn .begin fun begun =>
    .queryI64 storedColumn selectStored fun _ => .ends (.returned begun)

def plainRead : ReadCallback Nat Nat Int :=
  .queryI64 storedColumn selectStored fun stored => .ends (.returned stored)

/-- The texts of a callback that failed leave a transaction and its snapshot behind, so
that the next callback on the connection misses a write that was answered before. -/
theorem text_transaction_outlives_lease :
    ∃ state : LeasedReaders Nat Nat Int,
      JustOpened oneReader ∧
      LeaseRun (fun _ _ => none) (fun _ => True) oneReader state ∧
      state.leases.map (fun lease => (lease.number, lease.since)) = [(0, 1)] ∧
      (state.connection 0).transaction =
        some { snapshot := some 0, savepoints := [], explicit := true } ∧
      (state.connection 0).sees state.latest = 0 := by
  have taken : LeaseRun (fun _ _ => none) (fun _ => True) oneReader _ :=
    .step .start (.checkout beginningRead rfl) trivial
  have begun := LeaseRun.step taken (.operation (@rfl _ ([] ++ _ :: [])) rfl) trivial
  have queried := LeaseRun.step begun (.operation (@rfl _ ([] ++ _ :: [])) rfl) trivial
  have returned := LeaseRun.step queried (.finish (@rfl _ ([] ++ _ :: [])) rfl) trivial
  have written := LeaseRun.step returned (.write 7) trivial
  have taken := LeaseRun.step written (.checkout plainRead rfl) trivial
  exact ⟨_, ⟨by decide, rfl, fun _ => rfl⟩, taken, rfl, rfl, rfl⟩

/-- Texts that begin and commit a transaction, and a transaction value in which the
callback panics. -/
def settledRead : ReadCallback Nat Nat Int :=
  .prepareExecute .begin fun _ =>
    .prepareExecute .commit fun _ =>
      .transaction (fun error => .ends (.returned (.error error)))
        (.statement 1 selectStored fun _ => .panics)

/-- Behind such a callback the next one starts clean and sees the write. -/
theorem settled_read_holds_nothing :
    ∃ state : LeasedReaders Nat Nat Int,
      state.leases.map (fun lease => (lease.number, lease.since)) = [(0, 1)] ∧
      (∀ number ∈ state.readers.connections,
        (state.connection number).transaction = none) ∧
      ∀ lease ∈ state.leases,
        lease.since ≤ (state.connection lease.number).sees state.latest := by
  have taken : LeaseRun (fun _ _ => none) LeaseEvent.Settled oneReader _ :=
    .step .start (.checkout settledRead rfl) trivial
  have begun := LeaseRun.step taken (.operation (@rfl _ ([] ++ _ :: [])) rfl) trivial
  have committed := LeaseRun.step begun (.operation (@rfl _ ([] ++ _ :: [])) rfl) trivial
  have opened := LeaseRun.step committed (.operation (@rfl _ ([] ++ _ :: [])) rfl) trivial
  have queried := LeaseRun.step opened (.operation (@rfl _ ([] ++ _ :: [])) rfl) trivial
  have written := LeaseRun.step queried (.write 7) trivial
  have panicked := LeaseRun.step written (.operation (@rfl _ ([] ++ _ :: [])) rfl) trivial
  have returned := LeaseRun.step panicked (.finish (@rfl _ ([] ++ _ :: [])) rfl) rfl
  have taken := LeaseRun.step returned (.checkout plainRead rfl) trivial
  exact ⟨_, rfl, (read_leases_hold_no_snapshot (fun _ _ => none) oneReader _
    ⟨by decide, rfl, fun _ => rfl⟩ taken).2⟩

end Csgdb.Pool
