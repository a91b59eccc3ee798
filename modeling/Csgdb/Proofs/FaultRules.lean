/-
Module: Csgdb.Proofs.FaultRules
Purpose: An armed rule fails exactly the operation it is for, the counters of a session show
  what happened, and a partial write leaves exactly its leading bytes.
Trusted boundary: a successful write of the file below writes the bytes that it was given.
Main exports: FaultRule.matching, Controller.Tracks, Controller.Tracks.access,
  Controller.after_stats, Persisted, ioWrite_prefix_eq, fault_rules_exact
-/
import Csgdb.Foundation.Occurrence
import Csgdb.Storage.Fault

namespace Csgdb.Storage.Fault

open Foundation

/-! ## Armed rules -/

section Rules

/-- An operation that a rule is for. -/
def FaultRule.matching (rule : FaultRule) (access : Access) : Bool :=
  rule.operation == access.operation && targetMatches rule.target access.target

theorem FaultRule.occurrence_pos (rule : FaultRule) : 0 < rule.occurrence.toNat :=
  Nat.pos_of_ne_zero fun zero => rule.positive (UInt64.toNat_inj.mp zero)

theorem FaultRule.occurrence_le (rule : FaultRule) : rule.occurrence.toNat ≤ maxCount :=
  Nat.le_of_lt_succ rule.occurrence.toNat_lt

/-- The controller with one more match. -/
def Controller.withMatch (controller : Controller) (operation : FaultOperation) : Controller :=
  let seen := controller.stats.seen operation
  { controller with
    matchCount := saturatingSucc maxCount controller.matchCount
    stats := { seen with
      matchingOperations := saturatingSucc maxCount seen.matchingOperations } }

/-- What an operation does to the controller: it is counted, and when it is one of the
armed rule it is matched, and failed when it is due. -/
theorem Controller.intercept_cases (controller : Controller) (access : Access) :
    (∀ rule, controller.rule = some rule → rule.matching access = false) ∧
      controller.intercept access.operation access.target =
        (none, { controller with stats := controller.stats.seen access.operation }) ∨
    (∃ rule, controller.rule = some rule ∧ rule.matching access = true ∧
      saturatingSucc maxCount controller.matchCount ≠ rule.occurrence.toNat ∧
      controller.intercept access.operation access.target =
        (none, controller.withMatch access.operation)) ∨
    ∃ rule, controller.rule = some rule ∧ rule.matching access = true ∧
      saturatingSucc maxCount controller.matchCount = rule.occurrence.toNat ∧
      controller.intercept access.operation access.target =
        (some rule.action,
          { rule := none
            matchCount := saturatingSucc maxCount controller.matchCount
            stats := { (controller.withMatch access.operation).stats with
              injections := saturatingSucc maxCount
                (controller.stats.seen access.operation).injections } }) := by
  unfold intercept
  cases armed : controller.rule with
  | none =>
      refine .inl ⟨?_, ?_⟩
      · exact nofun
      · simp only
  | some rule =>
      have foreign : (decide (rule.operation ≠ access.operation) ||
          !targetMatches rule.target access.target) = !rule.matching access := by
        unfold FaultRule.matching
        rw [Bool.not_and, beq_eq_decide, decide_not]
      dsimp only
      rw [foreign]
      cases matching : rule.matching access with
      | false =>
          refine .inl ⟨?_, if_pos rfl⟩
          rintro other same
          obtain rfl := Option.some.inj same
          exact matching
      | true =>
          rw [Bool.not_true, if_neg Bool.false_ne_true]
          unfold withMatch
          rw [armed]
          by_cases due : saturatingSucc maxCount controller.matchCount = rule.occurrence.toNat
          · exact .inr (.inr ⟨rule, rfl, matching, due, if_neg (not_not_intro due)⟩)
          · exact .inr (.inl ⟨rule, rfl, matching, due, if_pos due⟩)

/-- A controller that was armed with a rule and has seen so many operations of its. -/
def Controller.Tracks (controller : Controller) (rule : FaultRule) (seen : Nat) : Prop :=
  if seen < rule.occurrence.toNat then
    controller.rule = some rule ∧ controller.matchCount = seen
  else controller.rule = none

theorem Controller.tracks_arm (controller : Controller) (rule : FaultRule) :
    (controller.arm rule).Tracks rule 0 := by
  unfold Tracks
  rw [if_pos rule.occurrence_pos]
  exact ⟨rfl, rfl⟩

/-- Without a rule no operation is failed, and none arms one. -/
theorem Controller.intercept_disarmed {controller : Controller}
    (disarmed : controller.rule = none) (access : Access) :
    controller.answer (.access access) = none ∧
      (controller.step (.access access)).rule = none := by
  rcases controller.intercept_cases access with
    ⟨-, same⟩ | ⟨rule, armed, -⟩ | ⟨rule, armed, -⟩
  · dsimp only [answer, step]
    rw [same]
    exact ⟨rfl, disarmed⟩
  · rw [disarmed] at armed
    cases armed
  · rw [disarmed] at armed
    cases armed

theorem Controller.Tracks.access {controller : Controller} {rule : FaultRule} {seen : Nat}
    (tracks : controller.Tracks rule seen) (access : Access) :
    controller.answer (.access access) =
        (if IsOccurrence rule.matching rule.occurrence.toNat seen access then some rule.action
          else none) ∧
      (controller.step (.access access)).Tracks rule (seenWith rule.matching seen access) := by
  unfold Tracks at tracks
  by_cases early : seen < rule.occurrence.toNat
  · rw [if_pos early] at tracks
    obtain ⟨armed, counted⟩ := tracks
    -- the count stays below the occurrence, and with it in the range of its type
    have next : saturatingSucc maxCount controller.matchCount = seen + 1 := by
      rw [counted]
      exact Nat.min_eq_left (Nat.le_trans early rule.occurrence_le)
    dsimp only [answer, step]
    rcases controller.intercept_cases access with
      ⟨foreign, same⟩ | ⟨own, there, matching, later, same⟩ | ⟨own, there, matching, now, same⟩
    · have other := foreign rule armed
      have stays : seenWith rule.matching seen access = seen := if_neg (by simp [other])
      rw [same, stays, if_neg fun due => Bool.false_ne_true (other.symm.trans due.1)]
      unfold Tracks
      rw [if_pos early]
      exact ⟨rfl, armed, counted⟩
    · obtain rfl := Option.some.inj (armed.symm.trans there)
      have counts : seenWith rule.matching seen access = seen + 1 := if_pos matching
      rw [next] at later
      rw [same, counts, if_neg fun due => later due.2]
      unfold Tracks
      rw [if_pos (Nat.lt_of_le_of_ne early later)]
      exact ⟨rfl, armed, next⟩
    · obtain rfl := Option.some.inj (armed.symm.trans there)
      have counts : seenWith rule.matching seen access = seen + 1 := if_pos matching
      rw [next] at now
      rw [same, counts, if_pos ⟨matching, now⟩]
      unfold Tracks
      rw [if_neg (Nat.not_lt.mpr (Nat.le_of_eq now.symm))]
      exact ⟨rfl, rfl⟩
  · rw [if_neg early] at tracks
    obtain ⟨quiet, still⟩ := intercept_disarmed tracks access
    constructor
    · rw [quiet, if_neg]
      rintro ⟨-, now⟩
      omega
    · unfold Tracks seenWith
      rw [if_neg]
      · exact still
      · split <;> omega

theorem Controller.Tracks.run {controller : Controller} {rule : FaultRule} {seen : Nat}
    (tracks : controller.Tracks rule seen) (accesses : List Access) :
    ((accesses.map .access).foldl Controller.step controller).Tracks rule
      (seen + accesses.countP rule.matching) := by
  rw [← foldl_seenWith]
  induction accesses generalizing controller seen with
  | nil => exact tracks
  | cons access rest inductionHypothesis => exact inductionHypothesis (tracks.access access).2

theorem Controller.run_disarmed {controller : Controller} (disarmed : controller.rule = none)
    (accesses : List Access) :
    ((accesses.map .access).foldl Controller.step controller).rule = none := by
  induction accesses generalizing controller with
  | nil => exact disarmed
  | cons access rest inductionHypothesis =>
      exact inductionHypothesis (intercept_disarmed disarmed access).2

/-- An event that is answered with a failure. -/
def Controller.injects (controller : Controller) (event : FaultEvent) : Bool :=
  (controller.answer event).isSome

/-- A rule fires as often as there is an operation that is the n-th of its. -/
theorem Controller.Tracks.injections {controller : Controller} {rule : FaultRule} {seen : Nat}
    (tracks : controller.Tracks rule seen) (accesses : List Access) :
    countSteps Controller.step Controller.injects controller (accesses.map .access) =
      countOccurrences rule.matching rule.occurrence.toNat seen accesses := by
  induction accesses generalizing controller seen with
  | nil => rfl
  | cons access rest inductionHypothesis =>
      obtain ⟨answer, next⟩ := tracks.access access
      rw [List.map_cons, countSteps, countOccurrences, inductionHypothesis next]
      congr 1
      unfold injects
      rw [answer]
      split <;> rfl

end Rules

/-! ## Counters -/

section Stats

/-- The counter of an operation. -/
def FaultStats.count (stats : FaultStats) : FaultOperation → Nat
  | .write => stats.writes
  | .sync => stats.syncs
  | .truncate => stats.truncates

def FaultEvent.isOperation (operation : FaultOperation) : FaultEvent → Bool
  | .access made => made.operation == operation
  | .arm _ | .disarm => false

/-- An event that the armed rule is for. -/
def Controller.matched (controller : Controller) : FaultEvent → Bool
  | .access access => controller.rule.any (·.matching access)
  | .arm _ | .disarm => false

theorem FaultStats.seen_count (stats : FaultStats) (one other : FaultOperation) :
    (stats.seen one).count other =
      if one == other then saturatingSucc maxCount (stats.count other)
      else stats.count other := by
  cases one <;> cases other <;> rfl

theorem FaultStats.seen_rest (stats : FaultStats) (operation : FaultOperation) :
    (stats.seen operation).matchingOperations = stats.matchingOperations ∧
      (stats.seen operation).injections = stats.injections := by
  cases operation <;> exact ⟨rfl, rfl⟩

/-- What one event does to the counters. -/
theorem Controller.step_stats (controller : Controller) (event : FaultEvent) :
    (∀ operation, (controller.step event).stats.count operation =
      if event.isOperation operation then
        saturatingSucc maxCount (controller.stats.count operation)
      else controller.stats.count operation) ∧
    (controller.step event).stats.matchingOperations =
      (if controller.matched event then
        saturatingSucc maxCount controller.stats.matchingOperations
      else controller.stats.matchingOperations) ∧
    (controller.step event).stats.injections =
      if controller.injects event then saturatingSucc maxCount controller.stats.injections
      else controller.stats.injections := by
  cases event with
  | arm | disarm => exact ⟨fun _ => rfl, rfl, rfl⟩
  | access access =>
      have counted := controller.stats.seen_count access.operation
      obtain ⟨sameMatching, sameInjections⟩ := controller.stats.seen_rest access.operation
      have matched : controller.matched (.access access) =
          controller.rule.any (·.matching access) := rfl
      rcases controller.intercept_cases access with
        ⟨foreign, same⟩ | ⟨rule, armed, matching, -, same⟩ | ⟨rule, armed, matching, -, same⟩
      · have other : controller.rule.any (·.matching access) = false := by
          cases there : controller.rule with
          | none => rfl
          | some rule => exact foreign rule there
        have quiet : controller.injects (.access access) = false := congrArg (·.1.isSome) same
        have next := congrArg Prod.snd same
        change controller.step (.access access) = _ at next
        rw [next, matched, other, quiet]
        exact ⟨counted, sameMatching, sameInjections⟩
      · have quiet : controller.injects (.access access) = false := congrArg (·.1.isSome) same
        have next := congrArg Prod.snd same
        change controller.step (.access access) = _ at next
        rw [next, matched, armed, Option.any_some, matching, quiet]
        exact ⟨counted, congrArg (saturatingSucc maxCount) sameMatching, sameInjections⟩
      · have fires : controller.injects (.access access) = true := congrArg (·.1.isSome) same
        have next := congrArg Prod.snd same
        change controller.step (.access access) = _ at next
        rw [next, matched, armed, Option.any_some, matching, fires]
        exact ⟨counted, congrArg (saturatingSucc maxCount) sameMatching,
          congrArg (saturatingSucc maxCount) sameInjections⟩

/-- The counters of a session show what happened in it, up to the range of their type. -/
theorem Controller.after_stats (events : List FaultEvent) :
    (∀ operation, (Controller.after events).stats.count operation =
      min (events.countP (FaultEvent.isOperation operation)) maxCount) ∧
    (Controller.after events).stats.matchingOperations =
      min (countSteps Controller.step Controller.matched .new events) maxCount ∧
    (Controller.after events).stats.injections =
      min (countSteps Controller.step Controller.injects .new events) maxCount := by
  refine ⟨?_, ?_, ?_⟩
  · intro operation
    have zero : Controller.new.stats.count operation = 0 := by
      cases operation <;> rfl
    have shown := saturating_run (fun controller : Controller => controller.stats.count operation)
      (fun controller event => (controller.step_stats event).1 operation)
      (zero.trans_le (Nat.zero_le _)) events
    rw [countSteps_eq_countP, zero, Nat.zero_add] at shown
    exact shown
  · have zero : Controller.new.stats.matchingOperations = 0 := rfl
    have shown := saturating_run
      (fun controller : Controller => controller.stats.matchingOperations)
      (fun controller event => (controller.step_stats event).2.1)
      (zero.trans_le (Nat.zero_le _)) events
    rw [zero, Nat.zero_add] at shown
    exact shown
  · have zero : Controller.new.stats.injections = 0 := rfl
    have shown := saturating_run (fun controller : Controller => controller.stats.injections)
      (fun controller event => (controller.step_stats event).2.2)
      (zero.trans_le (Nat.zero_le _)) events
    rw [zero, Nat.zero_add] at shown
    exact shown

end Stats

/-! ## Partial writes -/

section Files

/-- A file that has some bytes at an offset, and what it had around them. -/
structure Persisted (before after : Nat → Option UInt8) (offset : Nat)
    (bytes : List UInt8) : Prop where
  inside : ∀ index < bytes.length, after (offset + index) = bytes[index]?
  outside : ∀ position, (position < offset ∨ offset + bytes.length ≤ position) →
    before position ≠ none → after position = before position

theorem Persisted.nothing (content : Nat → Option UInt8) (offset : Nat) :
    Persisted content content offset [] where
  inside _ within := absurd within (Nat.not_lt_zero _)
  outside _ _ _ := rfl

variable {File : Type}

/-- A write of the file below that succeeds has written its whole amount. -/
structure IoMethods.Documented (methods : IoMethods File)
    (content : File → Nat → Option UInt8) : Prop where
  writes : ∀ {write}, methods.write = some write →
    ∀ {file written : File} {buffer : List UInt8} {amount offset : Int},
      write file buffer amount offset = (sqliteOk, written) →
        Persisted (content file) (content written) offset.toNat (buffer.take amount.toNat)

/-- An operation of a file is one access for the controller, and an error that it is
answered with keeps it from the file below. -/
structure IoOutcome.Observes (outcome : IoOutcome File) (controller : Controller)
    (access : Access) (failure : Int) (real : File) : Prop where
  observed : outcome.controller = controller.step (.access access)
  failed : controller.answer (.access access) = some .error →
    outcome.result = failure ∧ outcome.real = real

variable {controller : Controller} {file : FaultFile File}

theorem ioWrite_observes (present : file.methods.write.isSome = true) (buffer : List UInt8)
    (amount offset : Int) :
    (ioWrite controller file buffer amount offset).Observes controller ⟨.write, file.target⟩
      sqliteIoerrWrite file.real := by
  obtain ⟨write, there⟩ := Option.isSome_iff_exists.mp present
  unfold ioWrite
  rw [there]
  cases intercepted : controller.intercept .write file.target with
  | mk answer after =>
      have observed : after = controller.step (.access ⟨.write, file.target⟩) :=
        (congrArg Prod.snd intercepted).symm
      have answered : controller.answer (.access ⟨.write, file.target⟩) = answer :=
        congrArg Prod.fst intercepted
      cases answer with
      | none => exact ⟨observed, fun failed => by rw [answered] at failed; cases failed⟩
      | some action =>
          cases action with
          | error => exact ⟨observed, fun _ => ⟨rfl, rfl⟩⟩
          | partialWrite prefixBytes =>
              constructor
              · dsimp only
                generalize (if amount < 0 then 0 else min amount.toNat prefixBytes) = kept
                generalize write file.real buffer _ offset = written
                split
                case isTrue => split <;> exact observed
                case isFalse => exact observed
              · intro failed
                rw [answered] at failed
                cases failed

theorem ioForward_observes {operation : FaultOperation} {failure : Int}
    {method : Option (File → Int × File)} (present : method.isSome = true) :
    (ioForward operation failure method controller file).Observes controller
      ⟨operation, file.target⟩ failure file.real := by
  obtain ⟨below, rfl⟩ := Option.isSome_iff_exists.mp present
  unfold ioForward
  cases intercepted : controller.intercept operation file.target with
  | mk answer after =>
      have observed : after = controller.step (.access ⟨operation, file.target⟩) :=
        (congrArg Prod.snd intercepted).symm
      have answered : controller.answer (.access ⟨operation, file.target⟩) = answer :=
        congrArg Prod.fst intercepted
      cases answer with
      | none => exact ⟨observed, fun failed => by rw [answered] at failed; cases failed⟩
      | some action => exact ⟨observed, fun _ => ⟨rfl, rfl⟩⟩

/-- A write that is failed in part passes on its leading bytes, and then reports the
error. -/
theorem ioWrite_prefix_eq {after : Controller}
    {write : File → List UInt8 → Int → Int → Int × File}
    (present : file.methods.write = some write) {prefixBytes : Nat}
    (intercepted : controller.intercept .write file.target =
      (some (.partialWrite prefixBytes), after))
    (buffer : List UInt8) {amount : Int} (inRange : amount ≤ maxInt) (offset : Int) :
    ioWrite controller file buffer amount offset =
      if 0 < min amount.toNat prefixBytes then
        let written := write file.real buffer (min amount.toNat prefixBytes : Nat) offset
        if written.1 ≠ sqliteOk then ⟨written.1, after, written.2⟩
        else ⟨sqliteIoerrWrite, after, written.2⟩
      else ⟨sqliteIoerrWrite, after, file.real⟩ := by
  have kept : (if amount < 0 then 0 else min amount.toNat prefixBytes) =
      min amount.toNat prefixBytes := by
    split
    case isTrue negative =>
      rw [Int.toNat_of_nonpos (Int.le_of_lt negative), Nat.zero_min]
    case isFalse => rfl
  have fits : ((min amount.toNat prefixBytes : Nat) : Int) ≤ maxInt := by
    unfold maxInt at inRange ⊢
    omega
  unfold ioWrite
  rw [present, intercepted]
  dsimp only
  rw [kept, if_pos fits]

/-- What a write that is failed in part leaves. -/
theorem ioWrite_persists {methods : IoMethods File}
    {content : File → Nat → Option UInt8} (documented : methods.Documented content)
    (present : methods.write.isSome = true) {real : File} {target : FaultTarget}
    {prefixBytes : Nat}
    (intercepted : (controller.intercept .write target).1 = some (.partialWrite prefixBytes))
    {buffer : List UInt8} {amount : Int} (inRange : amount ≤ maxInt) {offset : Int}
    {outcome : IoOutcome File}
    (done : ioWrite controller ⟨methods, real, target⟩ buffer amount offset = outcome) :
    outcome.result = sqliteIoerrWrite ∧
        Persisted (content real) (content outcome.real) offset.toNat
          (buffer.take (min amount.toNat prefixBytes)) ∨
      outcome.result ≠ sqliteOk ∧
        ∃ write, methods.write = some write ∧
          write real buffer (min amount.toNat prefixBytes : Nat) offset =
            (outcome.result, outcome.real) := by
  obtain ⟨write, there⟩ := Option.isSome_iff_exists.mp present
  rw [ioWrite_prefix_eq there (Prod.ext intercepted rfl) buffer inRange offset] at done
  split at done
  case isTrue =>
    dsimp only at done
    split at done
    case isTrue fails =>
      subst done
      exact .inr ⟨fails, write, there, rfl⟩
    case isFalse succeeds =>
      subst done
      refine .inl ⟨rfl, ?_⟩
      have ok : write real buffer (min amount.toNat prefixBytes : Nat) offset =
          (sqliteOk, (write real buffer (min amount.toNat prefixBytes : Nat) offset).2) :=
        Prod.ext (not_not.mp succeeds) rfl
      have persisted := documented.writes there ok
      rw [Int.toNat_natCast] at persisted
      exact persisted
  case isFalse nothing =>
    subst done
    refine .inl ⟨rfl, ?_⟩
    rw [Nat.eq_zero_of_not_pos nothing, List.take_zero]
    exact .nothing _ _

end Files

/-- An armed rule fails the operation that is the n-th of its since it was armed, and no
other; without a rule no operation is failed.  The counters show the operations and the
injections.  Operations of files are seen by the controller once each.  A partial write
leaves its leading bytes, unless the file below fails. -/
theorem fault_rules_exact {File : Type} {methods : IoMethods File}
    {content : File → Nat → Option UInt8} (documented : methods.Documented content) :
    (∀ (before : List FaultEvent) (rule : FaultRule) (accesses : List Access) (access : Access),
      (Controller.after (before ++ .arm rule :: accesses.map .access)).answer (.access access) =
        if IsOccurrence rule.matching rule.occurrence.toNat (accesses.countP rule.matching)
            access then some rule.action
        else none) ∧
    (∀ (before : List FaultEvent) (rule : FaultRule) (accesses : List Access),
      countSteps Controller.step Controller.injects
          (Controller.after (before ++ [.arm rule])) (accesses.map .access) =
        if rule.occurrence.toNat ≤ accesses.countP rule.matching then 1 else 0) ∧
    (∀ (before : List FaultEvent) (accesses : List Access) (access : Access),
      (Controller.after (accesses.map .access)).answer (.access access) = none ∧
      (Controller.after (before ++ .disarm :: accesses.map .access)).answer (.access access) =
        none) ∧
    (∀ events : List FaultEvent,
      (∀ operation, (Controller.after events).stats.count operation =
        min (events.countP (FaultEvent.isOperation operation)) maxCount) ∧
      (Controller.after events).stats.injections =
        min (countSteps Controller.step Controller.injects .new events) maxCount) ∧
    (∀ (controller : Controller) (file : FaultFile File),
      (file.methods.write.isSome = true → ∀ buffer amount offset,
        (ioWrite controller file buffer amount offset).Observes controller
          ⟨.write, file.target⟩ sqliteIoerrWrite file.real) ∧
      (file.methods.truncate.isSome = true → ∀ size,
        (ioTruncate controller file size).Observes controller
          ⟨.truncate, file.target⟩ sqliteIoerrTruncate file.real) ∧
      (file.methods.sync.isSome = true → ∀ flags,
        (ioSync controller file flags).Observes controller
          ⟨.sync, file.target⟩ sqliteIoerrFsync file.real)) ∧
    ∀ (controller : Controller) (real : File) (target : FaultTarget) (prefixBytes : Nat)
      (buffer : List UInt8) (amount offset : Int),
      methods.write.isSome = true → amount ≤ maxInt →
      (controller.intercept .write target).1 = some (.partialWrite prefixBytes) →
        let outcome := ioWrite controller ⟨methods, real, target⟩ buffer amount offset
        outcome.result = sqliteIoerrWrite ∧
            Persisted (content real) (content outcome.real) offset.toNat
              (buffer.take (min amount.toNat prefixBytes)) ∨
          outcome.result ≠ sqliteOk ∧
            ∃ write, methods.write = some write ∧
              write real buffer (min amount.toNat prefixBytes : Nat) offset =
                (outcome.result, outcome.real) := by
  refine ⟨?_, ?_, ?_, ?_, ?_, ?_⟩
  · intro before rule accesses access
    have tracks := ((Controller.after before).tracks_arm rule).run accesses
    rw [Nat.zero_add] at tracks
    unfold Controller.after at tracks ⊢
    rw [List.foldl_append, List.foldl_cons]
    exact (tracks.access access).1
  · intro before rule accesses
    have fires := ((Controller.after before).tracks_arm rule).injections accesses
    rw [countOccurrences_eq, Nat.zero_add] at fires
    unfold Controller.after at fires ⊢
    rw [List.foldl_append]
    apply fires.trans
    congr 1
    rw [eq_iff_iff]
    exact and_iff_right rule.occurrence_pos
  · intro before accesses access
    constructor
    · have disarmed : (Controller.after (accesses.map .access)).rule = none :=
        Controller.run_disarmed rfl accesses
      exact (Controller.intercept_disarmed disarmed access).1
    · have disarmed : (Controller.after (before ++ .disarm :: accesses.map .access)).rule =
          none := by
        unfold Controller.after
        rw [List.foldl_append, List.foldl_cons]
        exact Controller.run_disarmed rfl accesses
      exact (Controller.intercept_disarmed disarmed access).1
  · intro events
    obtain ⟨operations, -, injections⟩ := Controller.after_stats events
    exact ⟨operations, injections⟩
  · intro controller file
    refine ⟨?_, ?_, ?_⟩
    · intro present buffer amount offset
      exact ioWrite_observes present buffer amount offset
    · intro present size
      exact ioForward_observes (by rwa [Option.isSome_map])
    · intro present flags
      exact ioForward_observes (by rwa [Option.isSome_map])
  · intro controller real target prefixBytes buffer amount offset present inRange intercepted
    exact ioWrite_persists documented present intercepted inRange rfl

/-- A file in memory, by its bytes. -/
def memoryMethods : IoMethods (Nat → Option UInt8) where
  write := some fun file buffer amount offset =>
    (sqliteOk, fun position =>
      let bytes := buffer.take amount.toNat
      if offset.toNat ≤ position ∧ position < offset.toNat + bytes.length then
        bytes[position - offset.toNat]?
      else file position)
  truncate := none
  sync := none

theorem memoryMethods_documented : memoryMethods.Documented id where
  writes := by
    intro write present file written buffer amount offset done
    obtain rfl := Option.some.inj present
    obtain rfl := congrArg Prod.snd done
    constructor
    · intro index within
      refine (if_pos ⟨Nat.le_add_right _ _, Nat.add_lt_add_left within _⟩).trans ?_
      rw [Nat.add_sub_cancel_left]
    · intro position around _
      apply if_neg
      rintro ⟨fromOffset, before⟩
      omega

/-- The second write, on any file, keeps two bytes. -/
def secondWrite : FaultRule where
  operation := .write
  target := .any
  occurrence := 2
  action := .partialWrite 2
  positive := by decide
  partly := by
    intro prefixBytes same
    obtain rfl := FaultAction.partialWrite.inj same
    exact ⟨rfl, by decide⟩

/-- Of two writes the second is failed. -/
theorem fault_rules_exact_second :
    FaultRule.partialWrite .any 2 2 = .ok secondWrite ∧
    (Controller.after [.arm secondWrite, .access ⟨.write, .writeAheadLog⟩]).answer
        (.access ⟨.write, .mainDatabase⟩) =
      some (.partialWrite 2) := by
  have exactly := (fault_rules_exact memoryMethods_documented).1 [] secondWrite
    [⟨.write, .writeAheadLog⟩] ⟨.write, .mainDatabase⟩
  exact ⟨rfl, exactly.trans (if_pos ⟨by decide, by decide⟩)⟩

end Csgdb.Storage.Fault
