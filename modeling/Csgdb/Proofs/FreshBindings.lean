/-
Module: Csgdb.Proofs.FreshBindings
Purpose: A statement that is used again runs with the parameters of the call that runs it,
  and a refused value leaves none of them bound.
Trusted boundary: the engine keeps what is bound as it documents.
Main exports: StatementEngine.Refuses, bindFrom_eq, Statement.bindIter_cases, FreshUse,
  KeepsBindings, bindings_never_stale
-/
import Csgdb.Storage.Bindings

namespace Csgdb.Storage

open Foundation

variable {R Raw Held Row : Type} {engine : StatementEngine R Raw Held Row}

/-! ## One pass over the parameters -/

namespace StatementEngine

/-- Of the values, bound one after the other, the engine refuses one. -/
def Refuses (engine : StatementEngine R Raw Held Row) (parameters : List (Value R))
    (raw : Raw) : Prop :=
  ∃ failure, (writeAll engine.bindPlace 0 parameters raw).1 = .error failure

/-- The loop binds up to the first refusal, behind which it clears everything. -/
theorem bindFrom_eq (engine : StatementEngine R Raw Held Row) (offset : Nat)
    (parameters : List (Value R)) (raw : Raw) :
    engine.bindFrom offset parameters raw =
      match writeAll engine.bindPlace offset parameters raw with
      | (.ok (), next) => (.ok (), next)
      | (.error failure, next) =>
          (.error (mapStorageError failure), engine.clearBindings next) := by
  induction parameters generalizing offset raw with
  | nil => rfl
  | cons value rest inductionHypothesis =>
      unfold bindFrom writeAll bindPlace
      dsimp only
      cases bound : engine.rawBindParameter (offset + 1) value raw with
      | mk result next =>
          cases result with
          | error failure => rfl
          | ok => exact inductionHypothesis (offset + 1) next

theorem bindFrom_of_refuses (documented : engine.Documented) {parameters : List (Value R)}
    {raw : Raw} (refuses : engine.Refuses parameters raw) :
    ∃ failure next, engine.bindFrom 0 parameters raw = (.error (mapStorageError failure), next) ∧
      engine.bound next = List.replicate (engine.bound raw).length engine.unbound := by
  obtain ⟨failure, refused⟩ := refuses
  have count := documented.binds.length_writeAll 0 parameters raw
  rw [bindFrom_eq]
  cases pass : writeAll engine.bindPlace 0 parameters raw with
  | mk result next =>
      rw [pass] at refused count
      obtain rfl : result = .error failure := refused
      refine ⟨failure, engine.clearBindings next, rfl, ?_⟩
      rw [documented.clears, count]

/-- What was bound before is gone. -/
theorem bindFrom_of_not_refuses (documented : engine.Documented)
    {parameters : List (Value R)} {raw : Raw}
    (sameCount : parameters.length = (engine.bound raw).length)
    (takes : ¬ engine.Refuses parameters raw) :
    ∃ next, engine.bindFrom 0 parameters raw = (.ok (), next) ∧
      engine.bound next = parameters.map engine.held := by
  rw [bindFrom_eq]
  cases pass : writeAll engine.bindPlace 0 parameters raw with
  | mk result next =>
      cases result with
      | error failure => exact absurd ⟨failure, congrArg Prod.fst pass⟩ takes
      | ok =>
          have inRange : 0 + parameters.length ≤ (engine.bound raw).length := by
            rw [Nat.zero_add]
            exact Nat.le_of_eq sameCount
          refine ⟨next, rfl, ?_⟩
          rw [documented.binds.slots_writeAll inRange pass]
          apply overwrite_all
          rw [List.length_map]
          exact sameCount

end StatementEngine

/-! ## One call -/

namespace Statement

variable (statement : Statement Raw Held) (parameters : List (Value R))

/-- The three ends of a binding: the wrong number of values, a value that is refused, and
all parameters with their values. -/
theorem bindIter_cases (documented : engine.Documented) :
    (parameters.length ≠ statement.parameterCount engine ∧
      statement.bindIter engine parameters = (.error parameterCountMismatch, statement)) ∨
    (parameters.length = statement.parameterCount engine ∧
      engine.Refuses parameters statement.inner ∧
      ∃ failure inner, statement.bindIter engine parameters =
          (.error (mapStorageError failure), { statement with inner := inner }) ∧
        engine.bound inner =
          List.replicate (statement.parameterCount engine) engine.unbound) ∨
    (parameters.length = statement.parameterCount engine ∧
      ¬ engine.Refuses parameters statement.inner ∧
      ∃ inner, statement.bindIter engine parameters =
          (.ok (), { statement with inner := inner }) ∧
        engine.bound inner = parameters.map engine.held) := by
  have counted : statement.parameterCount engine = (engine.bound statement.inner).length :=
    documented.counted statement.inner
  unfold bindIter
  dsimp only
  by_cases sameCount : parameters.length = statement.parameterCount engine
  · rw [if_neg (not_not_intro sameCount)]
    by_cases refuses : engine.Refuses parameters statement.inner
    · obtain ⟨failure, inner, refused, cleared⟩ :=
        StatementEngine.bindFrom_of_refuses documented refuses
      rw [← counted] at cleared
      rw [refused]
      exact .inr (.inl ⟨sameCount, refuses, failure, inner, rfl, cleared⟩)
    · obtain ⟨inner, bound, fresh⟩ :=
        StatementEngine.bindFrom_of_not_refuses documented (sameCount.trans counted) refuses
      rw [bound]
      exact .inr (.inr ⟨sameCount, refuses, inner, rfl, fresh⟩)
  · rw [if_pos sameCount]
    exact .inl ⟨sameCount, rfl⟩

variable {statement parameters} {event : StatementEvent R Raw} {after : Statement Raw Held}

/-- A call whose binding fails ends there. -/
theorem call_of_unbound {error : Error} (has : event.parameters = some parameters)
    (failed : statement.bindIter engine parameters = (.error error, after)) :
    (statement.call engine event).1.error = some error ∧ statement.step engine event = after := by
  unfold step
  cases event with
  | execute own | executeValues own | query own | queryValues own =>
      obtain rfl := Option.some.inj has
      simp only [call, execute, executeValues, query, queryValues, bindAll, bindOwnedAll, failed,
        andThen]
      exact ⟨rfl, rfl⟩
  | clearBindings | nextRow | dropRows | forgetRows | elsewhere => cases has

/-- A call whose binding succeeds changes nothing that is bound, and what it runs it runs
with that. -/
theorem call_of_bound (documented : engine.Documented)
    (has : event.parameters = some parameters)
    (bound : statement.bindIter engine parameters = (.ok (), after)) :
    engine.bound (statement.step engine event).inner = engine.bound after.inner ∧
      ∃ ran, (statement.step engine event).runs = after.runs ++ ran ∧
        ∀ bindings ∈ ran, bindings = engine.bound after.inner := by
  unfold step
  cases event with
  | execute own | executeValues own =>
      obtain rfl := Option.some.inj has
      simp only [call, execute, executeValues, bindAll, bindOwnedAll, bound, andThen]
      exact ⟨documented.executes after.inner, [engine.bound after.inner], rfl,
        fun _ => List.eq_of_mem_singleton⟩
  | query own | queryValues own =>
      obtain rfl := Option.some.inj has
      simp only [call, query, queryValues, bindAll, bindOwnedAll, bound, andThen]
      exact ⟨documented.queries after.inner, [], (List.append_nil _).symm, nofun⟩
  | clearBindings | nextRow | dropRows | forgetRows | elsewhere => cases has

end Statement

/-! ## Any use -/

/-- The parameter list of the latest call that had one. -/
def callParameters (events : List (StatementEvent R Raw)) : Option (List (Value R)) :=
  (events.filterMap StatementEvent.parameters).getLast?

theorem callParameters_snoc (past : List (StatementEvent R Raw))
    (event : StatementEvent R Raw) :
    callParameters (past ++ [event]) = event.parameters.or (callParameters past) := by
  unfold callParameters
  rw [List.filterMap_append, List.getLast?_append]
  congr 1
  cases has : event.parameters with
  | none => rw [List.filterMap_cons_none has]; rfl
  | some parameters => rw [List.filterMap_cons_some has]; rfl

/-- What one event does, after what happened to the statement before. -/
structure FreshUse (engine : StatementEngine R Raw Held Row)
    (past : List (StatementEvent R Raw)) (statement : Statement Raw Held)
    (event : StatementEvent R Raw) : Prop where
  /-- Whatever is run has the values of the call that runs it, each at its position. -/
  runs : ∃ ran, (statement.step engine event).runs = statement.runs ++ ran ∧
    ∀ bindings ∈ ran, ∃ parameters, callParameters (past ++ [event]) = some parameters ∧
      parameters.length = statement.parameterCount engine ∧
      bindings = parameters.map engine.held
  wrongCount : ∀ parameters, event.parameters = some parameters →
    parameters.length ≠ statement.parameterCount engine →
      (statement.call engine event).1.error = some parameterCountMismatch ∧
        statement.step engine event = statement
  refused : ∀ parameters, event.parameters = some parameters →
    parameters.length = statement.parameterCount engine →
      engine.Refuses parameters statement.inner →
        (∃ failure, (statement.call engine event).1.error = some (mapStorageError failure)) ∧
          (statement.step engine event).runs = statement.runs ∧
          (statement.step engine event).borrowed = false ∧
          engine.bound (statement.step engine event).inner =
            List.replicate (statement.parameterCount engine) engine.unbound
  bound : ∀ parameters, event.parameters = some parameters →
    parameters.length = statement.parameterCount engine →
      ¬ engine.Refuses parameters statement.inner →
        engine.bound (statement.step engine event).inner = parameters.map engine.held

/-- As long as rows borrow a statement, the values of their call are bound. -/
structure KeepsBindings (engine : StatementEngine R Raw Held Row) (count : Nat)
    (past : List (StatementEvent R Raw)) (statement : Statement Raw Held) : Prop where
  counted : (engine.bound statement.inner).length = count
  borrowed : statement.borrowed = true →
    ∃ parameters, callParameters past = some parameters ∧ parameters.length = count ∧
      engine.bound statement.inner = parameters.map engine.held

namespace KeepsBindings

variable {count : Nat} {past : List (StatementEvent R Raw)} {statement : Statement Raw Held}
  {event : StatementEvent R Raw} {parameters : List (Value R)}

/-- Rows that a call did not hand out borrow nothing. -/
theorem of_free (counted : (engine.bound statement.inner).length = count)
    (free : statement.borrowed = false) : KeepsBindings engine count past statement := by
  refine ⟨counted, fun borrowed => ?_⟩
  cases free.symm.trans borrowed

/-- A call with the wrong number of values. -/
theorem wrongCount (kept : KeepsBindings engine count past statement)
    (free : statement.borrowed = false) (has : event.parameters = some parameters)
    (wrong : parameters.length ≠ statement.parameterCount engine)
    (failed : statement.bindIter engine parameters =
      (.error parameterCountMismatch, statement)) :
    KeepsBindings engine count (past ++ [event]) (statement.step engine event) ∧
      FreshUse engine past statement event := by
  obtain ⟨reports, same⟩ := Statement.call_of_unbound has failed
  have misses : ∀ other, event.parameters = some other →
      other.length ≠ statement.parameterCount engine := by
    intro other mine
    obtain rfl := Option.some.inj (mine.symm.trans has)
    exact wrong
  constructor
  · rw [same]
    exact of_free kept.counted free
  · constructor
    · rw [same]
      exact ⟨[], (List.append_nil _).symm, nofun⟩
    · exact fun _ _ _ => ⟨reports, same⟩
    · exact fun other mine right => absurd right (misses other mine)
    · exact fun other mine right => absurd right (misses other mine)

/-- A call one of whose values is refused. -/
theorem refused {failure : EngineError} {inner : Raw}
    (counted : statement.parameterCount engine = count) (free : statement.borrowed = false)
    (has : event.parameters = some parameters)
    (right : parameters.length = statement.parameterCount engine)
    (refuses : engine.Refuses parameters statement.inner)
    (failed : statement.bindIter engine parameters =
      (.error (mapStorageError failure), { statement with inner := inner }))
    (cleared : engine.bound inner =
      List.replicate (statement.parameterCount engine) engine.unbound) :
    KeepsBindings engine count (past ++ [event]) (statement.step engine event) ∧
      FreshUse engine past statement event := by
  obtain ⟨reports, same⟩ := Statement.call_of_unbound has failed
  constructor
  · rw [same]
    apply of_free
    · rw [cleared, List.length_replicate, counted]
    · exact free
  · constructor
    · rw [same]
      exact ⟨[], (List.append_nil _).symm, nofun⟩
    · intro other mine wrong
      obtain rfl := Option.some.inj (mine.symm.trans has)
      exact absurd right wrong
    · intro _ _ _ _
      rw [same]
      exact ⟨⟨failure, reports⟩, rfl, free, cleared⟩
    · intro other mine _ takes
      obtain rfl := Option.some.inj (mine.symm.trans has)
      exact absurd refuses takes

/-- A call whose values are all bound. -/
theorem bound {inner : Raw} (documented : engine.Documented)
    (counted : statement.parameterCount engine = count)
    (has : event.parameters = some parameters)
    (right : parameters.length = statement.parameterCount engine)
    (takes : ¬ engine.Refuses parameters statement.inner)
    (isBound : statement.bindIter engine parameters =
      (.ok (), { statement with inner := inner }))
    (fresh : engine.bound inner = parameters.map engine.held) :
    KeepsBindings engine count (past ++ [event]) (statement.step engine event) ∧
      FreshUse engine past statement event := by
  have latest : callParameters (past ++ [event]) = some parameters := by
    rw [callParameters_snoc, has, Option.some_or]
  obtain ⟨stays, ran, runs, each⟩ := Statement.call_of_bound documented has isBound
  have same : engine.bound (statement.step engine event).inner =
      parameters.map engine.held := stays.trans fresh
  constructor
  · refine ⟨?_, fun _ => ⟨parameters, latest, right.trans counted, same⟩⟩
    rw [same, List.length_map, right, counted]
  · constructor
    · refine ⟨ran, runs, fun bindings member => ⟨parameters, latest, right, ?_⟩⟩
      rw [each bindings member]
      exact fresh
    · intro other mine wrong
      obtain rfl := Option.some.inj (mine.symm.trans has)
      exact absurd right wrong
    · intro other mine _ refuses
      obtain rfl := Option.some.inj (mine.symm.trans has)
      exact absurd refuses takes
    · intro other mine _ _
      obtain rfl := Option.some.inj (mine.symm.trans has)
      exact same

/-- A call with a parameter list, of a statement that no rows borrow. -/
theorem call (documented : engine.Documented) (kept : KeepsBindings engine count past statement)
    (free : statement.borrowed = false) (has : event.parameters = some parameters) :
    KeepsBindings engine count (past ++ [event]) (statement.step engine event) ∧
      FreshUse engine past statement event := by
  have counted : statement.parameterCount engine = count :=
    (documented.counted statement.inner).trans kept.counted
  rcases statement.bindIter_cases parameters documented with
    ⟨wrong, failed⟩ | ⟨right, refuses, failure, inner, failed, cleared⟩ |
      ⟨right, takes, inner, isBound, fresh⟩
  · exact kept.wrongCount free has wrong failed
  · exact refused counted free has right refuses failed cleared
  · exact bound documented counted has right takes isBound fresh

/-- An event without a parameter list that runs nothing and keeps what is bound, or comes
when no rows borrow the statement. -/
theorem quiet (kept : KeepsBindings engine count past statement)
    (none : event.parameters = none)
    (silent : (statement.step engine event).runs = statement.runs)
    (stays : (engine.bound (statement.step engine event).inner).length = count)
    (held : (statement.step engine event).borrowed = true →
      statement.borrowed = true ∧
        engine.bound (statement.step engine event).inner = engine.bound statement.inner) :
    KeepsBindings engine count (past ++ [event]) (statement.step engine event) ∧
      FreshUse engine past statement event := by
  have before : callParameters (past ++ [event]) = callParameters past := by
    rw [callParameters_snoc, none, Option.none_or]
  have lacks : ∀ {parameters}, event.parameters ≠ some parameters := by
    intro parameters has
    cases none.symm.trans has
  constructor
  · refine ⟨stays, fun borrowed => ?_⟩
    obtain ⟨already, same⟩ := held borrowed
    rw [before, same]
    exact kept.borrowed already
  · constructor
    · refine ⟨[], ?_, nofun⟩
      rw [silent, List.append_nil]
    · exact fun _ has => absurd has lacks
    · exact fun _ has => absurd has lacks
    · exact fun _ has => absurd has lacks

/-- A step of the rows that borrow the statement runs it with the values of their call. -/
theorem nextRow (documented : engine.Documented)
    (kept : KeepsBindings engine count past statement) (borrowed : statement.borrowed = true) :
    KeepsBindings engine count (past ++ [.nextRow]) (statement.step engine .nextRow) ∧
      FreshUse engine past statement .nextRow := by
  obtain ⟨parameters, latest, right, bound⟩ := kept.borrowed borrowed
  have before : callParameters (past ++ [.nextRow]) = some parameters := by
    rw [callParameters_snoc, ← latest]
    rfl
  have counted : statement.parameterCount engine = count :=
    (documented.counted statement.inner).trans kept.counted
  have stays : engine.bound (statement.step engine .nextRow).inner =
      engine.bound statement.inner := documented.advances statement.inner
  constructor
  · refine ⟨?_, fun _ => ⟨parameters, before, right, ?_⟩⟩
    · rw [stays, kept.counted]
    · rw [stays, bound]
  · constructor
    · refine ⟨[engine.bound statement.inner], rfl, fun bindings member => ?_⟩
      obtain rfl := List.eq_of_mem_singleton member
      exact ⟨parameters, before, right.trans counted.symm, bound⟩
    · exact nofun
    · exact nofun
    · exact nofun

/-- One event. -/
theorem step (documented : engine.Documented)
    (kept : KeepsBindings engine count past statement)
    (accepted : statement.Accepts engine event) :
    KeepsBindings engine count (past ++ [event]) (statement.step engine event) ∧
      FreshUse engine past statement event := by
  cases event with
  | execute parameters | executeValues parameters | query parameters
  | queryValues parameters => exact kept.call documented accepted rfl
  | clearBindings =>
      have free : statement.borrowed = false := accepted
      have cleared : engine.bound (statement.step engine .clearBindings).inner =
          List.replicate (engine.bound statement.inner).length engine.unbound :=
        documented.clears statement.inner
      apply kept.quiet rfl rfl
      · rw [cleared, List.length_replicate, kept.counted]
      · intro borrowed
        cases free.symm.trans borrowed
  | nextRow => exact kept.nextRow documented accepted
  | dropRows =>
      have same : engine.bound (statement.step engine .dropRows).inner =
          engine.bound statement.inner := documented.dropsRows statement.inner
      apply kept.quiet rfl rfl
      · rw [same, kept.counted]
      · exact fun borrowed => nomatch borrowed
  | forgetRows => exact kept.quiet rfl rfl kept.counted fun borrowed => nomatch borrowed
  | elsewhere inner =>
      have same : engine.bound (statement.step engine (.elsewhere inner)).inner =
          engine.bound statement.inner := accepted
      apply kept.quiet rfl rfl
      · rw [same, kept.counted]
      · exact fun borrowed => ⟨borrowed, same⟩

/-- A statement that was just prepared, whatever the cache left bound to it. -/
theorem prepared (inner : Raw) :
    KeepsBindings engine (engine.bound inner).length [] (Statement.prepared inner) where
  counted := rfl
  borrowed := nofun

/-- After any use. -/
theorem run (documented : engine.Documented) {inner : Raw}
    {events : List (StatementEvent R Raw)}
    (accepted : EveryStep (Statement.step engine) (Statement.Accepts engine)
      (.prepared inner) events) :
    KeepsBindings engine (engine.bound inner).length events
      (events.foldl (Statement.step engine) (.prepared inner)) :=
  accepted.history (prepared inner) fun _ _ _ kept now => (kept.step documented now).1

end KeepsBindings

/-- A statement that is used again never runs with stale bindings: in any use of it, what one
more event does is fresh. -/
theorem bindings_never_stale (engine : StatementEngine R Raw Held Row)
    (documented : engine.Documented) (inner : Raw) (past : List (StatementEvent R Raw))
    (event : StatementEvent R Raw)
    (accepted : EveryStep (Statement.step engine) (Statement.Accepts engine)
      (.prepared inner) (past ++ [event])) :
    let statement := past.foldl (Statement.step engine) (.prepared inner)
    statement.parameterCount engine = engine.parameterCount inner ∧
      FreshUse engine past statement event := by
  obtain ⟨before, now⟩ := everyStep_snoc.mp accepted
  have kept := KeepsBindings.run documented before
  constructor
  · calc engine.parameterCount _ = _ := documented.counted _
      _ = (engine.bound inner).length := kept.counted
      _ = engine.parameterCount inner := (documented.counted inner).symm
  · exact (kept.step documented now).2

/-! ## A statement with two parameters -/

/-- `SELECT ?, ?` on an engine that has a limit for blobs. -/
structure SelectStatement where
  slots : List (Value Int)
  stepped : Bool

/-- Nothing is bound while a run is under way, and a value that is too long leaves its
parameter empty. -/
def selectEngine (longestBlob : Nat) :
    StatementEngine Int SelectStatement (Value Int) (List (Value Int)) where
  bound raw := raw.slots
  held value := value
  unbound := .null
  parameterCount raw := raw.slots.length
  rawBindParameter index value raw :=
    if raw.stepped then (.error (.sqliteFailure .other 21), raw)
    else if index = 0 ∨ raw.slots.length < index then (.error (.sqliteFailure .other 25), raw)
    else
      match value with
      | .blob bytes =>
          if longestBlob < bytes.length then
            (.error (.sqliteFailure .other 18),
              { raw with slots := raw.slots.set (index - 1) .null })
          else (.ok (), { raw with slots := raw.slots.set (index - 1) value })
      | _ => (.ok (), { raw with slots := raw.slots.set (index - 1) value })
  clearBindings raw := { raw with slots := List.replicate raw.slots.length .null }
  -- a statement that returns a row is not executed without an error
  rawExecute raw := (.error .other, { raw with stepped := false })
  rawQuery raw := raw
  nextRow raw :=
    if raw.stepped then (.ok none, { raw with stepped := false })
    else (.ok (some raw.slots), { raw with stepped := true })
  dropRows raw := { raw with stepped := false }

theorem selectEngine_documented (longestBlob : Nat) :
    (selectEngine longestBlob).Documented where
  counted _ := rfl
  binds := by
    constructor
    · intro place value raw next bound
      unfold StatementEngine.bindPlace selectEngine at bound
      dsimp only at bound
      split at bound
      · cases bound
      · split at bound
        · cases bound
        · split at bound
          · split at bound <;> cases bound
            rfl
          · cases bound
            rfl
    · intro place value raw failure next refused
      unfold StatementEngine.bindPlace selectEngine at refused
      dsimp only at refused
      split at refused
      · cases refused
        rfl
      · split at refused
        · cases refused
          rfl
        · split at refused
          · split at refused <;> cases refused
            exact List.length_set
          · cases refused
  clears _ := rfl
  executes _ := rfl
  queries _ := rfl
  advances raw := by
    unfold selectEngine
    dsimp only
    split <;> rfl
  dropsRows _ := rfl

/-- A query with a secret, one with a value missing, and one that is run again. -/
def queriesAfterSecret : List (StatementEvent Int SelectStatement) :=
  [.query [.text "sensitive", .blob [1, 2, 3]], .nextRow, .dropRows, .query [.integer 7],
    .query [.null, .integer 9]]

theorem bindings_never_stale_overwritten :
    let engine := selectEngine 10
    let statement := queriesAfterSecret.foldl (Statement.step engine)
      (.prepared { slots := [.null, .null], stepped := false })
    (statement.parameterCount engine = 2 ∧
      FreshUse engine queriesAfterSecret statement .nextRow) ∧
    (statement.step engine .nextRow).runs =
      [[.text "sensitive", .blob [1, 2, 3]], [.null, .integer 9]] :=
  ⟨bindings_never_stale (selectEngine 10) (selectEngine_documented 10)
    { slots := [.null, .null], stepped := false } queriesAfterSecret .nextRow
    ⟨rfl, rfl, rfl, rfl, rfl, rfl, trivial⟩, rfl⟩

-- The refusal of the second value takes the first one away, too.
example : ((Statement.prepared { slots := [.text "sensitive", .null], stepped := false }).step
    (selectEngine 2) (.execute [.integer 1, .blob [1, 2, 3]])).inner.slots = [.null, .null] :=
  rfl

end Csgdb.Storage
