/-
Module: Csgdb.Proofs.InterfaceAgreement
Purpose: A query gives the same rows and the same ending through the C interface and through
  the Rust interface, whatever the two statements were used for before.
Trusted boundary: the engine statements on the two sides run the same compiled query and
  behave as they document.
Main exports: KeptFree, run_keptFree, collect_eq, interfaces_agree
-/
import Csgdb.Proofs.StatementCursor

namespace Csgdb.Storage

open Foundation

variable {R World Raw Held Execution : Type}
  {wrapper : World → StatementEngine R Raw Held (Row R)}
  {plan : Plan World Held (List (SqlValueRef R)) Execution Int} {hold : Value R → Held}
  {refusal : World → Held → Option Int}
  {view : Raw → Cursor Held (List (SqlValueRef R)) Execution Int} {streaming : Raw → Prop}

namespace DrivesCursor

/-! ## Binding -/

theorem bindFrom_view (drives : DrivesCursor wrapper plan hold refusal view streaming)
    (world : World) (values : List (Value R)) {raw : Raw}
    (ready : (view raw).position = .ready) (place : Nat)
    (inRange : place + values.length ≤ (view raw).bound.length) :
    match values.findSome? (fun value => refusal world (hold value)) with
    | none =>
        ∃ next, (wrapper world).bindFrom place values raw = (.ok (), next) ∧
          view next =
            { bound := overwrite (view raw).bound place (values.map hold), position := .ready }
    | some failure =>
        ∃ next, (wrapper world).bindFrom place values raw =
            (.error (mapRawStorageError failure), next) ∧
          (view next).bound.length = (view raw).bound.length ∧
          (view next).position = .ready := by
  induction values generalizing raw place with
  | nil =>
      refine ⟨raw, rfl, ?_⟩
      rw [List.map_nil, overwrite_nil, ← ready]
  | cons value rest inductionHypothesis =>
      rw [List.length_cons] at inRange
      unfold StatementEngine.bindFrom
      rw [List.findSome?_cons]
      dsimp only
      have here : place < (view raw).bound.length := by omega
      cases limit : refusal world (hold value) with
      | none =>
          obtain ⟨next, bound, sees⟩ := drives.binds ready here limit
          have boundAt : (view next).bound = (view raw).bound.set place (hold value) := by
            rw [sees]
            rfl
          have readyNext : (view next).position = .ready := by rw [sees]; exact ready
          have later := inductionHypothesis readyNext (place + 1)
            (by rw [boundAt, List.length_set]; omega)
          rw [boundAt, overwrite_set (by omega), List.length_set] at later
          rw [bound]
          exact later
      | some failure =>
          obtain ⟨next, refused, sees⟩ := drives.refuses ready here limit
          obtain ⟨sameCount, samePosition⟩ := drives.clears world next
          rw [refused]
          exact ⟨_, rfl, by rw [sameCount, sees], by rw [samePosition, sees, ready]⟩

/-- Binding leaves a statement reset, whether it succeeds or not. -/
theorem bindIter_keeps (drives : DrivesCursor wrapper plan hold refusal view streaming)
    (world : World) (statement : Statement Raw Held) (parameters : List (Value R))
    (ready : (view statement.inner).position = .ready) :
    (view (statement.bindIter (wrapper world) parameters).2.inner).bound.length =
        (view statement.inner).bound.length ∧
      (view (statement.bindIter (wrapper world) parameters).2.inner).position = .ready := by
  unfold Statement.bindIter Statement.parameterCount
  dsimp only
  by_cases sameCount : parameters.length = (wrapper world).parameterCount statement.inner
  · rw [if_neg (not_not_intro sameCount)]
    rw [drives.counted] at sameCount
    have pass := drives.bindFrom_view world parameters ready 0 (by omega)
    cases limit : parameters.findSome? fun value => refusal world (hold value) with
    | none =>
        rw [limit] at pass
        obtain ⟨next, passed, sees⟩ := pass
        rw [overwrite_all (by simp [sameCount])] at sees
        rw [passed]
        exact ⟨by rw [sees]; simp [sameCount], by rw [sees]⟩
    | some failure =>
        rw [limit] at pass
        obtain ⟨next, passed, count, position⟩ := pass
        rw [passed]
        exact ⟨count, position⟩
  · rw [if_pos sameCount]
    exact ⟨rfl, ready⟩

/-! ## Any past -/

/-- What is done with a statement whose rows are dropped before it is used again.  Others
leave its cursor alone. -/
def Uses (view : Raw → Cursor Held (List (SqlValueRef R)) Execution Int)
    (statement : Statement Raw Held) (now : World × StatementEvent R Raw) : Prop :=
  match now.2 with
  | .execute _ | .executeValues _ | .query _ | .queryValues _ | .clearBindings =>
      statement.borrowed = false
  | .nextRow | .dropRows => statement.borrowed = true
  | .forgetRows => False
  | .elsewhere inner => view inner = view statement.inner

/-- A statement that no rows borrow is reset. -/
structure KeptFree (view : Raw → Cursor Held (List (SqlValueRef R)) Execution Int)
    (count : Nat) (statement : Statement Raw Held) : Prop where
  count : (view statement.inner).bound.length = count
  ready : statement.borrowed = false → (view statement.inner).position = .ready

/-- One use in its world. -/
def useStep (wrapper : World → StatementEngine R Raw Held (Row R))
    (statement : Statement Raw Held) (now : World × StatementEvent R Raw) :
    Statement Raw Held :=
  statement.step (wrapper now.1) now.2

section Kept

variable {count : Nat} {statement : Statement Raw Held}

/-- A call that binds first goes on from a reset statement, if it goes on. -/
theorem andThen_keptFree {α β : Type}
    {bound : Result α × Statement Raw Held}
    {rest : Statement Raw Held → Result β × Statement Raw Held}
    (afterBinding : KeptFree view count bound.2)
    (goesOn : KeptFree view count (rest bound.2).2) :
    KeptFree view count (andThen bound rest).2 := by
  rcases bound with ⟨_ | _, statement⟩
  · exact afterBinding
  · exact goesOn

theorem execute_keptFree (drives : DrivesCursor wrapper plan hold refusal view streaming)
    (kept : KeptFree view count statement) (free : statement.borrowed = false) (world : World)
    (parameters : List (Value R)) :
    KeptFree view count (statement.execute (wrapper world) parameters).2 := by
  obtain ⟨sameCount, ready⟩ :=
    drives.bindIter_keeps world statement parameters (kept.ready free)
  have bound : KeptFree view count (statement.bindIter (wrapper world) parameters).2 :=
    ⟨sameCount.trans kept.count, fun _ => ready⟩
  refine andThen_keptFree bound ⟨?_, fun _ => ?_⟩
  · exact (congrArg (List.length ∘ Cursor.bound) (drives.executes world ready)).trans bound.count
  · exact (congrArg Cursor.position (drives.executes world ready)).trans ready

theorem query_keptFree (drives : DrivesCursor wrapper plan hold refusal view streaming)
    (kept : KeptFree view count statement) (free : statement.borrowed = false) (world : World)
    (parameters : List (Value R)) :
    KeptFree view count (statement.query (wrapper world) parameters).2 := by
  obtain ⟨sameCount, ready⟩ :=
    drives.bindIter_keeps world statement parameters (kept.ready free)
  have bound : KeptFree view count (statement.bindIter (wrapper world) parameters).2 :=
    ⟨sameCount.trans kept.count, fun _ => ready⟩
  refine andThen_keptFree bound ⟨?_, nofun⟩
  exact (congrArg (List.length ∘ Cursor.bound) (drives.queries world _).1).trans bound.count

/-- One use keeps a statement that no rows borrow reset. -/
theorem useStep_keptFree (drives : DrivesCursor wrapper plan hold refusal view streaming)
    (kept : KeptFree view count statement) {now : World × StatementEvent R Raw}
    (uses : Uses view statement now) : KeptFree view count (useStep wrapper statement now) := by
  obtain ⟨world, event⟩ := now
  cases event with
  | execute parameters | executeValues parameters =>
      exact execute_keptFree drives kept uses world parameters
  | query parameters | queryValues parameters =>
      exact query_keptFree drives kept uses world parameters
  | clearBindings =>
      obtain ⟨sameCount, samePosition⟩ := drives.clears world statement.inner
      exact ⟨sameCount.trans kept.count, fun free => samePosition.trans (kept.ready free)⟩
  | nextRow =>
      have borrowed : statement.borrowed = true := uses
      refine ⟨(drives.advancesCount world statement.inner).trans kept.count, fun free => ?_⟩
      exact absurd (borrowed.symm.trans free) (by decide)
  | dropRows =>
      have reset := drives.drops world statement.inner
      refine ⟨?_, fun _ => ?_⟩
      · exact (congrArg (List.length ∘ Cursor.bound) reset).trans kept.count
      · exact congrArg Cursor.position reset
  | forgetRows => exact uses.elim
  | elsewhere inner =>
      have same : view inner = view statement.inner := uses
      refine ⟨?_, fun free => ?_⟩
      · exact (congrArg (List.length ∘ Cursor.bound) same).trans kept.count
      · exact (congrArg Cursor.position same).trans (kept.ready free)

theorem run_keptFree (drives : DrivesCursor wrapper plan hold refusal view streaming)
    (kept : KeptFree view count statement) {past : List (World × StatementEvent R Raw)}
    (uses : EveryStep (useStep wrapper) (Uses view) statement past) :
    KeptFree view count (past.foldl (useStep wrapper) statement) := by
  let held (_ : List (World × StatementEvent R Raw)) := KeptFree view count
  have start : held [] statement := kept
  exact uses.history start fun _ _ _ kept allowed => useStep_keptFree drives kept allowed

end Kept

/-! ## Reading -/

/-- Every round of the loop finds what the step of the cursor finds. -/
theorem fetches (drives : DrivesCursor wrapper plan hold refusal view streaming) :
    Fetches plan (Statement.fetch wrapper) (List.map SqlValueRef.toValue) mapRawStorageError
      fun (statement : Statement Raw Held) cursor =>
        view statement.inner = cursor ∧ streaming statement.inner := by
  refine ⟨fun {world statement cursor} stands canStep => ?_⟩
  obtain ⟨rfl, isStreaming⟩ := stands
  have advanced := drives.advances world isStreaming canStep
  unfold Statement.fetch Statement.nextRow
  rcases answered : (wrapper world).nextRow statement.inner with ⟨result, inner⟩
  rw [answered] at advanced
  cases next : (view statement.inner).next plan world with
  | row cells rest =>
      rw [next] at advanced
      obtain ⟨after, same, sees, streams⟩ := advanced
      obtain ⟨rfl, rfl⟩ := Prod.mk.inj same
      exact ⟨congrArg Fetched.row Row.values_eq, sees, streams⟩
  | done =>
      rw [next] at advanced
      obtain rfl : result = .ok none := advanced
      rfl
  | failed failure =>
      rw [next] at advanced
      obtain rfl : result = .error (sqliteFailure failure) := advanced
      rfl

/-- A query through a statement that no rows borrow gets the answer of a fresh cursor. -/
theorem collect_eq (drives : DrivesCursor wrapper plan hold refusal view streaming)
    {statement : Statement Raw Held} (ready : (view statement.inner).position = .ready)
    (world : World) {parameters : List (Value R)}
    (sameCount : parameters.length = (view statement.inner).bound.length)
    (worlds : List World) :
    statement.collect wrapper world parameters worlds =
      (plan.answer (refusal world) (parameters.map hold) worlds).map
        (List.map SqlValueRef.toValue) mapRawStorageError := by
  have pass := drives.bindFrom_view world parameters ready 0 (by omega)
  have exact : ¬ parameters.length ≠ (wrapper world).parameterCount statement.inner := by
    rw [drives.counted]
    exact not_not_intro sameCount
  unfold Statement.collect Statement.queryValues Statement.bindOwnedAll Statement.bindIter
    Statement.parameterCount Plan.answer
  dsimp only
  rw [if_neg exact, List.findSome?_map]
  cases limit : parameters.findSome? fun value => refusal world (hold value) with
  | none =>
      rw [limit] at pass
      obtain ⟨next, passed, sees⟩ := pass
      rw [overwrite_all (by simp [sameCount])] at sees
      rw [show parameters.findSome? (refusal world ∘ hold) = none from limit, passed]
      obtain ⟨sameView, streams⟩ := drives.queries world next
      let reading : Statement Raw Held :=
        { statement with inner := (wrapper world).rawQuery next, borrowed := true }
      have stands : view reading.inner =
          { bound := parameters.map hold, position := .ready } ∧ streaming reading.inner :=
        ⟨sameView.trans sees, streams⟩
      have read := (fetches drives).readRows_eq worlds stands trivial
      simp only [andThen, Statement.rawQuery]
      rw [read]
      rfl
  | some failure =>
      rw [limit] at pass
      obtain ⟨next, passed, -, -⟩ := pass
      rw [show parameters.findSome? (refusal world ∘ hold) = some failure from limit, passed]
      rfl

end DrivesCursor

/-! ## A cursor behind the wrapper -/

/-- A wrapper whose engine statement is nothing but a cursor. -/
def cursorWrapper (plan : Plan World Held (List (SqlValueRef R)) Execution Int)
    (hold : Value R → Held) (refusal : World → Held → Option Int) (unbound : Held)
    (world : World) :
    StatementEngine R (Cursor Held (List (SqlValueRef R)) Execution Int) Held (Row R) where
  bound := Cursor.bound
  held := hold
  unbound := unbound
  parameterCount raw := raw.bound.length
  rawBindParameter index value raw :=
    match refusal world (hold value) with
    | some failure => (.error (sqliteFailure failure), raw)
    | none => (.ok (), raw.bind (index - 1) (hold value))
  clearBindings raw := { raw with bound := List.replicate raw.bound.length unbound }
  rawExecute raw := (.ok 0, raw)
  rawQuery raw := raw
  nextRow raw :=
    match raw.next plan world with
    | .row cells rest => (.ok (some ⟨cells⟩), { raw with position := .row cells rest })
    | .done => (.ok none, raw.reset)
    | .failed failure => (.error (sqliteFailure failure), raw.reset)
  dropRows := Cursor.reset

theorem cursorWrapper_drives (plan : Plan World Held (List (SqlValueRef R)) Execution Int)
    (hold : Value R → Held) (refusal : World → Held → Option Int) (unbound : Held) :
    DrivesCursor (cursorWrapper plan hold refusal unbound) plan hold refusal id
      fun _ => True where
  counted _ _ := rfl
  binds {world raw place value} _ _ limit := by
    refine ⟨_, ?_, rfl⟩
    simp only [cursorWrapper, limit, Nat.add_sub_cancel]
    rfl
  refuses {world raw place value failure} _ _ limit := by
    refine ⟨raw, ?_, rfl⟩
    simp only [cursorWrapper, limit]
  clears _ _ := ⟨List.length_replicate, rfl⟩
  executes _ _ _ := rfl
  queries _ _ := ⟨rfl, trivial⟩
  advancesCount world raw := by
    simp only [cursorWrapper, id]
    split <;> rfl
  advances world raw _ _ := by
    simp only [cursorWrapper, id]
    cases raw.next plan world with
    | row cells rest => exact ⟨_, rfl, rfl, trivial⟩
    | done | failed _ => rfl
  drops _ _ := rfl

end Csgdb.Storage

namespace Csgdb.Ffi

open Foundation
open Storage (SqlValueRef DrivesCursor mapRawStorageError)

variable {World Raw Inner Held Execution : Type}

/-! ## A cursor behind a C statement -/

/-- The cell of a column of the current row. -/
def cellAt (raw : Cursor Held Cells Execution Int) (index : Nat) : SqlValueRef UInt64 :=
  match raw.position with
  | .row row _ => row.getD index .null
  | .ready | .done | .failed _ => .null

/-- The bytes of a cell that has some. -/
def cellBytes : SqlValueRef UInt64 → List UInt8
  | .text bytes | .blob bytes => bytes
  | .null | .integer _ | .real _ => []

/-- An engine statement that is nothing but a cursor; it lends the bytes of a column under its
number. -/
def cursorEngine (plan : Plan World Held Cells Execution Int) (hold : BoundValue → Held)
    (refusal : World → Held → Option Int) (unbound : Held) :
    RawEngine World (Cursor Held Cells Execution Int) where
  result world call raw :=
    match call with
    | .step => (stepResult (raw.next plan world), raw.step plan world)
    | .reset => (sqliteOk, raw.reset)
    | .clearBindings =>
        (sqliteOk, { raw with bound := List.replicate raw.bound.length unbound })
    | .bind index value =>
        match refusal world (hold value) with
        | some failure => (failure, raw)
        | none => (sqliteOk, raw.bind (index.toNat - 1) (hold value))
  value call raw :=
    match call with
    | .column .type index => .int (typeCode (cellAt raw index.toNat))
    | .column .int64 index =>
        match cellAt raw index.toNat with
        | .integer value => .int value.toInt
        | _ => .int 0
    | .column .double index =>
        match cellAt raw index.toNat with
        | .real bits => .double bits
        | _ => .double 0
    | .column .text index | .column .blob index => .pointer (some index.toNat)
    | _ => .pointer none
  columnBytes raw index := (cellBytes (cellAt raw index.toNat)).length
  afterRead _ raw := raw
  memory raw address := cellBytes (cellAt raw address)

theorem cellAt_of_shows {raw : Cursor Held Cells Execution Int} {index : Nat}
    {cell : SqlValueRef UInt64} (shows : Shows id (fun _ _ => True) raw index cell) :
    cellAt raw index = cell := by
  obtain ⟨-, row, rest, onRow, there⟩ := shows
  have position : raw.position = .row row rest := onRow
  unfold cellAt
  rw [position]
  exact (List.getD_eq_getElem?_getD ..).trans (by rw [there]; rfl)

/-- Whatever query it runs. -/
theorem cursorEngine_documented {plan : Plan World Held Cells Execution Int}
    (hold : BoundValue → Held) {refusal : World → Held → Option Int} (unbound : Held)
    {columns : Nat}
    (refusals : ∀ {world held failure}, refusal world held = some failure → IsFailure failure)
    (failures : ∀ {world execution failure},
      plan.advance world execution = .failed failure → IsFailure failure)
    (width : ∀ {world execution row rest}, plan.advance world execution = .row row rest →
      row.length = columns) :
    (cursorEngine plan hold refusal unbound).Documented plan hold refusal id
      (fun _ _ => True) columns unbound where
  keepsCount world call raw := by
    cases call with
    | step | reset => rfl
    | clearBindings => exact List.length_replicate
    | bind index value =>
        simp only [cursorEngine]
        cases refusal world (hold value) with
        | some failure => rfl
        | none => exact List.length_set
  readsKeepCount _ _ := rfl
  resets _ _ := rfl
  clears world raw ready := congrArg (Cursor.mk _) ready
  binds {world raw place value} _ _ limit := by
    simp only [cursorEngine, limit, Int.toNat_natCast, Nat.add_sub_cancel, id, and_self]
  refuses {world raw place value failure} _ _ limit := by
    simp only [cursorEngine, limit]
  refusals := refusals
  steps world raw _ := ⟨rfl, rfl, fun _ => trivial⟩
  failures := failures
  width := width
  fits _ _ _ := ⟨rfl, fun _ fresh => fresh⟩
  types shows := by
    simp only [cursorEngine, Int.toNat_natCast, cellAt_of_shows shows]
  integers shows := by
    simp only [cursorEngine, Int.toNat_natCast, cellAt_of_shows shows]
  reals shows := by
    simp only [cursorEngine, Int.toNat_natCast, cellAt_of_shows shows]
  texts {raw index bytes} shows := by
    refine ⟨index, rfl, ?_⟩
    simp only [cursorEngine, cellAt_of_shows shows]
    exact List.take_length
  blobs {raw index bytes} shows := by
    refine ⟨some index, rfl, .inr ⟨index, rfl, ?_⟩⟩
    simp only [cursorEngine, cellAt_of_shows shows]
    exact List.take_length
  lengths shows := by
    rcases shows with shows | shows
    · simp only [cursorEngine, Int.toNat_natCast, cellAt_of_shows shows, cellBytes]
    · simp only [cursorEngine, Int.toNat_natCast, cellAt_of_shows shows, cellBytes]

/-! ## Agreement -/

/-- A statement as `prepare` hands it out, with the engine statement behind it. -/
def LiveStatement.prepared (shared : SharedDatabase) (raw : Raw) (parameters columns : Nat) :
    LiveStatement Raw where
  session := preparedSession shared parameters columns
  raw := raw

/-- One query, two interfaces.  Whatever a C program called on its statement before, misused
or not, and whatever a Rust program did with its own, as long as it dropped its rows: a
program that binds, steps and reads as documented is given the same rows with the same cells,
and the same ending, by both.  The rows are those of the query on the given values in the
worlds that the steps find; the C interface hands out the bytes of a text, which the Rust
interface checks. -/
theorem interfaces_agree {engine : RawEngine World Raw}
    {plan : Plan World Held Cells Execution Int} {hold : BoundValue → Held}
    {refusal : World → Held → Option Int} {view : Raw → Cursor Held Cells Execution Int}
    {fresh : Raw → Nat → Prop} {columns : Nat} {unbound : Held}
    (documented : engine.Documented plan hold refusal view fresh columns unbound)
    {wrapper : World → Storage.StatementEngine UInt64 Inner Held (Storage.Row UInt64)}
    {rustView : Inner → Cursor Held Cells Execution Int} {streaming : Inner → Prop}
    (drives : DrivesCursor wrapper plan (fun value => hold (boundValue value)) refusal rustView
      streaming)
    (shared : SharedDatabase) {raw : Raw} {inner : Inner}
    (ready : (rustView inner).position = .ready) {parameters : List (Value UInt64)}
    (sameCount : parameters.length = (view raw).bound.length)
    (sameRustCount : parameters.length = (rustView inner).bound.length)
    (addressable : ∀ value ∈ parameters, Addressable value)
    (history : List (World × StatementCall))
    {past : List (World × Storage.StatementEvent UInt64 Inner)}
    (uses : EveryStep (DrivesCursor.useStep wrapper) (DrivesCursor.Uses rustView)
      (Storage.Statement.prepared inner) past)
    (free : (past.foldl (DrivesCursor.useStep wrapper)
      (Storage.Statement.prepared inner)).borrowed = false)
    (world : World) (worlds : List World) :
    let answer := plan.answer (refusal world)
      (parameters.map fun value => hold (boundValue value)) worlds
    ((LiveStatement.prepared shared raw parameters.length columns).run engine history).query
        engine world parameters worlds = answer.map id mapSqliteCode ∧
      (past.foldl (DrivesCursor.useStep wrapper) (Storage.Statement.prepared inner)).collect
        wrapper world parameters worlds =
          answer.map (List.map SqlValueRef.toValue) mapRawStorageError := by
  have prepared : (LiveStatement.prepared shared raw parameters.length columns).Usable view
      columns := ⟨⟨[], rfl⟩, congrArg Nat.cast sameCount, rfl⟩
  obtain ⟨usable, count⟩ := LiveStatement.run_usable documented prepared history
  have kept := DrivesCursor.run_keptFree drives ⟨sameRustCount.symm, fun _ => ready⟩ uses
  exact ⟨LiveStatement.query_eq documented usable world addressable (sameCount.trans count.symm)
      worlds,
    drives.collect_eq (kept.ready free) world kept.count.symm worlds⟩

/-- What the engine holds for a bound value. -/
def heldCell : BoundValue → SqlValueRef UInt64
  | .null => .null
  | .int value | .int64 value => .integer (Int64.ofInt value)
  | .double bits => .real bits
  | .text bytes => .text bytes
  | .blob bytes => .blob bytes

/-- `SELECT ?1, ?2` -/
def pairPlan : Plan Unit (SqlValueRef UInt64) Cells (List { row : Cells // row.length = 2 }) Int
    where
  start _ bound := if two : bound.length = 2 then [⟨bound, two⟩] else []
  advance _
    | [] => .done
    | row :: rest => .row row.1 rest

/-- Texts of more than three bytes are too big. -/
def longTexts (_ : Unit) : SqlValueRef UInt64 → Option Int
  | .text bytes => if 3 < bytes.length then some 18 else none
  | _ => none

theorem longTexts_fails {world : Unit} {held : SqlValueRef UInt64} {failure : Int}
    (limit : longTexts world held = some failure) : IsFailure failure := by
  unfold longTexts at limit
  split at limit
  · split at limit
    · obtain rfl := Option.some.inj limit
      exact ⟨nofun, by decide, by decide⟩
    · cases limit
  · cases limit

def pairParameters : List (Value UInt64) := [.integer 7, .text "ok"]

theorem pairEngine_documented :
    (cursorEngine pairPlan heldCell longTexts .null).Documented pairPlan heldCell longTexts id
      (fun _ _ => True) 2 .null := by
  apply cursorEngine_documented heldCell .null longTexts_fails
  case failures =>
    intro world execution failure failed
    cases execution <;> cases failed
  case width =>
    intro world execution row rest advanced
    cases execution with
    | nil => cases advanced
    | cons first later =>
        obtain ⟨rfl, -⟩ := Advance.row.inj advanced
        exact first.2

theorem interfaces_agree_pair :
    let engine := cursorEngine pairPlan heldCell longTexts .null
    let wrapper := Storage.cursorWrapper pairPlan (fun value => heldCell (boundValue value))
      longTexts .null
    let fresh : Cursor (SqlValueRef UInt64) Cells (List { row : Cells // row.length = 2 }) Int :=
      { bound := [.null, .null], position := .ready }
    let live := (LiveStatement.prepared { poisoned := false, lastCode := .ok } fresh 2 2).run
      engine [((), .step), ((), .bindNull 9), ((), .columnText 0), ((), .step), ((), .step)]
    let statement := [((), Storage.StatementEvent.query [.null, .null]), ((), .nextRow),
        ((), .dropRows)].foldl (DrivesCursor.useStep wrapper) (Storage.Statement.prepared fresh)
    (live.query engine () pairParameters [(), (), ()] =
        .answered [[.integer 7, .text [0x6f, 0x6b]]] .done ∧
      statement.collect wrapper () pairParameters [(), (), ()] =
        .answered [[.ok (.integer 7), .ok (.text "ok")]] .done) := by
  intro engine wrapper fresh live statement
  have uses : EveryStep (DrivesCursor.useStep wrapper) (DrivesCursor.Uses id)
      (Storage.Statement.prepared fresh)
      [((), .query [.null, .null]), ((), .nextRow), ((), .dropRows)] :=
    ⟨rfl, rfl, rfl, trivial⟩
  have addressable : ∀ value ∈ pairParameters, Addressable value := by
    intro value among
    rcases List.mem_pair.mp among with rfl | rfl
    · trivial
    · change "ok".toUTF8.data.toList.length < 9223372036854775808
      decide
  have ready : (id fresh).position = .ready := rfl
  have sameCount : pairParameters.length = (id fresh).bound.length := rfl
  have agree := interfaces_agree pairEngine_documented
    (Storage.cursorWrapper_drives pairPlan (fun value => heldCell (boundValue value)) longTexts
      .null)
    { poisoned := false, lastCode := .ok } ready sameCount sameCount addressable
    [((), .step), ((), .bindNull 9), ((), .columnText 0), ((), .step), ((), .step)] uses rfl ()
    [(), (), ()]
  refine ⟨agree.1.trans ?_, agree.2.trans ?_⟩
  · rfl
  · rfl

end Csgdb.Ffi
