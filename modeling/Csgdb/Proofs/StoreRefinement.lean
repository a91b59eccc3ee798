/-
Module: Csgdb.Proofs.StoreRefinement
Purpose: A session on a typed collection is a store of records: over every run of its
  commands it answers what the store answers.
Trusted boundary: none
Main exports: UniqueIndexes, CollectionSession.rules, CollectionSession.request,
  CollectionSession.Represents, CollectionSession.session_refines_record_store
-/
import Csgdb.Foundation.Replacement
import Csgdb.Proofs.BoundedQueries
import Csgdb.Proofs.Interoperability
import Csgdb.Proofs.StoredRecords

namespace Csgdb

open Derive Foundation Query

/-! ## The store that a session is meant to be -/

section Records

variable {V Cell : Type} [Sql.Scalar Cell] {derived : DerivedCollection}

/-- Two records differ in a field of an index, or one has no value there. -/
def Separated (codec : DerivedField → FieldCodec V Cell) (index : DerivedIndex)
    (left right : Record derived V) : Prop :=
  ∃ column ∈ index.columns,
    Sql.Scalar.isNull (left.row codec column) = true ∨
      Sql.Scalar.isNull (right.row codec column) = true ∨
      left.valueOf column ≠ right.valueOf column

/-- The unique indexes of a collection tell its records apart. -/
def UniqueIndexes (codec : DerivedField → FieldCodec V Cell)
    (store : Store V (Record derived V)) : Prop :=
  ∀ index ∈ derived.indexes, index.unique = true →
    ∀ left ∈ store.records, ∀ right ∈ store.records, left ≠ right →
      Separated codec index left right

/-- Only a field of an optional type can have no value. -/
def KeepsPresence (codec : DerivedField → FieldCodec V Cell) : Prop :=
  ∀ field value cell, (codec field).toValue value = .ok cell →
    Sql.Scalar.isNull cell = true → field.nullable = true

end Records

namespace CollectionSession

variable {R V : Type} [RealCarrier R] [EngineOrder R] [DecidableEq R]
variable (session : CollectionSession R V)

/-- The rules of the store.  `keyOf` reads the primary key of a record. -/
def rules (keyOf : Record session.crud.derived V → V) :
    StoreRules V (Record session.crud.derived V) Error where
  keyOf := keyOf
  admits := UniqueIndexes session.crud.codec
  violation := Storage.constraintViolation

/-- The records that a predicate selects. -/
def selection (predicate : Option (PredicateNode R)) : Set (Record session.crud.derived V) :=
  { record | selectedBy predicate (record.row session.crud.codec) }

/-- The order of a query between records: the primary key decides last. -/
def arrangement (order : List QueryOrder) (left right : Record session.crud.derived V) :
    Prop :=
  Sql.precedes
    ((effectiveOrder session.crud.derived.primaryKey.schema order).map QueryOrder.orderTerm)
    (left.row session.crud.codec) (right.row session.crud.codec) = true

/-- What a command asks of the store, unless it fails before: a value that has no cell, a
draft that is no query. -/
def request : CollectionCommand session.crud.derived R V →
    Except Error (StoreRequest V (Record session.crud.derived V))
  | .insert record => (record.cells session.crud.codec).map fun _ => .insert record
  | .get key =>
      ((session.crud.codec session.crud.derived.primaryKey).toValue key).map fun _ => .get key
  | .update record => (record.cells session.crud.codec).map fun _ => .update record
  | .delete key =>
      ((session.crud.codec session.crud.derived.primaryKey).toValue key).map fun _ =>
        .delete key
  | .query draft limit =>
      (draft.take session.crud.derived.schema limit).map fun _ =>
        .list (session.selection draft.predicate) (session.arrangement draft.order)
          limit.toNat
  | .exists draft =>
      (draft.exists session.crud.derived.schema).map fun _ =>
        .any (session.selection draft.predicate)

/-- What the engine and its wrapper are documented to do for the collection. -/
structure Documented : Prop where
  binds : ∀ index value, session.crud.rawBindParameter index value = .ok ()
  constraints : session.crud.accepts = declaredConstraints session.crud.derived
  compares : ∀ column, session.engine.collation.compare column = Sql.Scalar.order

/-! ## Rows that stand for a store -/

/-- Each row stands for one record of the store, and each record has its row. -/
structure RowsOf (keyOf : Record session.crud.derived V → V)
    (rows : List (Sql.Row (Value R))) (store : Store V (Record session.crud.derived V)) :
    Prop where
  row_iff : ∀ row, row ∈ rows ↔ ∃ record ∈ store.records, record.row session.crud.codec = row
  sound : store.Sound keyOf { record | record.Encodes session.crud.codec }

/-- The table stands for a store that the unique indexes admit. -/
structure Represents (keyOf : Record session.crud.derived V → V) (table : session.crud.Content)
    (store : Store V (Record session.crud.derived V)) : Prop extends
    session.RowsOf keyOf table.rows store where
  admitted : UniqueIndexes session.crud.codec store

omit [RealCarrier R] [DecidableEq R] in
/-- The empty table stands for the empty store. -/
theorem empty_represents (keyOf : Record session.crud.derived V → V) :
    session.Represents keyOf ⟨[], by simp, by simp⟩ (fun _ => none) where
  row_iff := by simp [Store.records]
  sound := ⟨by simp, by simp [Store.records]⟩
  admitted := by simp [UniqueIndexes, Store.records]

end CollectionSession

/-- A list whose members all come from somewhere. -/
theorem exists_map_eq {α β : Type} {origin : α → Prop} {view : α → β} {values : List β}
    (each : ∀ value ∈ values, ∃ source, origin source ∧ view source = value) :
    ∃ sources : List α, sources.map view = values ∧ ∀ source ∈ sources, origin source := by
  induction values with
  | nil => exact ⟨[], rfl, by simp⟩
  | cons value rest inductionHypothesis =>
      obtain ⟨source, isOrigin, rfl⟩ := each value List.mem_cons_self
      obtain ⟨sources, rfl, origins⟩ := inductionHypothesis fun other member =>
        each other (List.mem_cons_of_mem _ member)
      exact ⟨source :: sources, rfl, List.forall_mem_cons.mpr ⟨isOrigin, origins⟩⟩

section Constraints

variable {V Cell : Type} [Sql.Scalar Cell] [DecidableEq Cell] {derived : DerivedCollection}
variable {codec : DerivedField → FieldCodec V Cell} {host : MacroHost}

omit [DecidableEq Cell] in
/-- Values are equal exactly when their cells are. -/
theorem valueOf_eq_iff (formed : derived.WellFormed host) (roundTrip : RoundTrips codec)
    {left right : Record derived V} (leftEncodes : left.Encodes codec)
    (rightEncodes : right.Encodes codec) {column : String} (named : column ∈ derived.columns) :
    left.valueOf column = right.valueOf column ↔
      left.row codec column = right.row codec column := by
  obtain ⟨field, member, rfl⟩ := List.mem_map.mp named
  obtain ⟨value, leftValue, leftCell⟩ := row_field formed leftEncodes member
  obtain ⟨other, rightValue, rightCell⟩ := row_field formed rightEncodes member
  rw [leftValue, rightValue, Option.some.injEq]
  constructor
  · rintro rfl
    exact Except.ok.inj (leftCell.symm.trans rightCell)
  · intro same
    rw [← same] at rightCell
    exact roundTrip.toValue_injective leftCell rightCell

theorem indexSeparates_iff (formed : derived.WellFormed host) (roundTrip : RoundTrips codec)
    {left right : Record derived V} (leftEncodes : left.Encodes codec)
    (rightEncodes : right.Encodes codec) (index : DerivedIndex) :
    indexSeparates index (left.row codec) (right.row codec) = true ↔
      Separated codec index left right := by
  unfold indexSeparates Separated
  rw [List.any_eq_true]
  apply exists_congr
  intro column
  apply and_congr_right
  intro indexed
  by_cases named : column ∈ derived.columns
  · rw [Bool.or_eq_true, Bool.or_eq_true, or_assoc, bne_iff_ne, Ne,
      ← valueOf_eq_iff formed roundTrip leftEncodes rightEncodes named]
  · simp [left.row_foreign named, Sql.Scalar.isNull_null]

theorem indexSeparates_symm (index : DerivedIndex) :
    Std.Symm fun left right : Sql.Row Cell => indexSeparates index left right = true := by
  constructor
  intro left right separated
  unfold indexSeparates at separated ⊢
  rw [List.any_eq_true] at separated ⊢
  obtain ⟨column, member, apart⟩ := separated
  refine ⟨column, member, ?_⟩
  rw [Bool.or_comm (Sql.Scalar.isNull (right column)), bne_comm]
  exact apart

omit [DecidableEq Cell] in
/-- A column that is declared `NOT NULL` never receives a null. -/
theorem keepsNotNull_row (formed : derived.WellFormed host) (presence : KeepsPresence codec)
    {record : Record derived V} (encodes : record.Encodes codec) :
    keepsNotNull derived (record.row codec) = true := by
  unfold keepsNotNull
  rw [List.all_eq_true]
  intro field member
  obtain ⟨value, -, encoded⟩ := row_field formed encodes member
  cases isNull : Sql.Scalar.isNull (record.row codec field.column) with
  | false => simp
  | true => simp [presence field value _ encoded isNull]

omit [DecidableEq Cell] in
/-- The key of a stored record is never null. -/
theorem key_present (formed : derived.WellFormed host) (presence : KeepsPresence codec)
    {record : Record derived V} (encodes : record.Encodes codec) :
    Sql.Scalar.isNull (record.row codec derived.primaryKey.column) = false := by
  obtain ⟨member, isKey⟩ := primaryKey_mem formed
  obtain ⟨value, -, encoded⟩ := row_field formed encodes member
  apply Bool.eq_false_iff.mpr
  intro isNull
  have optional := presence _ value _ encoded isNull
  rw [(formed.field_wellFormed _ member).key_required isKey] at optional
  cases optional

end Constraints

namespace CollectionSession

variable {R V : Type} [EngineOrder R] [DecidableEq R]
variable {session : CollectionSession R V} {host : MacroHost}
variable {keyOf : Record session.crud.derived V → V}
variable {rows : List (Sql.Row (Value R))} {store : Store V (Record session.crud.derived V)}

/-- The declared constraints hold of the rows exactly when the unique indexes admit the
store. -/
theorem RowsOf.declaredConstraints_iff (rowsOf : session.RowsOf keyOf rows store)
    (formed : session.crud.derived.WellFormed host) (roundTrip : RoundTrips session.crud.codec)
    (presence : KeepsPresence session.crud.codec) (nodup : rows.Nodup) :
    declaredConstraints session.crud.derived rows = true ↔
      UniqueIndexes session.crud.codec store := by
  have encodes : ∀ record ∈ store.records, record.Encodes session.crud.codec :=
    rowsOf.sound.proper
  have notNull : rows.all (keepsNotNull session.crud.derived) = true := by
    rw [List.all_eq_true]
    intro row member
    obtain ⟨record, stored, rfl⟩ := (rowsOf.row_iff row).mp member
    exact keepsNotNull_row formed presence (encodes record stored)
  unfold declaredConstraints UniqueIndexes
  rw [notNull, Bool.true_and, List.all_eq_true]
  apply forall_congr'
  intro index
  apply imp_congr_right
  intro declared
  rw [Bool.or_eq_true, Bool.not_eq_true', decide_eq_true_iff]
  cases index.unique with
  | false => simp
  | true =>
      simp only [reduceCtorEq, false_or, forall_const]
      constructor
      · intro pairwise left leftStored right rightStored different
        have symmetric := @indexSeparates_symm (Value R) _ _ index
        have rowsDiffer : left.row session.crud.codec ≠ right.row session.crud.codec :=
          fun same => different (roundTrip.row_injective formed (encodes left leftStored)
            (encodes right rightStored) same)
        have apart := pairwise.forall ((rowsOf.row_iff _).mpr ⟨left, leftStored, rfl⟩)
          ((rowsOf.row_iff _).mpr ⟨right, rightStored, rfl⟩) rowsDiffer
        exact (indexSeparates_iff formed roundTrip (encodes left leftStored)
          (encodes right rightStored) index).mp apart
      · intro separated
        apply nodup.pairwise_of_forall_ne
        intro one oneMember two twoMember different
        obtain ⟨left, leftStored, rfl⟩ := (rowsOf.row_iff one).mp oneMember
        obtain ⟨right, rightStored, rfl⟩ := (rowsOf.row_iff two).mp twoMember
        rw [indexSeparates_iff formed roundTrip (encodes left leftStored)
          (encodes right rightStored)]
        apply separated left leftStored right rightStored
        rintro rfl
        exact different rfl

/-! ## Keys -/

section Keys

variable (formed : session.crud.derived.WellFormed host)
variable (reads : ∀ record : Record session.crud.derived V, record.key = some (keyOf record))
variable (roundTrip : RoundTrips session.crud.codec)

include formed reads

omit [DecidableEq R] in
/-- The key cell of a record encodes its key. -/
theorem toValue_keyOf {record : Record session.crud.derived V}
    (encodes : record.Encodes session.crud.codec) :
    (session.crud.codec session.crud.derived.primaryKey).toValue (keyOf record) =
      .ok (record.row session.crud.codec session.crud.derived.primaryKey.column) :=
  row_key formed (reads record) encodes

include roundTrip

omit [DecidableEq R] in
theorem row_key_eq_iff {record : Record session.crud.derived V}
    (encodes : record.Encodes session.crud.codec) {key : V} {keyCell : Value R}
    (encoded : (session.crud.codec session.crud.derived.primaryKey).toValue key =
      .ok keyCell) :
    record.row session.crud.codec session.crud.derived.primaryKey.column = keyCell ↔
      keyOf record = key := by
  have ownCell := toValue_keyOf formed reads encodes
  constructor
  · rintro rfl
    exact roundTrip.toValue_injective ownCell encoded
  · rintro rfl
    exact Except.ok.inj (ownCell.symm.trans encoded)

/-- The row under a key is the row of the record that the store has under it. -/
theorem RowsOf.view_eq {table : session.crud.Content}
    (rowsOf : session.RowsOf keyOf table.rows store) {key : V} {keyCell : Value R}
    (encoded : (session.crud.codec session.crud.derived.primaryKey).toValue key =
      .ok keyCell) :
    table.view keyCell = (store key).map (Record.row session.crud.codec) := by
  cases stored : store key with
  | some record =>
      rw [Option.map_some, Sql.Table.view_eq_some_iff]
      refine ⟨(rowsOf.row_iff _).mpr ⟨record, ⟨key, stored⟩, rfl⟩, ?_⟩
      exact (row_key_eq_iff formed reads roundTrip
        (rowsOf.sound.proper record ⟨key, stored⟩) encoded).mpr (rowsOf.sound.keyed stored)
  | none =>
      rw [Option.map_none, Sql.Table.view_eq_none_iff]
      intro row member sameKey
      obtain ⟨record, ⟨otherKey, isStored⟩, rfl⟩ := (rowsOf.row_iff row).mp member
      have same := (row_key_eq_iff formed reads roundTrip
        (rowsOf.sound.proper record ⟨otherKey, isStored⟩) encoded).mp sameKey
      rw [rowsOf.sound.keyed isStored] at same
      rw [← same, isStored] at stored
      cases stored

omit [DecidableEq R] in
/-- Rows in which the row of a record replaces the row under its key. -/
theorem RowsOf.put [DecidableEq V] (rowsOf : session.RowsOf keyOf rows store)
    {record : Record session.crud.derived V} (encodes : record.Encodes session.crud.codec)
    {changed : List (Sql.Row (Value R))}
    (changedIff : ∀ row, row ∈ changed ↔ row = record.row session.crud.codec ∨
      row ∈ rows ∧ row session.crud.derived.primaryKey.column ≠
        record.row session.crud.codec session.crud.derived.primaryKey.column) :
    session.RowsOf keyOf changed ((session.rules keyOf).put store record) where
  row_iff := by
    have ownCell := toValue_keyOf formed reads encodes
    intro row
    rw [changedIff, rowsOf.row_iff]
    constructor
    · rintro (rfl | ⟨⟨other, stored, rfl⟩, differs⟩)
      · exact ⟨record, (rowsOf.sound.mem_put (session.rules keyOf)).mpr (Or.inl rfl), rfl⟩
      · refine ⟨other, (rowsOf.sound.mem_put (session.rules keyOf)).mpr
          (Or.inr ⟨stored, ?_⟩), rfl⟩
        exact fun same => differs ((row_key_eq_iff formed reads roundTrip
          (rowsOf.sound.proper other stored) ownCell).mpr same)
    · rintro ⟨other, member, rfl⟩
      rcases (rowsOf.sound.mem_put (session.rules keyOf)).mp member with rfl | ⟨stored, differs⟩
      · exact Or.inl rfl
      · refine Or.inr ⟨⟨other, stored, rfl⟩, fun same => differs ?_⟩
        exact (row_key_eq_iff formed reads roundTrip
          (rowsOf.sound.proper other stored) ownCell).mp same
  sound := rowsOf.sound.put (session.rules keyOf) encodes

/-- Rows without the row under a key. -/
theorem RowsOf.remove [DecidableEq V] (rowsOf : session.RowsOf keyOf rows store) {key : V}
    {keyCell : Value R}
    (encoded : (session.crud.codec session.crud.derived.primaryKey).toValue key =
      .ok keyCell) :
    session.RowsOf keyOf
      (rows.filter fun row => row session.crud.derived.primaryKey.column ≠ keyCell)
      (store.remove key) where
  row_iff := by
    intro row
    rw [List.mem_filter, decide_eq_true_iff, rowsOf.row_iff]
    constructor
    · rintro ⟨⟨record, stored, rfl⟩, differs⟩
      refine ⟨record, rowsOf.sound.mem_remove.mpr ⟨stored, fun same => differs ?_⟩, rfl⟩
      exact (row_key_eq_iff formed reads roundTrip
        (rowsOf.sound.proper record stored) encoded).mpr same
    · rintro ⟨record, member, rfl⟩
      obtain ⟨stored, differs⟩ := rowsOf.sound.mem_remove.mp member
      refine ⟨⟨record, stored, rfl⟩, fun same => differs ?_⟩
      exact (row_key_eq_iff formed reads roundTrip
        (rowsOf.sound.proper record stored) encoded).mp same
  sound := rowsOf.sound.remove key

end Keys

/-! ## Changes -/

section Changes

variable (formed : session.crud.derived.WellFormed host)
variable (roundTrip : RoundTrips session.crud.codec)
variable (presence : KeepsPresence session.crud.codec) (documented : session.Documented)

include formed roundTrip presence documented

/-- A change to rows with distinct keys, which stand for a store that the unique indexes
admit, is made. -/
theorem settle_admitted (rowsOf : session.RowsOf keyOf rows store)
    (nodup : (rows.map fun row => row session.crud.derived.primaryKey.column).Nodup)
    (admitted : UniqueIndexes session.crud.codec store) (table : session.crud.Content)
    (count : Nat) :
    ∃ after, session.settle table (session.crud.replaced count rows) = (.changed count, after) ∧
      session.Represents keyOf after store := by
  have present : ∀ row ∈ rows,
      Sql.Scalar.isNull (row session.crud.derived.primaryKey.column) = false := by
    intro row member
    obtain ⟨record, stored, rfl⟩ := (rowsOf.row_iff row).mp member
    exact key_present formed presence (rowsOf.sound.proper record stored)
  have accepted : session.crud.accepts rows = true := by
    rw [documented.constraints]
    exact (rowsOf.declaredConstraints_iff formed roundTrip presence
      (List.Nodup.of_map _ nodup)).mpr admitted
  have replaced := replaceRows_admitted nodup present accepted
  refine ⟨⟨rows, nodup, present⟩, ?_, ⟨rowsOf, admitted⟩⟩
  unfold Crud.replaced
  rw [replaced]
  rfl

/-- A change is refused when two rows have one key, or when the unique indexes do not
admit what the rows stand for. -/
theorem settle_refused
    (conflict : ¬ (rows.map fun row => row session.crud.derived.primaryKey.column).Nodup ∨
      session.RowsOf keyOf rows store ∧ ¬ UniqueIndexes session.crud.codec store)
    (table : session.crud.Content) (count : Nat) :
    session.settle table (session.crud.replaced count rows) =
      (.refused Storage.constraintViolation, table) := by
  have refused : (Sql.Table.replaceRows session.crud.accepts rows :
      Except Sql.Failure session.crud.Content) = .error .constraint := by
    apply replaceRows_refused
    by_cases nodup : (rows.map fun row => row session.crud.derived.primaryKey.column).Nodup
    · rcases conflict with twice | ⟨rowsOf, rejected⟩
      · exact absurd nodup twice
      · right
        rw [documented.constraints, Bool.eq_false_iff]
        exact fun accepted => rejected ((rowsOf.declaredConstraints_iff formed roundTrip
          presence (List.Nodup.of_map _ nodup)).mp accepted)
    · exact Or.inl nodup
  unfold Crud.replaced
  rw [refused]
  rfl

variable [Sql.ExactEquality (Value R)] [DecidableEq V]
variable (reads : ∀ record : Record session.crud.derived V, record.key = some (keyOf record))
variable {table : session.crud.Content}

include reads

omit [Sql.ExactEquality (Value R)] in
theorem insert_step (represents : session.Represents keyOf table store)
    {record : Record session.crud.derived V} (encodes : record.Encodes session.crud.codec) :
    ∃ answer next, StoreStep (session.rules keyOf) store (.insert record) answer next ∧
      (session.settle table (session.crud.insert record table)).1 =
        answer.map Record.values ∧
      session.Represents keyOf
        (session.settle table (session.crud.insert record table)).2 next := by
  have ownCell := toValue_keyOf formed reads encodes
  have viewed := represents.view_eq formed reads roundTrip ownCell
  rw [session.crud.insert_eq documented.binds formed encodes table]
  cases stored : store (keyOf record) with
  | some other =>
      have twice : ¬ ((table.rows ++ [record.row session.crud.codec]).map fun row =>
          row session.crud.derived.primaryKey.column).Nodup := by
        rw [stored, Option.map_some, Sql.Table.view_eq_some_iff] at viewed
        rw [List.map_append, List.nodup_append]
        rintro ⟨-, -, apart⟩
        exact apart _ (List.mem_map_of_mem viewed.1) _ (by simp) viewed.2
      have refused := @settle_refused _ _ _ _ _ _ keyOf _ store formed roundTrip
        presence documented (Or.inl twice) table 1
      rw [refused]
      exact ⟨_, store, .insertRefused (Or.inl (by simp [rules, stored])), rfl, represents⟩
  | none =>
      rw [stored, Option.map_none, Sql.Table.view_eq_none_iff] at viewed
      have nodup : ((table.rows ++ [record.row session.crud.codec]).map fun row =>
          row session.crud.derived.primaryKey.column).Nodup := by
        rw [List.map_append, List.nodup_append]
        refine ⟨table.keys_nodup, List.nodup_singleton _, ?_⟩
        intro cell member other isOwn same
        obtain ⟨row, inTable, rfl⟩ := List.mem_map.mp member
        obtain rfl := List.mem_singleton.mp isOwn
        exact viewed row inTable same
      have rowsOf : session.RowsOf keyOf (table.rows ++ [record.row session.crud.codec])
          ((session.rules keyOf).put store record) := by
        apply represents.toRowsOf.put formed reads roundTrip encodes
        intro row
        rw [List.mem_append, List.mem_singleton, or_comm]
        exact or_congr_right ⟨fun member => ⟨member, viewed row member⟩, And.left⟩
      by_cases admitted : UniqueIndexes session.crud.codec
          ((session.rules keyOf).put store record)
      · obtain ⟨after, settled, stands⟩ := settle_admitted formed roundTrip presence documented
          rowsOf nodup admitted table 1
        rw [settled]
        exact ⟨_, _, .inserted stored admitted, rfl, stands⟩
      · have refused := settle_refused formed roundTrip presence documented
          (Or.inr ⟨rowsOf, admitted⟩) table 1
        rw [refused]
        exact ⟨_, store, .insertRefused (Or.inr admitted), rfl, represents⟩

theorem update_step (represents : session.Represents keyOf table store)
    {record : Record session.crud.derived V} (encodes : record.Encodes session.crud.codec) :
    ∃ answer next, StoreStep (session.rules keyOf) store (.update record) answer next ∧
      (session.settle table (session.crud.update record table)).1 =
        answer.map Record.values ∧
      session.Represents keyOf
        (session.settle table (session.crud.update record table)).2 next := by
  have ownCell := toValue_keyOf formed reads encodes
  have viewed := represents.view_eq formed reads roundTrip ownCell
  have records : ∀ row ∈ table.rows, ∃ old : Record session.crud.derived V,
      old.row session.crud.codec = row := by
    intro row member
    obtain ⟨old, -, same⟩ := (represents.row_iff row).mp member
    exact ⟨old, same⟩
  rw [session.crud.update_eq documented.binds formed encodes records]
  have sameKeys := map_replaceKey (fun row : Sql.Row (Value R) =>
    row session.crud.derived.primaryKey.column) (record.row session.crud.codec) table.rows
  have nodup := sameKeys ▸ table.keys_nodup
  cases stored : store (keyOf record) with
  | none =>
      rw [stored, Option.map_none] at viewed
      rw [replaceKey_of_absent (Sql.Table.view_eq_none_iff.mp viewed), viewed]
      obtain ⟨after, settled, stands⟩ := settle_admitted formed roundTrip presence documented
        represents.toRowsOf table.keys_nodup represents.admitted table 0
      rw [Option.isSome_none, if_neg Bool.false_ne_true, settled]
      exact ⟨_, _, .updateMissed stored, rfl, stands⟩
  | some old =>
      rw [stored, Option.map_some] at viewed
      obtain ⟨oldMember, oldKey⟩ := Sql.Table.view_eq_some_iff.mp viewed
      have isStored : store ((session.rules keyOf).keyOf record) ≠ none := by
        simp [rules, stored]
      have rowsOf : session.RowsOf keyOf (table.rows.map fun row =>
          if row session.crud.derived.primaryKey.column =
              record.row session.crud.codec session.crud.derived.primaryKey.column
            then record.row session.crud.codec else row)
          ((session.rules keyOf).put store record) := by
        apply represents.toRowsOf.put formed reads roundTrip encodes
        exact mem_replaceKey_iff oldMember oldKey
      rw [viewed, Option.isSome_some, if_pos rfl]
      by_cases admitted : UniqueIndexes session.crud.codec
          ((session.rules keyOf).put store record)
      · obtain ⟨after, settled, stands⟩ := settle_admitted formed roundTrip presence documented
          rowsOf nodup admitted table 1
        rw [settled]
        exact ⟨_, _, .updated isStored admitted, rfl, stands⟩
      · have refused := settle_refused formed roundTrip presence documented
          (Or.inr ⟨rowsOf, admitted⟩) table 1
        rw [refused]
        exact ⟨_, store, .updateRefused isStored admitted, rfl, represents⟩

theorem delete_step (represents : session.Represents keyOf table store) {key : V}
    {keyCell : Value R}
    (encoded : (session.crud.codec session.crud.derived.primaryKey).toValue key =
      .ok keyCell) :
    ∃ answer next, StoreStep (session.rules keyOf) store (.delete key) answer next ∧
      (session.settle table (session.crud.delete key table)).1 = answer.map Record.values ∧
      session.Represents keyOf
        (session.settle table (session.crud.delete key table)).2 next := by
  have viewed := represents.view_eq formed reads roundTrip encoded
  have rowsOf := represents.toRowsOf.remove formed reads roundTrip encoded
  have nodup : ((table.rows.filter fun row =>
      row session.crud.derived.primaryKey.column ≠ keyCell).map fun row =>
        row session.crud.derived.primaryKey.column).Nodup :=
    table.keys_nodup.sublist (List.filter_sublist.map _)
  have admitted : UniqueIndexes session.crud.codec (store.remove key) := by
    intro index declared unique left leftMember right rightMember different
    exact represents.admitted index declared unique
      left (represents.sound.mem_remove.mp leftMember).1
      right (represents.sound.mem_remove.mp rightMember).1 different
  rw [session.crud.delete_eq documented.binds formed encoded table, viewed]
  cases stored : store key with
  | none =>
      obtain ⟨after, settled, stands⟩ := settle_admitted formed roundTrip presence documented
        rowsOf nodup admitted table 0
      rw [Store.remove_of_none stored] at stands
      rw [Option.map_none, Option.isSome_none, if_neg Bool.false_ne_true, settled]
      exact ⟨_, store, .deleteMissed stored, rfl, stands⟩
  | some record =>
      obtain ⟨after, settled, stands⟩ := settle_admitted formed roundTrip presence documented
        rowsOf nodup admitted table 1
      rw [Option.map_some, Option.isSome_some, if_pos rfl, settled]
      exact ⟨_, _, .deleted (by simp [stored]), rfl, stands⟩

end Changes

/-! ## Reads -/

section Reads

variable (formed : session.crud.derived.WellFormed host)
variable (roundTrip : RoundTrips session.crud.codec) (documented : session.Documented)
variable {table : session.crud.Content}

/-- The engine compares all columns alike. -/
theorem Documented.collation_eq (documented : session.Documented) :
    ∃ preorder, session.engine.collation = Sql.scalarCollation preorder := by
  have compares := documented.compares
  revert compares
  cases session.engine.collation with
  | mk compare preorder =>
      intro compares
      obtain rfl : compare = fun _ => Sql.Scalar.order := funext compares
      exact ⟨preorder "", rfl⟩

/-- Values that the wrapper stores are all bound. -/
theorem bindSlots_ok (documented : session.Documented) (values : List (Value R)) :
    Storage.bindSlots session.crud.rawBindParameter 0 values [] = .ok values := by
  rcases Storage.bindSlots_cases session.crud.rawBindParameter values 0 [] with
    bound | ⟨index, value, failure, refuses, -⟩
  · exact bound
  · rw [documented.binds] at refuses
    cases refuses

omit [DecidableEq R] in
theorem selects_scalarCollation (preorder : Std.TransCmp (@Sql.Scalar.order (Value R) _))
    (predicate : Option (PredicateNode R)) (row : Sql.Row (Value R)) :
    (Sql.scalarCollation preorder).selects (boundFilter predicate) row = true ↔
      selectedBy predicate row := by
  rw [Sql.scalarCollation_selects]
  exact selects_boundFilter predicate row

include formed roundTrip

/-- A get decodes the record that the store has under the key. -/
theorem get_step [Sql.ExactEquality (Value R)] (documented : session.Documented)
    (reads : ∀ record : Record session.crud.derived V, record.key = some (keyOf record))
    (represents : session.Represents keyOf table store) {key : V} {keyCell : Value R}
    (encoded : (session.crud.codec session.crud.derived.primaryKey).toValue key =
      .ok keyCell) :
    session.crud.get key table = .ok ((store key).map Record.values) := by
  have viewed := represents.view_eq formed reads roundTrip encoded
  obtain ⟨statement, prepared, queried⟩ :=
    Crud.queryRows_key formed (documented.binds 1 keyCell) table
  simp only [Crud.get, encoded, ok_bind, prepared, queried, viewed]
  cases stored : store key with
  | none => rfl
  | some record =>
      have decoded := fromRow_row formed roundTrip
        (represents.sound.proper record ⟨key, stored⟩)
      simp only [Option.map_some, Option.toList_some, List.map_cons, List.map_nil, decoded,
        ok_bind]

/-- The rows with which the engine answers a query are those of a listing of the store. -/
theorem lists_of_answers (documented : session.Documented)
    (rowsOf : session.RowsOf keyOf rows store) (nodup : rows.Nodup)
    {predicate : Option (PredicateNode R)} {order : List QueryOrder} {limit : Nat}
    {answer : List (Sql.Row (Value R))}
    (answers : session.engine.collation.Answers (boundFilter predicate)
      ((effectiveOrder session.crud.derived.primaryKey.schema order).map QueryOrder.orderTerm)
      limit rows answer) :
    ∃ records : List (Record session.crud.derived V),
      answer = records.map (Record.row session.crud.codec) ∧
        (∀ record ∈ records, record ∈ store.records) ∧
        Lists store (session.selection predicate) (session.arrangement order) limit records := by
  obtain ⟨preorder, sameCollation⟩ := documented.collation_eq
  rw [sameCollation] at answers
  obtain ⟨arranged, perm, sorted, rfl⟩ := answers
  have selects := selects_scalarCollation preorder predicate
  have stored : ∀ row ∈ arranged, ∃ record,
      record ∈ store.records ∧ record.row session.crud.codec = row := by
    intro row member
    exact (rowsOf.row_iff row).mp (List.mem_filter.mp (perm.mem_iff.mp member)).1
  obtain ⟨records, rfl, fromStore⟩ := exists_map_eq stored
  have recordsNodup : records.Nodup :=
    List.Nodup.of_map _ (perm.nodup_iff.mpr (nodup.filter _))
  refine ⟨records.take limit, (List.map_take ..).symm, ?_, records, recordsNodup, ?_, ?_, rfl⟩
  · intro record member
    exact fromStore record (List.mem_of_mem_take member)
  · intro record
    constructor
    · intro member
      have inRows := perm.mem_iff.mp (List.mem_map_of_mem member)
      exact ⟨fromStore record member, (selects _).mp (List.mem_filter.mp inRows).2⟩
    · rintro ⟨isStored, isSelected⟩
      have inRows : record.row session.crud.codec ∈
          rows.filter ((Sql.scalarCollation preorder).selects (boundFilter predicate)) :=
        List.mem_filter.mpr ⟨(rowsOf.row_iff _).mpr ⟨record, isStored, rfl⟩,
          (selects _).mpr isSelected⟩
      obtain ⟨other, inRecords, sameRow⟩ := List.mem_map.mp (perm.mem_iff.mpr inRows)
      have same := roundTrip.row_injective formed
        (rowsOf.sound.proper other (fromStore other inRecords))
        (rowsOf.sound.proper record isStored) sameRow
      rwa [← same]
  · rw [List.pairwise_map] at sorted
    apply sorted.imp
    intro left right first
    rwa [Sql.scalarCollation_precedes] at first

/-- A query is answered with a listing of the store. -/
theorem query_step [RealCarrier R] (documented : session.Documented)
    (represents : session.Represents keyOf table store) {draft : QueryDraft R}
    {limit : UInt32} {query : CollectionQuery R}
    (ok : draft.take session.crud.derived.schema limit = .ok query) :
    ∃ records, Lists store (session.selection draft.predicate)
        (session.arrangement draft.order) limit.toNat records ∧
      (session.executor (session.connection table)).queryCollection
        session.crud.rawBindParameter (fromRow session.crud.codec session.crud.derived) query =
          .ok (records.map Record.values) := by
  obtain ⟨primaryKey, -, -, -, -, prepared⟩ := compileQuery_reads ok
  have known : (session.connection table).tables session.crud.derived.schema.table =
      some table.rows := if_pos rfl
  obtain ⟨answer, selected, answers⟩ := select_take ok (schema_primaryKey formed) prepared
    (session.connection table) known
  obtain ⟨records, rfl, fromStore, lists⟩ := lists_of_answers formed roundTrip documented
    represents.toRowsOf (List.Nodup.of_map _ table.keys_nodup) answers
  refine ⟨records, lists, ?_⟩
  rw [queryCollection_eq session.crud.rawBindParameter _ prepared rfl
    (session.executor_connection _), bindSlots_ok documented, ok_bind, selected, ok_bind,
    List.mapM_map]
  apply mapM_eq_map
  intro record member
  rw [Function.comp_apply, resultCells, columns_schema]
  exact fromRow_row formed roundTrip (represents.sound.proper record (fromStore record member))

omit formed roundTrip in
/-- An existence query tells whether a record of the store is selected. -/
theorem exists_step [RealCarrier R] (documented : session.Documented)
    (represents : session.Represents keyOf table store) {draft : QueryDraft R}
    {query : CollectionExistsQuery R}
    (ok : draft.exists session.crud.derived.schema = .ok query) :
    ∃ holds, (holds = true ↔
        ∃ record ∈ store.records, record ∈ session.selection draft.predicate) ∧
      (session.executor (session.connection table)).collectionExists
        session.crud.rawBindParameter query = .ok holds := by
  obtain ⟨-, -, -, prepared⟩ := compileExistsQuery_reads ok
  have known : (session.connection table).tables session.crud.derived.schema.table =
      some table.rows := if_pos rfl
  obtain ⟨answer, selected, answers⟩ := select_exists ok prepared (session.connection table)
    known
  refine ⟨answer.head?.isSome, ?_, ?_⟩
  · obtain ⟨preorder, sameCollation⟩ := documented.collation_eq
    change session.engine.collation.Answers _ _ _ _ _ at answers
    rw [sameCollation] at answers
    have selects := selects_scalarCollation preorder draft.predicate
    rw [List.isSome_head?, answers.ne_nil_iff Nat.one_pos]
    constructor
    · rintro ⟨row, member, isSelected⟩
      obtain ⟨record, stored, rfl⟩ := (represents.row_iff row).mp member
      exact ⟨record, stored, (selects _).mp isSelected⟩
    · rintro ⟨record, stored, isSelected⟩
      exact ⟨_, (represents.row_iff _).mpr ⟨record, stored, rfl⟩, (selects _).mpr isSelected⟩
  · rw [collectionExists_eq session.crud.rawBindParameter prepared rfl
      (session.executor_connection _), bindSlots_ok documented, ok_bind, selected, ok_bind]

end Reads

/-! ## Runs -/

variable [RealCarrier R] [DecidableEq V] [Sql.ExactEquality (Value R)]

omit [DecidableEq V] [Sql.ExactEquality (Value R)] in
/-- A command that fails before it reaches the store fails alike on the table. -/
theorem execute_failed {table : session.crud.Content}
    {command : CollectionCommand session.crud.derived R V} {failure : Error}
    (failed : session.request command = .error failure) :
    session.execute table command = (.refused failure, table) := by
  cases command with
  | insert record =>
      cases encoded : record.cells session.crud.codec with
      | ok cells => simp [request, encoded, Except.map] at failed
      | error other =>
          obtain rfl : other = failure := by simpa [request, encoded, Except.map] using failed
          simp [execute, Crud.insert, encoded, settle]
  | get key =>
      cases encoded : (session.crud.codec session.crud.derived.primaryKey).toValue key with
      | ok cell => simp [request, encoded, Except.map] at failed
      | error other =>
          obtain rfl : other = failure := by simpa [request, encoded, Except.map] using failed
          simp [execute, Crud.get, encoded, answer]
  | update record =>
      cases encoded : record.cells session.crud.codec with
      | ok cells => simp [request, encoded, Except.map] at failed
      | error other =>
          obtain rfl : other = failure := by simpa [request, encoded, Except.map] using failed
          simp [execute, Crud.update, updateValues, encoded, settle]
  | delete key =>
      cases encoded : (session.crud.codec session.crud.derived.primaryKey).toValue key with
      | ok cell => simp [request, encoded, Except.map] at failed
      | error other =>
          obtain rfl : other = failure := by simpa [request, encoded, Except.map] using failed
          simp [execute, Crud.delete, encoded, settle]
  | query draft limit =>
      cases compiled : draft.take session.crud.derived.schema limit with
      | ok query => simp [request, compiled, Except.map] at failed
      | error other =>
          obtain rfl : other = failure := by simpa [request, compiled, Except.map] using failed
          simp [execute, compiled, answer]
  | «exists» draft =>
      cases compiled : draft.exists session.crud.derived.schema with
      | ok query => simp [request, compiled, Except.map] at failed
      | error other =>
          obtain rfl : other = failure := by simpa [request, compiled, Except.map] using failed
          simp [execute, compiled, answer]

/-- A command that reaches the store is answered as the store answers it. -/
theorem execute_step (formed : session.crud.derived.WellFormed host)
    (roundTrip : RoundTrips session.crud.codec)
    (presence : KeepsPresence session.crud.codec) (documented : session.Documented)
    (reads : ∀ record : Record session.crud.derived V, record.key = some (keyOf record))
    {table : session.crud.Content} (represents : session.Represents keyOf table store)
    {command : CollectionCommand session.crud.derived R V}
    {call : StoreRequest V (Record session.crud.derived V)}
    (called : session.request command = .ok call) :
    ∃ answer next, StoreStep (session.rules keyOf) store call answer next ∧
      (session.execute table command).1 = answer.map Record.values ∧
      session.Represents keyOf (session.execute table command).2 next := by
  cases command with
  | insert record =>
      obtain ⟨cells, encoded, rfl⟩ := map_eq_ok_iff.mp called
      exact insert_step formed roundTrip presence documented reads represents ⟨cells, encoded⟩
  | get key =>
      obtain ⟨keyCell, encoded, rfl⟩ := map_eq_ok_iff.mp called
      refine ⟨_, store, .got key, ?_, represents⟩
      simp only [execute, get_step formed roundTrip documented reads represents encoded, answer,
        StoreAnswer.map]
  | update record =>
      obtain ⟨cells, encoded, rfl⟩ := map_eq_ok_iff.mp called
      exact update_step formed roundTrip presence documented reads represents ⟨cells, encoded⟩
  | delete key =>
      obtain ⟨keyCell, encoded, rfl⟩ := map_eq_ok_iff.mp called
      exact delete_step formed roundTrip presence documented reads represents encoded
  | query draft limit =>
      obtain ⟨query, compiled, rfl⟩ := map_eq_ok_iff.mp called
      obtain ⟨records, lists, answered⟩ :=
        query_step formed roundTrip documented represents compiled
      refine ⟨_, store, .listed lists, ?_, represents⟩
      simp only [execute, compiled, ok_bind, answered, answer, StoreAnswer.map]
  | «exists» draft =>
      obtain ⟨query, compiled, rfl⟩ := map_eq_ok_iff.mp called
      obtain ⟨holds, agrees, answered⟩ := exists_step documented represents compiled
      refine ⟨_, store, .asked agrees, ?_, represents⟩
      simp only [execute, compiled, ok_bind, answered, answer, StoreAnswer.map]

omit [DecidableEq V] in
/-- The order of a compiled query leaves two records with different keys no choice. -/
theorem arrangement_decides (formed : session.crud.derived.WellFormed host)
    (roundTrip : RoundTrips session.crud.codec)
    (reads : ∀ record : Record session.crud.derived V, record.key = some (keyOf record))
    (documented : session.Documented) {draft : QueryDraft R} {limit : UInt32}
    {query : CollectionQuery R}
    (ok : draft.take session.crud.derived.schema limit = .ok query)
    {left right : Record session.crud.derived V} (leftEncodes : left.Encodes session.crud.codec)
    (rightEncodes : right.Encodes session.crud.codec)
    (leftFirst : session.arrangement draft.order left right)
    (rightFirst : session.arrangement draft.order right left) : keyOf left = keyOf right := by
  obtain ⟨preorder, -⟩ := documented.collation_eq
  obtain ⟨-, -, -, -, -, -, fields⟩ := compileQuery_spec ok
  obtain ⟨-, keyNamed⟩ := effectiveOrder_columns formed.schema_wellFormed
    (schema_primaryKey formed) (compileQuery_order ok) fields
  unfold arrangement at leftFirst rightFirst
  rw [← @Sql.scalarCollation_precedes _ _ preorder] at leftFirst rightFirst
  have equal := Sql.Collation.compare_eq_of_precedes leftFirst rightFirst keyNamed
  have sameCells := (Sql.ExactEquality.order_eq_iff _ _).mp equal
  exact (row_key_eq_iff formed reads roundTrip leftEncodes
    (toValue_keyOf formed reads rightEncodes)).mp sameCells

omit [DecidableEq V] in
/-- What a command asks of the store has one answer. -/
theorem request_decided (formed : session.crud.derived.WellFormed host)
    (roundTrip : RoundTrips session.crud.codec)
    (reads : ∀ record : Record session.crud.derived V, record.key = some (keyOf record))
    (documented : session.Documented)
    {command : CollectionCommand session.crud.derived R V}
    {call : StoreRequest V (Record session.crud.derived V)}
    (called : session.request command = .ok call) :
    call.Decided keyOf { record | record.Encodes session.crud.codec } := by
  cases command with
  | insert record | update record =>
      obtain ⟨cells, encoded, rfl⟩ := map_eq_ok_iff.mp called
      exact ⟨cells, encoded⟩
  | get key | delete key =>
      obtain ⟨keyCell, -, rfl⟩ := map_eq_ok_iff.mp called
      trivial
  | query draft limit =>
      obtain ⟨query, compiled, rfl⟩ := map_eq_ok_iff.mp called
      intro left leftEncodes right rightEncodes leftFirst rightFirst
      exact arrangement_decides formed roundTrip reads documented compiled leftEncodes
        rightEncodes leftFirst rightFirst
  | «exists» draft =>
      obtain ⟨query, -, rfl⟩ := map_eq_ok_iff.mp called
      trivial

/-- A session on a typed collection refines a store of records.  Started on a table that
stands for a store, as the empty table does, every run of inserts, updates, deletes, gets
and queries is answered as the store answers it, refusals included, and leaves a table that
stands for what the store has become.  The store itself leaves no choice. -/
theorem session_refines_record_store (host : MacroHost) (input : DeriveInput)
    (session : CollectionSession R V)
    (expanded : expandCollection host input = .ok session.crud.derived)
    (roundTrip : RoundTrips session.crud.codec)
    (presence : KeepsPresence session.crud.codec) (documented : session.Documented) :
    ∃ keyOf, (∀ record : Record session.crud.derived V, record.key = some (keyOf record)) ∧
      session.Represents keyOf ⟨[], by simp, by simp⟩ (fun _ => none) ∧
      ∀ table store, session.Represents keyOf table store →
        ∀ commands : List (CollectionCommand session.crud.derived R V),
          ∃ answers last,
            StoreRun (session.rules keyOf) store (commands.map session.request) answers last ∧
            (∀ replies other, StoreRun (session.rules keyOf) store
              (commands.map session.request) replies other →
                replies = answers ∧ other = last) ∧
            (answerAll session.execute table commands).1 =
              answers.map (StoreAnswer.map Record.values) ∧
            session.Represents keyOf (answerAll session.execute table commands).2 last := by
  have formed := expandCollection_wellFormed expanded
  choose keyOf reads using fun record : Record session.crud.derived V =>
    Crud.exists_key formed record
  refine ⟨keyOf, reads, ?_, ?_⟩
  · exact empty_represents session keyOf
  · intro table store represents commands
    obtain ⟨answers, last, run, answered, stands⟩ := @StoreRun.simulated
      _ _ _ _ (session.rules keyOf) _ _ _ Record.values _ _ _
      (fun _ _ _ _ _ failed => execute_failed failed)
      (fun _ _ _ _ represents called =>
        execute_step formed roundTrip presence documented reads represents called)
      _ _ represents commands
    refine ⟨answers, last, run, ?_, answered, stands⟩
    intro replies other otherRun
    apply StoreRun.unique represents.sound ?_ otherRun run
    intro call member
    obtain ⟨command, -, called⟩ := List.mem_map.mp member
    exact request_decided formed roundTrip reads documented called

/-! ## A session -/

/-- Where a value stands: first by its storage class, then by what it holds. -/
def classCode : Value Int → List Int
  | .null => [0]
  | .integer value => [1, value.toInt]
  | .real value => [2, value]
  | .text value => 3 :: value.toList.map fun character => (character.toNat : Int)
  | .blob value => 4 :: value.map fun byte => (byte.toNat : Int)

theorem classCode_injective : Function.Injective classCode := by
  intro left right same
  cases left <;> cases right <;> simp [classCode] at same ⊢
  case integer.integer => exact Int64.toInt_inj.mp same
  case real.real => exact same
  case text.text left right =>
    have sameCharacters := List.map_injective_iff.mpr
      (fun one two equal => Char.toNat_inj.mp (Int.ofNat.inj equal)) same
    exact String.toList_inj.mp sameCharacters
  case blob.blob left right =>
    exact List.map_injective_iff.mpr
      (fun one two equal => UInt8.toNat_inj.mp (Int.ofNat.inj equal)) same

instance classOrder : EngineOrder Int where
  order := compareOn classCode

theorem compareOn_classCode : Std.TransCmp (compareOn classCode) := inferInstance

instance classCarrier : RealCarrier Int where
  isFinite := fun _ => true

instance classExact : Sql.ExactEquality (Value Int) where
  order_eq_iff := by
    intro left right
    show compare (classCode left) (classCode right) = .eq ↔ left = right
    rw [Std.LawfulEqCmp.compare_eq_iff_eq, classCode_injective.eq_iff]

/-- Memories with an optional score, which no two of them share. -/
def scoredInput : DeriveInput where
  hasGenerics := false
  metas :=
    [.collection "agent.memory", .table "memory", .version 1,
     .index [.id "by-score", .name "memory_by_score", .field "score", .unique]]
  data := .namedStruct
    [{ rustName := "score", ty := .generic false "Option" (.path false "i64"),
       metas := [.id "score", .column "score"] },
     { rustName := "id", ty := .path false "i64",
       metas := [.id "id", .column "id", .primaryKey] }]

/-- Integers, absent where the field is optional. -/
def scoredCodec (field : DerivedField) : FieldCodec (Option Int64) (Value Int) where
  toValue
    | some value => .ok (.integer value)
    | none => if field.nullable then .ok .null else .error Storage.invalidSql
  fromValue
    | .integer value => .ok (some value)
    | .null => .ok none
    | _ => .error Storage.invalidSql

theorem scoredCodec_roundTrips : RoundTrips scoredCodec := by
  intro field value cell encoded
  cases value with
  | some value =>
      obtain rfl := Except.ok.inj encoded
      rfl
  | none =>
      change (if field.nullable then Except.ok Value.null else .error Storage.invalidSql) = _
        at encoded
      split at encoded
      · obtain rfl := Except.ok.inj encoded
        rfl
      · cases encoded

theorem scoredCodec_keepsPresence : KeepsPresence scoredCodec := by
  intro field value cell encoded isNull
  cases value with
  | some value =>
      obtain rfl := Except.ok.inj encoded
      cases isNull
  | none =>
      change (if field.nullable then Except.ok Value.null else .error Storage.invalidSql) = _
        at encoded
      split at encoded
      case isTrue optional => exact optional
      case isFalse => cases encoded

theorem noneCompiled : ∀ entry ∈ ([] : List (String × Sql.Prepared)),
    Sql.prepare entry.1 = some entry.2 :=
  List.forall_mem_nil _

def scoredSession (derived : DerivedCollection) : CollectionSession Int (Option Int64) where
  crud :=
    { derived := derived
      codec := scoredCodec
      rawBindParameter := fun _ _ => .ok ()
      accepts := declaredConstraints derived }
  engine := Sql.sortingEngine (Sql.scalarCollation compareOn_classCode) rowCount
  cache := { entries := [], compiled := noneCompiled }
  executor := .database
  executor_connection := fun _ => rfl

theorem scored_session_refines_record_store :
    ∃ derived, expandCollection Crud.plainHost scoredInput = .ok derived ∧
      ∀ commands : List (CollectionCommand derived Int (Option Int64)),
        ∃ keyOf answers last,
          StoreRun ((scoredSession derived).rules keyOf) (fun _ => none)
            (commands.map (scoredSession derived).request) answers last ∧
          (answerAll (scoredSession derived).execute ⟨[], by simp, by simp⟩ commands).1 =
            answers.map (StoreAnswer.map Record.values) := by
  obtain ⟨derived, expanded⟩ : ∃ derived,
      expandCollection Crud.plainHost scoredInput = .ok derived := ⟨_, rfl⟩
  refine ⟨derived, expanded, fun commands => ?_⟩
  obtain ⟨keyOf, -, empty, runs⟩ := session_refines_record_store Crud.plainHost scoredInput
    (scoredSession derived) expanded scoredCodec_roundTrips scoredCodec_keepsPresence
    ⟨fun _ _ => rfl, rfl, fun _ => rfl⟩
  obtain ⟨answers, last, run, -, answered, -⟩ := runs _ _ empty commands
  exact ⟨keyOf, answers, last, run, answered⟩

end CollectionSession

end Csgdb
