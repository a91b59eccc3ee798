/-
Module: Csgdb.Proofs.BoundedQueries
Purpose: Finalized queries as their callers rely on them: values never reach the
  text, results are reproducible and page by page prefixes of each other, and an
  existence query agrees with the bounded query of the same draft.
Trusted boundary: none
Main exports: compileWhere_alike, effectiveOrder_columns, select_take,
  bound_data_never_reaches_the_text, bounded_queries_are_deterministic,
  exists_agrees_with_take
-/
import Csgdb.Proofs.QueryMeaning
import Csgdb.Query.Execute

namespace Csgdb.Query

open Foundation

variable {R : Type}

/-! ## Values and the text -/

/-- The same predicate tree up to the compared values, with `NULL` in the same
places. -/
inductive PredicateNode.SameShape : PredicateNode R → PredicateNode R → Prop
  | compare (field : FieldSchema) (comparison : Comparison) {left right : Value R}
      (sameNull : left.isNull = right.isNull) :
      SameShape (.compare field comparison left) (.compare field comparison right)
  | null (field : FieldSchema) (comparison : NullComparison) :
      SameShape (.null field comparison) (.null field comparison)
  | and {left right otherLeft otherRight : PredicateNode R}
      (first : SameShape left otherLeft) (second : SameShape right otherRight) :
      SameShape (.and left right) (.and otherLeft otherRight)
  | or {left right otherLeft otherRight : PredicateNode R}
      (first : SameShape left otherLeft) (second : SameShape right otherRight) :
      SameShape (.or left right) (.or otherLeft otherRight)
  | not {inner other : PredicateNode R} (same : SameShape inner other) :
      SameShape (.not inner) (.not other)

/-- Drafts that differ in their compared values only. -/
structure QueryDraft.SameShape (first second : QueryDraft R) : Prop where
  predicate : Option.Rel PredicateNode.SameShape first.predicate second.predicate
  order : first.order = second.order

theorem nullTest_congr (comparison : Comparison) {left right : Value R}
    (sameNull : left.isNull = right.isNull) :
    nullTest comparison left = nullTest comparison right := by
  unfold nullTest
  rw [sameNull]

/-- The text of a predicate is decided by its shape, and so is the number of its
values. -/
theorem PredicateNode.SameShape.text_eq {first second : PredicateNode R}
    (same : first.SameShape second) :
    first.text = second.text ∧
      first.boundValues.length = second.boundValues.length := by
  induction same with
  | compare field comparison sameNull =>
      have sameTest := nullTest_congr comparison sameNull
      simp only [PredicateNode.text, PredicateNode.testText, PredicateNode.boundValues,
        sameTest, true_and]
      cases nullTest comparison _ <;> rfl
  | null field comparison => exact ⟨rfl, rfl⟩
  | and _ _ firstSame secondSame
  | or _ _ firstSame secondSame =>
      simp only [PredicateNode.text, PredicateNode.boundValues, List.length_append,
        firstSame, secondSame, and_self]
  | not _ innerSame =>
      simp only [PredicateNode.text, PredicateNode.boundValues, innerSame, and_self]

theorem whereText_congr {first second : Option (PredicateNode R)}
    (same : Option.Rel PredicateNode.SameShape first second) :
    whereText first = whereText second ∧
      (whereValues first).length = (whereValues second).length := by
  cases same with
  | none => exact ⟨rfl, rfl⟩
  | some nodes =>
      obtain ⟨sameText, sameLength⟩ := nodes.text_eq
      exact ⟨congrArg (" WHERE " ++ ·) sameText, sameLength⟩

theorem PredicateNode.SameShape.refl (node : PredicateNode R) : node.SameShape node := by
  induction node with
  | compare field comparison value => exact .compare field comparison rfl
  | null field comparison => exact .null field comparison
  | and left right sameLeft sameRight => exact .and sameLeft sameRight
  | or left right sameLeft sameRight => exact .or sameLeft sameRight
  | not inner sameInner => exact .not sameInner

theorem QueryDraft.SameShape.refl (draft : QueryDraft R) : draft.SameShape draft := by
  constructor
  · cases draft.predicate with
    | none => exact .none
    | some node => exact .some (.refl node)
  · rfl

section Shape

variable [RealCarrier R] {schema : CollectionSchema} {first second : QueryDraft R}

/-- The text of a bounded query is decided by the shape of its draft. -/
theorem QueryDraft.SameShape.take_sql_eq (same : first.SameShape second)
    {limit other : UInt32} {left right : CollectionQuery R}
    (leftOk : first.take schema limit = .ok left)
    (rightOk : second.take schema other = .ok right) :
    left.sql = right.sql ∧ left.values.length = right.values.length := by
  obtain ⟨sameText, sameLength⟩ := whereText_congr same.predicate
  obtain ⟨-, leftKey, isLeft, leftSql, leftValues, -, -⟩ := compileQuery_spec leftOk
  obtain ⟨-, rightKey, isRight, rightSql, rightValues, -, -⟩ := compileQuery_spec rightOk
  rw [isLeft, Option.some.injEq] at isRight
  constructor
  · rw [leftSql, rightSql, sameText, same.order, isRight]
  · rw [leftValues, rightValues, List.length_append, List.length_append, sameLength]
    rfl

theorem QueryDraft.SameShape.exists_sql_eq (same : first.SameShape second)
    {left right : CollectionExistsQuery R} (leftOk : first.exists schema = .ok left)
    (rightOk : second.exists schema = .ok right) :
    left.sql = right.sql ∧ left.values.length = right.values.length := by
  obtain ⟨sameText, sameLength⟩ := whereText_congr same.predicate
  obtain ⟨-, -, leftSql, leftValues, -⟩ := compileExistsQuery_spec leftOk
  obtain ⟨-, -, rightSql, rightValues, -⟩ := compileExistsQuery_spec rightOk
  constructor
  · rw [leftSql, rightSql, sameText]
  · rw [leftValues, rightValues, sameLength]

end Shape

/-- Bound data never reaches the text of a query.  Two drafts of one shape that are both
finalized differ in their bound values, and in their limits, only. -/
theorem bound_data_never_reaches_the_text [RealCarrier R] (schema : CollectionSchema)
    {first second : QueryDraft R} (same : first.SameShape second) :
    (∀ (limit other : UInt32) (left right : CollectionQuery R),
      first.take schema limit = .ok left → second.take schema other = .ok right →
        left = { right with values := left.values, limit := left.limit } ∧
          left.values.length = right.values.length) ∧
    ∀ left right : CollectionExistsQuery R,
      first.exists schema = .ok left → second.exists schema = .ok right →
        left = { right with values := left.values } ∧
          left.values.length = right.values.length := by
  constructor
  · intro limit other left right leftOk rightOk
    obtain ⟨sameSql, sameLength⟩ := same.take_sql_eq leftOk rightOk
    rw [← sameSql]
    exact ⟨rfl, sameLength⟩
  · intro left right leftOk rightOk
    obtain ⟨sameSql, sameLength⟩ := same.exists_sql_eq leftOk rightOk
    rw [← sameSql]
    exact ⟨rfl, sameLength⟩

/-- Reals that are all finite, with values told apart by equality. -/
instance finiteCarrier : RealCarrier Nat where
  isFinite := fun _ => true

instance equalityOrder : EngineOrder Nat where
  order := fun left right => if left = right then .eq else .lt

/-- Equality of the note of the quoting collection with a text. -/
def noteDraft (text : String) : QueryDraft Nat where
  predicate := some (.compare
    { id := "note", column := "a\" = ? OR (\"b", columnType := .text, nullable := true,
      primaryKey := false } .equal (.text text))
  order := []

theorem hostile_text_is_bound :
    ∃ safe hostile : CollectionQuery Nat,
      (noteDraft "safe").take quotingSchema 5 = .ok safe ∧
      (noteDraft "safe\" OR 1=1; DROP TABLE query_memory; --").take quotingSchema 7 =
        .ok hostile ∧
      safe = { hostile with values := safe.values, limit := safe.limit } := by
  have same : (noteDraft "safe").SameShape
      (noteDraft "safe\" OR 1=1; DROP TABLE query_memory; --") :=
    ⟨.some (.compare _ _ rfl), rfl⟩
  refine ⟨_, _, rfl, rfl, ?_⟩
  exact ((bound_data_never_reaches_the_text quotingSchema same).1 5 7 _ _ rfl rfl).1

/-! ## Compilations that end alike -/

section Compiler

variable [RealCarrier R] {first second : CollectionSchema}

omit [RealCarrier R] in
theorem validateField_eq (sameFields : ∀ field, field ∈ first.fields ↔ field ∈ second.fields)
    (field : FieldSchema) : validateField first field = validateField second field := by
  have sameAny : (first.fields.any fun candidate => candidate = field) =
      second.fields.any fun candidate => candidate = field := by
    rw [Bool.eq_iff_iff, List.any_eq_true, List.any_eq_true]
    constructor
    · rintro ⟨candidate, member, same⟩
      exact ⟨candidate, (sameFields candidate).mp member, same⟩
    · rintro ⟨candidate, member, same⟩
      exact ⟨candidate, (sameFields candidate).mpr member, same⟩
  unfold validateField
  rw [sameAny]

omit [RealCarrier R] in
/-- What a compilation carries besides its text. -/
def SameParts (left right : Compilation R) : Prop :=
  left.values = right.values ∧ left.nodes = right.nodes

omit [RealCarrier R] in
theorem enterNode_alike {left right : Compilation R} (same : SameParts left right)
    (depth : Nat) : EndAlike SameParts (enterNode left depth) (enterNode right depth) := by
  unfold enterNode
  rw [same.2]
  cases checkedAdd right.nodes 1 with
  | none => exact .error _
  | some nodes =>
      apply EndAlike.guard
      exact .ok ⟨same.1, rfl⟩

omit [RealCarrier R] in
/-- A conjunction or a disjunction of parts that end alike ends alike. -/
theorem junction_alike
    {one two otherOne otherTwo : Compilation R → Result (Compilation R)}
    (alikeOne : ∀ {left right}, SameParts left right →
      EndAlike SameParts (one left) (otherOne right))
    (alikeTwo : ∀ {left right}, SameParts left right →
      EndAlike SameParts (two left) (otherTwo right))
    (joint : String) {left right : Compilation R} (depth : Nat)
    (same : SameParts left right) :
    EndAlike SameParts
      (do
        let state ← enterNode left depth
        let state ← one { state with sql := state.sql ++ "(" }
        let state ← two { state with sql := state.sql ++ joint }
        .ok { state with sql := state.sql ++ ")" })
      (do
        let state ← enterNode right depth
        let state ← otherOne { state with sql := state.sql ++ "(" }
        let state ← otherTwo { state with sql := state.sql ++ joint }
        .ok { state with sql := state.sql ++ ")" }) := by
  apply (enterNode_alike same depth).bind
  intro left right same
  refine EndAlike.bind (alikeOne same) ?_
  intro left right same
  refine EndAlike.bind (alikeTwo same) ?_
  intro left right same
  exact .ok same

/-- Whether a predicate compiles, and to which values, depends on the set of the
fields only. -/
theorem compilePredicate_alike
    (sameFields : ∀ field, field ∈ first.fields ↔ field ∈ second.fields)
    (node : PredicateNode R) : ∀ {left right : Compilation R} (depth : Nat),
      SameParts left right →
        EndAlike SameParts (compilePredicate first node left depth)
          (compilePredicate second node right depth) := by
  induction node with
  | compare field comparison value =>
      intro left right depth same
      apply (enterNode_alike same depth).bind
      intro left right same
      rw [validateField_eq sameFields]
      apply EndAlike.step
      intro checked
      apply EndAlike.step
      intro checked
      apply EndAlike.step
      intro text
      exact .ok ⟨congrArg (· ++ text.2) same.1, same.2⟩
  | null field comparison =>
      intro left right depth same
      apply (enterNode_alike same depth).bind
      intro left right same
      rw [validateField_eq sameFields]
      apply EndAlike.step
      intro checked
      apply EndAlike.guard
      exact .ok same
  | and one two alikeOne alikeTwo =>
      intro left right depth same
      exact junction_alike (alikeOne (depth + 1)) (alikeTwo (depth + 1)) _ depth same
  | or one two alikeOne alikeTwo =>
      intro left right depth same
      exact junction_alike (alikeOne (depth + 1)) (alikeTwo (depth + 1)) _ depth same
  | not inner alike =>
      intro left right depth same
      apply (enterNode_alike same depth).bind
      intro left right same
      refine EndAlike.bind (alike (depth + 1) same) ?_
      intro left right same
      exact .ok same

theorem compileWhere_alike
    (sameFields : ∀ field, field ∈ first.fields ↔ field ∈ second.fields)
    (predicate : Option (PredicateNode R)) (left right : String) :
    EndAlike (fun one two => one.2 = two.2) (compileWhere first predicate left)
      (compileWhere second predicate right) := by
  cases predicate with
  | none => exact .ok rfl
  | some node =>
      refine EndAlike.bind (compilePredicate_alike sameFields node 1 ⟨rfl, rfl⟩) ?_
      intro one two same
      exact .ok (show one.values = two.values from same.1)

omit [RealCarrier R] in
theorem primaryKey_of_wellFormed {schema : CollectionSchema} (formed : schema.WellFormed) :
    ∃ primaryKey, schema.primaryKey = some primaryKey := by
  have positive : 0 < schema.fields.countP FieldSchema.primaryKey := by
    rw [formed.one_primary_key]
    exact Nat.one_pos
  obtain ⟨field, member, isKey⟩ := List.countP_pos_iff.mp positive
  apply Option.isSome_iff_exists.mp
  exact List.find?_isSome.mpr ⟨field, member, isKey⟩

/-- Without ordering terms both ways of finalizing a draft end alike. -/
theorem exists_alike_take {draft : QueryDraft R} (unordered : draft.order = [])
    (schema : CollectionSchema) {limit : UInt32} (positive : limit ≠ 0)
    (bounded : limit ≤ maxQueryLimit) :
    EndAlike (fun _ _ => True) (draft.exists schema) (draft.take schema limit) := by
  have inBounds : (limit == 0 || decide (limit > maxQueryLimit) ||
      decide (([] : List QueryOrder).length > maxQueryOrderFields)) = false := by
    simp only [beq_eq_false_iff_ne.mpr positive, Bool.false_or, List.length_nil,
      Nat.not_lt_zero, decide_false, Bool.or_false, decide_eq_false_iff_not]
    exact UInt32.not_lt.mpr bounded
  unfold QueryDraft.exists QueryDraft.take compileExistsQuery compileQuery
  rw [unordered, inBounds]
  cases valid : validateCollectionSchema schema with
  | error failure => exact .error _
  | ok checked =>
      obtain ⟨primaryKey, isKey⟩ :=
        primaryKey_of_wellFormed (validateCollectionSchema_ok_iff.mp valid)
      rw [isKey]
      apply (compileWhere_alike (fun _ => Iff.rfl) draft.predicate _ _).bind
      intro _ _ _
      exact .ok trivial

end Compiler

/-! ## The ordering clause -/

section Order

variable [RealCarrier R] {schema : CollectionSchema}

omit [RealCarrier R] in
/-- Accepted ordering terms name no field twice. -/
theorem pushOrders_nodup :
    ∀ {order : List QueryOrder} {index : Nat} {sql written : String}
      {seen collected : List String},
      pushOrders schema index sql seen order = .ok (written, collected) →
        (order.map QueryOrder.fieldId).Nodup ∧
          ∀ term ∈ order, term.fieldId ∉ seen
  | [], _, _, _, _, _, _ => by simp
  | term :: rest, index, sql, written, seen, collected, ok => by
      simp only [pushOrders, bind_eq_ok_iff] at ok
      obtain ⟨⟨⟩, -, pushed⟩ := ok
      obtain ⟨fresh, pushedRest⟩ := ite_error_eq_ok_iff.mp pushed
      obtain ⟨restNodup, restFresh⟩ := pushOrders_nodup pushedRest
      have notSeen : term.fieldId ∉ seen := by simpa using fresh
      constructor
      · rw [List.map_cons, List.nodup_cons]
        refine ⟨?_, restNodup⟩
        rintro repeated
        obtain ⟨other, inRest, sameId⟩ := List.mem_map.mp repeated
        apply restFresh other inRest
        rw [sameId]
        exact List.mem_cons_self
      · intro other member
        rcases List.mem_cons.mp member with rfl | inRest
        · exact notSeen
        · intro inSeen
          exact restFresh other inRest (List.mem_cons_of_mem _ inSeen)

theorem compileQuery_order {predicate : Option (PredicateNode R)}
    {order : List QueryOrder} {limit : UInt32} {query : CollectionQuery R}
    (ok : compileQuery schema predicate order limit = .ok query) :
    (order.map QueryOrder.fieldId).Nodup := by
  unfold compileQuery at ok
  obtain ⟨-, checked⟩ := ite_error_eq_ok_iff.mp ok
  obtain ⟨⟨⟩, -, keyed⟩ := bind_eq_ok_iff.mp checked
  cases key : schema.primaryKey with
  | none => simp [key] at keyed
  | some primaryKey =>
      simp only [key] at keyed
      obtain ⟨⟨written, values⟩, -, pushed⟩ := bind_eq_ok_iff.mp keyed
      obtain ⟨⟨ordered, seen⟩, pushes, -⟩ := bind_eq_ok_iff.mp pushed
      exact (pushOrders_nodup pushes).1

omit [RealCarrier R] in
theorem effectiveOrder_ids {primaryKey : FieldSchema} {order : List QueryOrder}
    (nodup : (order.map QueryOrder.fieldId).Nodup) :
    ((effectiveOrder primaryKey order).map QueryOrder.fieldId).Nodup ∧
      primaryKey.id ∈ (effectiveOrder primaryKey order).map QueryOrder.fieldId := by
  unfold effectiveOrder
  by_cases named : primaryKey.id ∈ order.map QueryOrder.fieldId
  · rw [if_pos named]
    exact ⟨nodup, named⟩
  · rw [if_neg named, List.map_append]
    constructor
    · apply List.nodup_append.mpr
      refine ⟨nodup, List.nodup_singleton _, ?_⟩
      intro id inOrder other isKey same
      rw [List.map_singleton, List.mem_singleton] at isKey
      apply named
      rwa [same, isKey] at inOrder
    · exact List.mem_append_right _ (List.mem_singleton_self _)

omit [RealCarrier R] in
/-- Ordering terms over distinct fields of a schema that name the key by its id order by
distinct columns, the column of the key among them. -/
theorem effectiveOrder_columns (formed : schema.WellFormed) {primaryKey : FieldSchema}
    {order : List QueryOrder} (isKey : schema.primaryKey = some primaryKey)
    (nodup : (order.map QueryOrder.fieldId).Nodup)
    (fields : ∀ term ∈ order, term.field ∈ schema.fields) :
    let columns := ((effectiveOrder primaryKey order).map QueryOrder.orderTerm).map
      Sql.OrderTerm.column
    columns.Nodup ∧ primaryKey.column ∈ columns := by
  have keyMember : primaryKey ∈ schema.fields := List.mem_of_find?_eq_some isKey
  have members := effectiveOrder_mem keyMember fields
  obtain ⟨idsNodup, keyNamed⟩ := @effectiveOrder_ids primaryKey order nodup
  intro columns
  have sameColumns : columns =
      (effectiveOrder primaryKey order).map fun term => term.field.column := by
    simp only [columns, List.map_map]
    rfl
  constructor
  · rw [sameColumns]
    rw [List.Nodup, List.pairwise_map] at idsNodup ⊢
    apply idsNodup.imp_of_mem
    intro left right inLeft inRight differentIds sameColumn
    have sameField : left.field = right.field :=
      List.inj_on_of_nodup_map formed.columns_nodup (members left inLeft)
        (members right inRight) sameColumn
    exact differentIds (congrArg FieldSchema.id sameField)
  · obtain ⟨term, member, sameId⟩ := List.mem_map.mp keyNamed
    have sameField : term.field = primaryKey :=
      List.inj_on_of_nodup_map formed.ids_nodup (members term member) keyMember sameId
    rw [sameColumns]
    exact List.mem_map.mpr ⟨term, member, congrArg FieldSchema.column sameField⟩

end Order

/-! ## What a finalized query selects -/

section Selection

variable [RealCarrier R] [EngineOrder R] {schema : CollectionSchema}
variable {predicate : Option (PredicateNode R)} {order : List QueryOrder} {limit : UInt32}

omit [RealCarrier R] [EngineOrder R] in
theorem rowCount_limit (limit : UInt32) :
    rowCount (.integer (Int64.ofNat limit.toNat) : Value R) = some limit.toNat := by
  have small : limit.toNat < 2 ^ 32 := limit.toNat_lt
  have same : (Int64.ofNat limit.toNat).toInt = limit.toNat := by
    apply Int64.toInt_ofNat_of_lt
    omega
  unfold rowCount
  simp [same]

omit [EngineOrder R] in
/-- The filter and the limit of a compiled query stand for its predicate and for the
limit it was given. -/
theorem compileQuery_binds {query : CollectionQuery R}
    (ok : compileQuery schema predicate order limit = .ok query) :
    (whereFilter predicate).bind query.values = some (boundFilter predicate) ∧
      (Sql.Term.parameter query.values.length).count rowCount query.values =
        some limit.toNat := by
  obtain ⟨-, -, -, -, sameValues, -, -⟩ := compileQuery_spec ok
  constructor
  · rw [sameValues]
    exact bind_whereFilter predicate _
  · have limitBound : Sql.boundValue query.values query.values.length =
        some (.integer (Int64.ofNat limit.toNat)) := by simp [sameValues]
    rw [Sql.Term.count, limitBound, Option.bind_some, rowCount_limit]

omit [EngineOrder R] in
theorem compileExistsQuery_binds {query : CollectionExistsQuery R}
    (ok : compileExistsQuery schema predicate order = .ok query) :
    (whereFilter predicate).bind query.values = some (boundFilter predicate) := by
  obtain ⟨-, -, -, sameValues, -⟩ := compileExistsQuery_spec ok
  rw [sameValues]
  have binds := bind_whereFilter predicate []
  rwa [List.append_nil] at binds

/-- The rows that a compiled query selects from a table are an answer to its predicate,
its order and its limit. -/
theorem select_take {query : CollectionQuery R}
    (ok : compileQuery schema predicate order limit = .ok query) {primaryKey : FieldSchema}
    (isKey : schema.primaryKey = some primaryKey) {prepared : Sql.Prepared}
    (reads : Sql.prepare query.sql = some prepared) (connection : QueryConnection R)
    {content : List (Sql.Row (Value R))}
    (known : connection.tables schema.table = some content) :
    ∃ answer, connection.select query.values prepared = .ok answer ∧
      connection.engine.collation.Answers (boundFilter predicate)
        ((effectiveOrder primaryKey order).map QueryOrder.orderTerm) limit.toNat content
        answer := by
  obtain ⟨key, -, isSameKey, -, -, compiled⟩ := compileQuery_reads ok
  rw [isKey, Option.some.injEq] at isSameKey
  rw [reads, Option.some.injEq] at compiled
  obtain ⟨binds, counts⟩ := compileQuery_binds ok
  obtain ⟨answer, selected, answers⟩ := connection.engine.select_known known binds counts
  refine ⟨answer, ?_, isSameKey ▸ answers⟩
  rw [QueryConnection.select, compiled, selected]
  rfl

/-- The row that a compiled existence query selects, if there is one. -/
theorem select_exists {query : CollectionExistsQuery R}
    (ok : compileExistsQuery schema predicate order = .ok query) {prepared : Sql.Prepared}
    (reads : Sql.prepare query.sql = some prepared) (connection : QueryConnection R)
    {content : List (Sql.Row (Value R))}
    (known : connection.tables schema.table = some content) :
    ∃ answer, connection.select query.values prepared = .ok answer ∧
      connection.engine.collation.Answers (boundFilter predicate) [] 1 content answer := by
  obtain ⟨-, -, -, compiled⟩ := compileExistsQuery_reads ok
  rw [reads, Option.some.injEq] at compiled
  have counts : (Sql.Term.number 1).count rowCount query.values = some 1 := rfl
  obtain ⟨answer, selected, answers⟩ :=
    connection.engine.select_known known (compileExistsQuery_binds ok) counts
  refine ⟨answer, ?_, answers⟩
  rw [QueryConnection.select, compiled, selected]
  rfl

section Executors

omit [RealCarrier R]

variable {connection : QueryConnection R} {prepared : Sql.Prepared} {Record : Type}

/-- What an executor returns depends on the rows that its connection selects. -/
theorem queryCollection_eq (rawBindParameter : Nat → Value R → Result Unit)
    (decode : List (Value R) → Result Record) {query : CollectionQuery R}
    (reads : Sql.prepare query.sql = some prepared)
    (sameCount : prepared.parameterCount = query.values.length)
    {executor : QueryExecutor R} (connected : executor.connection = .ok connection) :
    executor.queryCollection rawBindParameter decode query = (do
      let _ ← Storage.bindSlots rawBindParameter 0 query.values []
      let rows ← connection.select query.values prepared
      rows.mapM fun row => decode (resultCells row prepared.statement)) := by
  have compiles : Storage.prepare query.sql = .ok prepared := by
    rw [Storage.prepare, reads]
  unfold QueryExecutor.queryCollection executeQuery Storage.bindIter
  simp only [connected, ok_bind, QueryExecutor.compile_eq, compiles, sameCount,
    bne_self_eq_false, Bool.false_eq_true, if_false]
  rcases Storage.bindSlots_cases rawBindParameter query.values 0 [] with
    bound | ⟨-, -, failure, -, refused⟩
  · rw [bound]
    rfl
  · rw [refused]
    rfl

theorem collectionExists_eq (rawBindParameter : Nat → Value R → Result Unit)
    {query : CollectionExistsQuery R} (reads : Sql.prepare query.sql = some prepared)
    (sameCount : prepared.parameterCount = query.values.length)
    {executor : QueryExecutor R} (connected : executor.connection = .ok connection) :
    executor.collectionExists rawBindParameter query = (do
      let _ ← Storage.bindSlots rawBindParameter 0 query.values []
      let rows ← connection.select query.values prepared
      .ok rows.head?.isSome) := by
  have compiles : Storage.prepare query.sql = .ok prepared := by
    rw [Storage.prepare, reads]
  unfold QueryExecutor.collectionExists executeExistsQuery Storage.bindIter
  simp only [connected, ok_bind, QueryExecutor.compile_eq, compiles, sameCount,
    bne_self_eq_false, Bool.false_eq_true, if_false]
  rcases Storage.bindSlots_cases rawBindParameter query.values 0 [] with
    bound | ⟨-, -, failure, -, refused⟩
  · rw [bound]
    rfl
  · rw [refused]
    rfl

end Executors

/-- Two connections that see the same rows of a table, each in a physical order of its
own, and compare cells alike. -/
structure SeeSameRows (name key : String) (first second : QueryConnection R) : Prop where
  collation_eq : second.engine.collation = first.engine.collation
  rows : ∃ content other : Sql.KeyedRows first.engine.collation key,
    first.tables name = some content.rows ∧ second.tables name = some other.rows ∧
      content.rows.Perm other.rows

omit [RealCarrier R] in
theorem SeeSameRows.refl {name key : String} {connection : QueryConnection R}
    {content : Sql.KeyedRows connection.engine.collation key}
    (known : connection.tables name = some content.rows) :
    SeeSameRows name key connection connection :=
  ⟨rfl, content, content, known, known, List.Perm.refl _⟩

end Selection

/-- Bounded queries are deterministic.  A finalized query orders by distinct columns, by
the primary key exactly once.  Over every physical order of the rows of its table, however
cells compare, all executors decode the same rows in the same sequence, at most as many as
its limit; and a smaller limit of the same draft selects the beginning of them. -/
theorem bounded_queries_are_deterministic [RealCarrier R] [EngineOrder R]
    (schema : CollectionSchema) (draft : QueryDraft R) (limit : UInt32)
    (query : CollectionQuery R) (ok : draft.take schema limit = .ok query) :
    ∃ primaryKey prepared filter terms, schema.primaryKey = some primaryKey ∧
      Sql.prepare query.sql = some prepared ∧
      prepared.statement = .select (.columns (schema.fields.map FieldSchema.column))
        schema.table filter terms (.parameter query.values.length) ∧
      (terms.map Sql.OrderTerm.column).Nodup ∧
      (terms.map Sql.OrderTerm.column).count primaryKey.column = 1 ∧
      ∀ first second : QueryConnection R,
        SeeSameRows schema.table primaryKey.column first second →
          ∃ rows, rows.length ≤ limit.toNat ∧
            first.select query.values prepared = .ok rows ∧
            second.select query.values prepared = .ok rows ∧
            (∀ (executor : QueryExecutor R) (Record : Type)
              (rawBindParameter : Nat → Value R → Result Unit)
              (decode : List (Value R) → Result Record),
              executor.connection = .ok first ∨ executor.connection = .ok second →
                executor.queryCollection rawBindParameter decode query = (do
                  let _ ← Storage.bindSlots rawBindParameter 0 query.values []
                  rows.mapM fun row => decode (resultCells row prepared.statement))) ∧
            ∀ (fewer : UInt32) (lesser : CollectionQuery R), fewer ≤ limit →
              draft.take schema fewer = .ok lesser →
                lesser.sql = query.sql ∧
                  second.select lesser.values prepared = .ok (rows.take fewer.toNat) := by
  obtain ⟨primaryKey, tokens, isKey, -, -, reads⟩ := compileQuery_reads ok
  obtain ⟨formed, -, -, -, -, -, orderFields⟩ := compileQuery_spec ok
  obtain ⟨columnsNodup, keyed⟩ :=
    effectiveOrder_columns formed isKey (compileQuery_order ok) orderFields
  refine ⟨primaryKey, _, _, _, isKey, reads, rfl, columnsNodup,
    List.count_eq_one_of_mem columnsNodup keyed, ?_⟩
  intro first second sees
  obtain ⟨sameCollation, content, other, knownFirst, knownSecond, perm⟩ := sees
  obtain ⟨rows, selected, answers⟩ := select_take ok isKey reads first knownFirst
  obtain ⟨others, selectedOther, answersOther⟩ := select_take ok isKey reads second knownSecond
  rw [sameCollation] at answersOther
  have same : rows = others := Sql.Collation.Answers.unique keyed perm answers answersOther
  subst same
  refine ⟨rows, answers.length_le, selected, selectedOther, ?_, ?_⟩
  · intro executor Record rawBindParameter decode connected
    rcases connected with connected | connected
    · simp only [queryCollection_eq rawBindParameter decode reads rfl connected, selected,
        ok_bind]
    · simp only [queryCollection_eq rawBindParameter decode reads rfl connected,
        selectedOther, ok_bind]
  · intro fewer lesser atMost lesserOk
    have sameSql : lesser.sql = query.sql :=
      ((QueryDraft.SameShape.refl draft).take_sql_eq lesserOk ok).1
    obtain ⟨shorter, selectedShorter, answersShorter⟩ :=
      select_take lesserOk isKey (sameSql ▸ reads) second knownSecond
    rw [sameCollation] at answersShorter
    have begins : shorter = rows.take fewer.toNat :=
      Sql.Collation.Answers.take keyed perm.symm (UInt32.le_iff_toNat_le.mp atMost)
        answersShorter answers
    exact ⟨sameSql, begins ▸ selectedShorter⟩

/-- A collection of two columns, the key and an optional rank. -/
def rankedSchema : CollectionSchema where
  id := "ranked"
  table := "ranked"
  version := 1
  fingerprint := Vector.replicate 32 0
  fields :=
    [{ id := "id", column := "id", columnType := .integer, nullable := false,
       primaryKey := true },
     { id := "rank", column := "rank", columnType := .integer, nullable := true,
       primaryKey := false }]
  canonicalDescriptor := "descriptor"
  indexes := []

/-- Where a value stands: integers in their order, every other value before them. -/
def rankOf : Value Nat → Option Int
  | .integer value => some value.toInt
  | _ => none

def rankedCollation : Sql.Collation (Value Nat) where
  compare := fun _ => compareOn rankOf
  preorder := fun _ => inferInstance

def rankedRow (id : Int64) (rank : Value Nat) : Sql.Row (Value Nat) :=
  fun column => if column = "id" then .integer id else rank

/-- Three rows, two of them without a rank, in the given physical order. -/
def rankedConnection (rows : List (Sql.Row (Value Nat))) : QueryConnection Nat where
  engine := Sql.sortingEngine rankedCollation rowCount
  tables := fun name => if name = "ranked" then some rows else none
  cache := { entries := [], compiled := by simp }

def rankDescending : QueryDraft Nat where
  predicate := none
  order :=
    [{ field := { id := "rank", column := "rank", columnType := .integer, nullable := true,
                  primaryKey := false }
       direction := .descending }]

theorem ranked_pages_are_deterministic :
    ∃ query lesser : CollectionQuery Nat, ∃ prepared rows,
      rankDescending.take rankedSchema 3 = .ok query ∧
      rankDescending.take rankedSchema 2 = .ok lesser ∧
      Sql.prepare query.sql = some prepared ∧
      (rankedConnection [rankedRow 2 .null, rankedRow 3 (.integer 5), rankedRow 1 .null]).select
        query.values prepared = .ok rows ∧
      (rankedConnection [rankedRow 1 .null, rankedRow 2 .null, rankedRow 3 (.integer 5)]).select
        lesser.values prepared = .ok (rows.take 2) := by
  obtain ⟨query, ok⟩ : ∃ query, rankDescending.take rankedSchema 3 = .ok query := ⟨_, rfl⟩
  obtain ⟨lesser, lesserOk⟩ : ∃ lesser, rankDescending.take rankedSchema 2 = .ok lesser :=
    ⟨_, rfl⟩
  obtain ⟨primaryKey, prepared, filter, terms, isKey, reads, -, -, -, same⟩ :=
    bounded_queries_are_deterministic rankedSchema rankDescending 3 query ok
  have keyColumn : primaryKey.column = "id" := by
    obtain rfl := Option.some.inj isKey
    rfl
  let content : Sql.KeyedRows rankedCollation primaryKey.column :=
    { rows := [rankedRow 2 .null, rankedRow 3 (.integer 5), rankedRow 1 .null]
      keys_distinct := by rw [keyColumn]; decide
      keys_notNull := by rw [keyColumn]; decide }
  let other : Sql.KeyedRows rankedCollation primaryKey.column :=
    { rows := [rankedRow 1 .null, rankedRow 2 .null, rankedRow 3 (.integer 5)]
      keys_distinct := by rw [keyColumn]; decide
      keys_notNull := by rw [keyColumn]; decide }
  have rotated : ([rankedRow 2 .null, rankedRow 3 (.integer 5)] ++ [rankedRow 1 .null]).Perm
      ([rankedRow 1 .null] ++ [rankedRow 2 .null, rankedRow 3 (.integer 5)]) :=
    List.perm_append_comm
  obtain ⟨rows, -, selected, -, -, pages⟩ :=
    same (rankedConnection content.rows) (rankedConnection other.rows)
      ⟨rfl, content, other, rfl, rfl, rotated⟩
  exact ⟨query, lesser, prepared, rows, ok, lesserOk, reads, selected,
    (pages 2 lesser (by decide) lesserOk).2⟩

/-! ## Existence -/

section Existence

variable [EngineOrder R]

/-- The rows that the text of a query, with its values in place, selects. -/
def QueryConnection.selected (connection : QueryConnection R) (query : CollectionQuery R) :
    Result (List (Sql.Row (Value R))) := do
  let prepared ← Storage.prepare query.sql
  connection.select query.values prepared

/-- The two queries of one draft: both fail, or each selects a row when the other does. -/
theorem select_agrees [RealCarrier R] {schema : CollectionSchema}
    {predicate : Option (PredicateNode R)} {order : List QueryOrder} {limit : UInt32}
    {existence : CollectionExistsQuery R} {query : CollectionQuery R} (positive : 1 ≤ limit)
    (existenceOk : compileExistsQuery schema predicate order = .ok existence)
    (queryOk : compileQuery schema predicate order limit = .ok query)
    {prepared : Sql.Prepared} (reads : Sql.prepare existence.sql = some prepared)
    (connection : QueryConnection R) :
    EndAlike (fun found rows => found ≠ [] ↔ rows ≠ [])
      (connection.select existence.values prepared) (connection.selected query) := by
  obtain ⟨-, -, -, existenceReads⟩ := compileExistsQuery_reads existenceOk
  obtain ⟨primaryKey, -, isKey, -, -, queryReads⟩ := compileQuery_reads queryOk
  unfold QueryConnection.selected Storage.prepare
  simp only [queryReads, ok_bind]
  cases known : connection.tables schema.table with
  | none =>
      rw [reads, Option.some.injEq] at existenceReads
      unfold QueryConnection.select
      rw [existenceReads, connection.engine.select_unknown known,
        connection.engine.select_unknown known]
      exact .error _
  | some content =>
      obtain ⟨found, selects, found_answers⟩ :=
        select_exists existenceOk reads connection known
      obtain ⟨rows, selectsRows, rows_answers⟩ :=
        select_take queryOk isKey queryReads connection known
      rw [selects, selectsRows]
      have atLeastOne : 0 < limit.toNat := UInt32.le_iff_toNat_le.mp positive
      exact .ok ((found_answers.ne_nil_iff Nat.one_pos).trans
        (rows_answers.ne_nil_iff atLeastOne).symm)

omit [EngineOrder R] in
/-- Asking for the first row tells whether the other query selects one. -/
theorem firstRow_iff {found rows : Result (List (Sql.Row (Value R)))}
    (agrees : EndAlike (fun found rows => found ≠ [] ↔ rows ≠ []) found rows) :
    ((found >>= fun rows => .ok rows.head?.isSome) = .ok true ↔
        ∃ selected, rows = .ok selected ∧ selected ≠ []) ∧
      ((found >>= fun rows => .ok rows.head?.isSome) = .ok false ↔ rows = .ok []) := by
  cases agrees with
  | error failure => simp
  | @ok found rows same =>
      cases found with
      | nil =>
          have none : rows = [] := by simpa using same
          simp [none]
      | cons row rest =>
          have someRow : rows ≠ [] := by simpa using same
          simp [someRow]

end Existence

/-- Existence agrees with the bounded query.  Without ordering terms a draft is finalized
as an existence query exactly when it is with a limit in bounds.  On every executor, the
existence query is true exactly when the text of the bounded one selects a row, whatever
becomes of the cells of that row; unless the executor has no connection or the engine
refuses one of their values, which fails both queries in the same way. -/
theorem exists_agrees_with_take [RealCarrier R] [EngineOrder R] (schema : CollectionSchema)
    (draft : QueryDraft R) (unordered : draft.order = []) (limit : UInt32)
    (positive : 1 ≤ limit) (bounded : limit ≤ maxQueryLimit) :
    ((∃ query, draft.exists schema = .ok query) ↔
      ∃ query, draft.take schema limit = .ok query) ∧
    ∀ (existence : CollectionExistsQuery R) (query : CollectionQuery R),
      draft.exists schema = .ok existence → draft.take schema limit = .ok query →
        ∀ (rawBindParameter : Nat → Value R → Result Unit) (executor : QueryExecutor R),
          (∃ connection, executor.connection = .ok connection ∧
            (executor.collectionExists rawBindParameter existence = .ok true ↔
              ∃ rows, connection.selected query = .ok rows ∧ rows ≠ []) ∧
            (executor.collectionExists rawBindParameter existence = .ok false ↔
              connection.selected query = .ok [])) ∨
          ∃ failure,
            (executor.connection = .error failure ∨
              ∃ index value, rawBindParameter index value = .error failure) ∧
            executor.collectionExists rawBindParameter existence = .error failure ∧
            ∀ (Record : Type) (decode : List (Value R) → Result Record),
              executor.queryCollection rawBindParameter decode query = .error failure := by
  constructor
  · apply (exists_alike_take unordered schema ?_ bounded).ok_iff
    rintro rfl
    exact absurd positive (by decide)
  · intro existence query existenceOk queryOk rawBindParameter executor
    cases connected : executor.connection with
    | error failure =>
        right
        refine ⟨failure, .inl rfl, ?_, ?_⟩
        · rw [QueryExecutor.collectionExists, connected, error_bind]
        · intro Record decode
          rw [QueryExecutor.queryCollection, connected, error_bind]
    | ok connection =>
        obtain ⟨-, -, -, existenceReads⟩ := compileExistsQuery_reads existenceOk
        obtain ⟨primaryKey, -, isKey, -, -, reads⟩ := compileQuery_reads queryOk
        have existenceRuns :=
          collectionExists_eq rawBindParameter existenceReads rfl connected
        rcases Storage.bindSlots_cases rawBindParameter existence.values 0 [] with
          bound | ⟨index, value, failure, stored, refused⟩
        · left
          refine ⟨connection, rfl, ?_⟩
          rw [existenceRuns, bound, ok_bind]
          exact firstRow_iff
            (select_agrees positive existenceOk queryOk existenceReads connection)
        · right
          refine ⟨failure, .inr ⟨index, value, stored⟩, ?_, ?_⟩
          · rw [existenceRuns, refused, error_bind]
          · intro Record decode
            obtain ⟨-, -, -, sameValues, -⟩ := compileExistsQuery_spec existenceOk
            obtain ⟨-, -, -, -, queryValues, -, -⟩ := compileQuery_spec queryOk
            rw [← sameValues] at queryValues
            have refusedToo := Storage.bindSlots_refused rawBindParameter
              [.integer (Int64.ofNat limit.toNat)] refused
            rw [← queryValues] at refusedToo
            rw [queryCollection_eq rawBindParameter decode reads rfl connected, refusedToo,
              error_bind]

/-- A row whose cells no codec decodes still exists. -/
theorem undecodable_row_exists :
    ∃ (existence : CollectionExistsQuery Nat) (query : CollectionQuery Nat),
      (QueryDraft.new : QueryDraft Nat).exists rankedSchema = .ok existence ∧
      (QueryDraft.new : QueryDraft Nat).take rankedSchema 1 = .ok query ∧
      (QueryExecutor.database (rankedConnection [rankedRow 1 .null])).collectionExists
        (fun _ _ => .ok ()) existence = .ok true := by
  obtain ⟨existence, existenceOk⟩ :
      ∃ existence, (QueryDraft.new : QueryDraft Nat).exists rankedSchema = .ok existence :=
    ⟨_, rfl⟩
  obtain ⟨query, ok⟩ : ∃ query, (QueryDraft.new : QueryDraft Nat).take rankedSchema 1 =
    .ok query := ⟨_, rfl⟩
  refine ⟨existence, query, existenceOk, ok, ?_⟩
  obtain ⟨primaryKey, -, isKey, -, -, reads⟩ := compileQuery_reads ok
  obtain ⟨rows, selects, answers⟩ :=
    select_take ok isKey reads (rankedConnection [rankedRow 1 .null]) rfl
  rcases (exists_agrees_with_take rankedSchema QueryDraft.new rfl 1 (by decide)
    (by decide)).2 existence query existenceOk ok (fun _ _ => .ok ())
      (.database (rankedConnection [rankedRow 1 .null])) with
    ⟨connection, connected, found, -⟩ | ⟨failure, noConnection | ⟨_, _, refused⟩, -⟩
  · obtain rfl := Except.ok.inj connected
    apply found.mpr
    refine ⟨rows, ?_, ?_⟩
    · unfold QueryConnection.selected Storage.prepare
      rw [reads]
      exact selects
    · apply (answers.ne_nil_iff (by decide)).mpr
      exact ⟨rankedRow 1 .null, List.mem_singleton_self _, rfl⟩
  · cases noConnection
  · cases refused

end Csgdb.Query
