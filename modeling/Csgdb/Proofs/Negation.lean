/-
Module: Csgdb.Proofs.Negation
Purpose: Negated filters select the complement, and repeated filters the intersection, as
  long as no comparison meets a null.
Trusted boundary: none
Main exports: PredicateNode.TwoValued, CollectionSchema.Keeps, CollectionQuery.selects,
  PredicateNode.knownOn, negation_selects_complement
-/
import Csgdb.Proofs.BoundedQueries
import Csgdb.Proofs.PredicateLimits
import Csgdb.Sql.TwoValued

namespace Csgdb.Query

open Foundation

variable {R : Type}

/-! ## Predicates and rows -/

/-- Every leaf tests for null, or compares a field that is never null. -/
def PredicateNode.TwoValued : PredicateNode R → Prop
  | .compare field _ value => field.nullable = false ∨ value.isNull = true
  | .null _ _ => True
  | .and left right | .or left right => left.TwoValued ∧ right.TwoValued
  | .not inner => inner.TwoValued

/-- A row with the columns that are declared `NOT NULL`. -/
def NotNullRow (schema : CollectionSchema) (row : Sql.Row (Value R)) : Prop :=
  ∀ field ∈ schema.fields, field.nullable = false → (row field.column).isNull = false

/-- The filter that the text of a query states, with its values in place. -/
def CollectionQuery.filter (query : CollectionQuery R) : Option (Sql.BoundFilter (Value R)) :=
  match Sql.prepare query.sql with
  | some prepared =>
      match prepared.statement with
      | .select _ _ filter _ _ => filter.bind query.values
      | _ => none
  | none => none

/-- A query selects a row, as far as its limit allows. -/
def CollectionQuery.selects [EngineOrder R] (collation : Sql.Collation (Value R))
    (query : CollectionQuery R) (row : Sql.Row (Value R)) : Bool :=
  query.filter.any fun filter => collation.selects filter row

/-! ## Compiled queries -/

section Compiled

variable [RealCarrier R] {schema : CollectionSchema} {predicate : Option (PredicateNode R)}
  {order : List QueryOrder} {limit : UInt32} {query : CollectionQuery R}

theorem compileQuery_filter (ok : compileQuery schema predicate order limit = .ok query) :
    query.filter = some (boundFilter predicate) := by
  obtain ⟨_, _, -, -, -, reads⟩ := compileQuery_reads ok
  unfold CollectionQuery.filter
  rw [reads]
  exact (compileQuery_binds ok).1

/-- What a compiled query finds in its table. -/
theorem selected_answers [EngineOrder R]
    (ok : compileQuery schema predicate order limit = .ok query)
    (connection : QueryConnection R) {content : List (Sql.Row (Value R))}
    (known : connection.tables schema.table = some content) :
    ∃ terms answer, connection.selected query = .ok answer ∧
      connection.engine.collation.Answers (boundFilter predicate) terms limit.toNat content
        answer := by
  obtain ⟨primaryKey, _, isKey, -, -, reads⟩ := compileQuery_reads ok
  obtain ⟨answer, selects, answers⟩ := select_take ok isKey reads connection known
  refine ⟨_, answer, ?_, answers⟩
  unfold QueryConnection.selected Storage.prepare
  rw [reads]
  exact selects

theorem compileQuery_leaves {node : PredicateNode R}
    (ok : compileQuery schema (some node) order limit = .ok query) :
    node.LeavesValid schema := by
  unfold compileQuery at ok
  obtain ⟨-, checked⟩ := ite_error_eq_ok_iff.mp ok
  obtain ⟨⟨⟩, -, keyed⟩ := bind_eq_ok_iff.mp checked
  cases key : schema.primaryKey with
  | none =>
      rw [key] at keyed
      cases keyed
  | some primaryKey =>
      rw [key] at keyed
      obtain ⟨⟨sql, values⟩, compiled, -⟩ := bind_eq_ok_iff.mp keyed
      obtain ⟨compilation, compiles, -⟩ := bind_eq_ok_iff.mp compiled
      exact ((compilePredicate_fits node _ _).mp ⟨_, compiles⟩).leaves

/-- No comparison of an accepted two-valued predicate meets a null. -/
theorem PredicateNode.knownOn [EngineOrder R] {node : PredicateNode R}
    (valid : node.LeavesValid schema) (twoValued : node.TwoValued)
    {row : Sql.Row (Value R)} (notNull : NotNullRow schema row) :
    node.bound.KnownOn row := by
  induction node with
  | compare field comparison value =>
      obtain ⟨member, comparable⟩ := valid
      cases given : value.isNull with
      | true =>
          -- the comparison is written as a null test
          unfold Comparable at comparable
          rw [if_pos given] at comparable
          obtain ⟨-, rfl | rfl⟩ := comparable
          · simp only [bound, nullTest, given, if_true]
            trivial
          · simp only [bound, nullTest, given, if_true]
            trivial
      | false =>
          have required := twoValued.resolve_right (Bool.eq_false_iff.mp given)
          simp only [bound, nullTest, given, Bool.false_eq_true, if_false]
          exact ⟨notNull field member required, given⟩
  | null field comparison => cases comparison <;> trivial
  | and left right leftKnown rightKnown | or left right leftKnown rightKnown =>
      exact ⟨leftKnown valid.1 twoValued.1, rightKnown valid.2 twoValued.2⟩
  | not inner innerKnown => exact innerKnown valid twoValued

end Compiled

/-- A draft of the given order with no filter. -/
def orderedDraft (order : List QueryOrder) : QueryDraft R where
  predicate := none
  order := order

/-- Negation is complement on accepted predicates that are never unknown, and filters that
follow each other select the intersection. -/
theorem negation_selects_complement [RealCarrier R] [EngineOrder R]
    (schema : CollectionSchema) (order : List QueryOrder) (p q : PredicateNode R)
    (limit other : UInt32) (selecting : CollectionQuery R)
    (accepted : ((orderedDraft order).filter p).take schema limit = .ok selecting) :
    (∀ rejecting : CollectionQuery R, p.TwoValued →
      ((orderedDraft order).filter (.not p)).take schema other = .ok rejecting →
        (∀ (collation : Sql.Collation (Value R)) (row : Sql.Row (Value R)),
          NotNullRow schema row →
            rejecting.selects collation row = !selecting.selects collation row) ∧
        ∀ (connection : QueryConnection R) (content : List (Sql.Row (Value R))),
          connection.tables schema.table = some content →
          (∀ row ∈ content, NotNullRow schema row) →
          content.length ≤ limit.toNat → content.length ≤ other.toNat →
            ∃ found rest, connection.selected selecting = .ok found ∧
              connection.selected rejecting = .ok rest ∧ (found ++ rest).Perm content) ∧
    ∀ (secondLimit bothLimit : UInt32) (second both : CollectionQuery R),
      ((orderedDraft order).filter q).take schema secondLimit = .ok second →
      (((orderedDraft order).filter p).filter q).take schema bothLimit = .ok both →
        ∀ (collation : Sql.Collation (Value R)) (row : Sql.Row (Value R)),
          both.selects collation row =
            (selecting.selects collation row && second.selects collation row) := by
  have filtered := compileQuery_filter accepted
  constructor
  · intro rejecting twoValued refused
    have negated := compileQuery_filter refused
    have opposite : ∀ (collation : Sql.Collation (Value R)) (row : Sql.Row (Value R)),
        NotNullRow schema row →
          collation.selects (.condition (.not p.bound)) row =
            !collation.selects (.condition p.bound) row :=
      fun collation row notNull => collation.selects_not
        (PredicateNode.knownOn (compileQuery_leaves accepted) twoValued notNull)
    constructor
    · intro collation row notNull
      unfold CollectionQuery.selects
      rw [filtered, negated]
      exact opposite collation row notNull
    · intro connection content known notNull room otherRoom
      obtain ⟨_, found, selects, answers⟩ := selected_answers accepted connection known
      obtain ⟨_, rest, rejects, others⟩ := selected_answers refused connection known
      refine ⟨found, rest, selects, rejects, answers.complement ?_ room otherRoom others⟩
      exact fun row member => opposite _ row (notNull row member)
  · intro secondLimit bothLimit second both acceptedSecond acceptedBoth collation row
    unfold CollectionQuery.selects
    rw [filtered, compileQuery_filter acceptedSecond, compileQuery_filter acceptedBoth]
    exact collation.selects_and p.bound q.bound row

/-- The rank is missing. -/
def rankMissing : PredicateNode Nat :=
  .compare
    { id := "rank", column := "rank", columnType := .integer, nullable := true,
      primaryKey := false } .equal .null

def unrankedRows : List (Sql.Row (Value Nat)) :=
  [rankedRow 1 .null, rankedRow 2 (.integer 7), rankedRow 3 .null]

/-- The first two keys. -/
def earlyKey : PredicateNode Nat :=
  .compare
    { id := "id", column := "id", columnType := .integer, nullable := false,
      primaryKey := true } .less (.integer 3)

theorem missing_and_present_ranks :
    ∃ selecting rejecting second both : CollectionQuery Nat, ∃ found rest,
      ((orderedDraft []).filter rankMissing).take rankedSchema 5 = .ok selecting ∧
      ((orderedDraft []).filter (.not rankMissing)).take rankedSchema 5 = .ok rejecting ∧
      ((orderedDraft []).filter earlyKey).take rankedSchema 5 = .ok second ∧
      (((orderedDraft []).filter rankMissing).filter earlyKey).take rankedSchema 5 = .ok both ∧
      (rankedConnection unrankedRows).selected selecting = .ok found ∧
      (rankedConnection unrankedRows).selected rejecting = .ok rest ∧
      (found ++ rest).Perm unrankedRows ∧
      unrankedRows.map (selecting.selects rankedCollation) = [true, false, true] ∧
      unrankedRows.map (second.selects rankedCollation) = [true, true, false] ∧
      unrankedRows.map (both.selects rankedCollation) = [true, false, false] := by
  obtain ⟨selecting, accepted⟩ : ∃ selecting,
    ((orderedDraft []).filter rankMissing).take rankedSchema 5 = .ok selecting := ⟨_, rfl⟩
  obtain ⟨rejecting, refused⟩ : ∃ rejecting,
    ((orderedDraft []).filter (.not rankMissing)).take rankedSchema 5 = .ok rejecting :=
    ⟨_, rfl⟩
  obtain ⟨second, acceptedSecond⟩ : ∃ second,
    ((orderedDraft []).filter earlyKey).take rankedSchema 5 = .ok second := ⟨_, rfl⟩
  obtain ⟨both, acceptedBoth⟩ : ∃ both,
    (((orderedDraft []).filter rankMissing).filter earlyKey).take rankedSchema 5 = .ok both :=
    ⟨_, rfl⟩
  have notNull : ∀ row ∈ unrankedRows, NotNullRow rankedSchema row := by
    unfold NotNullRow
    decide
  obtain ⟨complement, intersection⟩ :=
    negation_selects_complement rankedSchema [] rankMissing earlyKey 5 5 selecting accepted
  obtain ⟨found, rest, selects, rejects, all⟩ :=
    (complement rejecting (.inr rfl) refused).2 (rankedConnection unrankedRows) _ rfl notNull
      (by decide) (by decide)
  have unranked : unrankedRows.map (selecting.selects rankedCollation) =
      [true, false, true] := by
    unfold CollectionQuery.selects
    rw [compileQuery_filter accepted]
    rfl
  have early : unrankedRows.map (second.selects rankedCollation) = [true, true, false] := by
    unfold CollectionQuery.selects
    rw [compileQuery_filter acceptedSecond]
    rfl
  refine ⟨selecting, rejecting, second, both, found, rest, accepted, refused, acceptedSecond,
    acceptedBoth, selects, rejects, all, unranked, early, ?_⟩
  have meets := intersection 5 5 second both acceptedSecond acceptedBoth rankedCollation
  rw [List.map_congr_left fun row _ => meets row]
  simp only [unrankedRows, List.map_cons, List.map_nil, List.cons.injEq] at unranked early ⊢
  simp only [unranked, early, Bool.true_and, Bool.false_and, Bool.and_false, and_self]

end Csgdb.Query
