/-
Module: Csgdb.Proofs.PredicateLimits
Purpose: Exactly which predicate trees the query compiler accepts, and how much of a tree
  it looks at before it decides.
Trusted boundary: none
Main exports: PredicateNode.height, PredicateNode.size, PredicateNode.LeavesValid,
  visitedLevels, compilePredicate_fits, predicates_accepted_iff
-/
import Csgdb.Proofs.QueryMeaning

namespace Csgdb.Query

open Foundation

variable {R : Type} [RealCarrier R]

/-! ## Measures of a tree -/

omit [RealCarrier R] in
/-- The number of levels of a tree. -/
def PredicateNode.height : PredicateNode R → Nat
  | .compare _ _ _ | .null _ _ => 1
  | .and left right | .or left right => max left.height right.height + 1
  | .not inner => inner.height + 1

omit [RealCarrier R] in
/-- The number of nodes of a tree. -/
def PredicateNode.size : PredicateNode R → Nat
  | .compare _ _ _ | .null _ _ => 1
  | .and left right | .or left right => left.size + right.size + 1
  | .not inner => inner.size + 1

/-- A value that a field can be compared with: of its storage class, and finite, or
null. -/
def Comparable (field : FieldSchema) (comparison : Comparison) (value : Value R) : Prop :=
  if value.isNull then
    field.nullable = true ∧ (comparison = .equal ∨ comparison = .notEqual)
  else
    value.valueType = field.columnType.valueType ∧
      ∀ real, value = .real real → RealCarrier.isFinite real = true

def PredicateNode.LeavesValid (schema : CollectionSchema) : PredicateNode R → Prop
  | .compare field comparison value =>
      field ∈ schema.fields ∧ Comparable field comparison value
  | .null field _ => field ∈ schema.fields ∧ field.nullable = true
  | .and left right | .or left right => left.LeavesValid schema ∧ right.LeavesValid schema
  | .not inner => inner.LeavesValid schema

/-- The levels of the nodes that the compiler is called for, in the order of the calls. -/
def visitedLevels (schema : CollectionSchema) :
    PredicateNode R → Compilation R → Nat → List Nat
  | .compare _ _ _, _, depth | .null _ _, _, depth => [depth]
  | .and left right, state, depth =>
      depth ::
        match enterNode state depth with
        | .error _ => []
        | .ok state =>
            let opened := { state with sql := state.sql ++ "(" }
            visitedLevels schema left opened (depth + 1) ++
              match compilePredicate schema left opened (depth + 1) with
              | .error _ => []
              | .ok state =>
                  visitedLevels schema right { state with sql := state.sql ++ " AND " }
                    (depth + 1)
  | .or left right, state, depth =>
      depth ::
        match enterNode state depth with
        | .error _ => []
        | .ok state =>
            let opened := { state with sql := state.sql ++ "(" }
            visitedLevels schema left opened (depth + 1) ++
              match compilePredicate schema left opened (depth + 1) with
              | .error _ => []
              | .ok state =>
                  visitedLevels schema right { state with sql := state.sql ++ " OR " }
                    (depth + 1)
  | .not inner, state, depth =>
      depth ::
        match enterNode state depth with
        | .error _ => []
        | .ok state =>
            visitedLevels schema inner { state with sql := state.sql ++ "(NOT " } (depth + 1)

/-! ## Steps of the compiler -/

section Steps

omit [RealCarrier R] in
/-- It fails in one way only. -/
def Refuses {α : Type} (result : Result α) : Prop :=
  ∀ failure, result = .error failure → failure = invalidQuery

omit [RealCarrier R] in
theorem Refuses.ok {α : Type} (value : α) : Refuses (.ok value) := by
  intro failure fails
  cases fails

omit [RealCarrier R] in
theorem Refuses.error {α : Type} : Refuses (.error invalidQuery : Result α) := by
  intro failure fails
  exact (Except.error.inj fails).symm

omit [RealCarrier R] in
theorem Refuses.bind {α β : Type} {first : Result α} {next : α → Result β}
    (refuses : Refuses first) (later : ∀ value, Refuses (next value)) :
    Refuses (first >>= next) := by
  intro failure fails
  cases first with
  | error other =>
      obtain rfl := Except.error.inj fails
      exact refuses other rfl
  | ok value => exact later value failure fails

omit [RealCarrier R] in
theorem Refuses.ite {α : Type} {condition : Prop} [Decidable condition] {one two : Result α}
    (first : Refuses one) (second : Refuses two) :
    Refuses (if condition then one else two) := by
  split
  case isTrue => exact first
  case isFalse => exact second

variable {schema : CollectionSchema} {state entered : Compilation R} {depth : Nat}

omit [RealCarrier R] in
theorem enterNode_ok_iff :
    enterNode state depth = .ok entered ↔
      depth ≤ maxPredicateDepth ∧ state.nodes + 1 ≤ maxPredicateNodes ∧
        { state with nodes := state.nodes + 1 } = entered := by
  unfold enterNode checkedAdd
  by_cases counted : state.nodes + 1 < 2 ^ 64
  · rw [if_pos counted]
    dsimp only
    simp only [ite_error_eq_ok_iff, gt_iff_lt, Bool.or_eq_true, decide_eq_true_eq, not_or,
      not_lt, Except.ok.injEq, and_assoc]
  · rw [if_neg counted]
    constructor
    · intro ok
      cases ok
    · rintro ⟨-, within, -⟩
      unfold maxPredicateNodes at within
      omega

omit [RealCarrier R] in
theorem enterNode_refuses : Refuses (enterNode state depth) := by
  unfold enterNode
  split
  case h_1 => exact .error
  case h_2 => exact .ite .error (.ok _)

omit [RealCarrier R] in
theorem validateField_refuses (field : FieldSchema) : Refuses (validateField schema field) :=
  .ite (.ok ()) .error

theorem validateBoundValue_refuses (field : FieldSchema) (value : Value R) :
    Refuses (validateBoundValue field value) :=
  .ite (.ok ()) .error

omit [RealCarrier R] in
theorem compileComparison_refuses (comparison : Comparison) (value : Value R) :
    Refuses (compileComparison comparison value) := by
  unfold compileComparison
  apply Refuses.ite
  · cases comparison <;> first | exact .error | exact .ok _
  · exact .ok _

/-- Both checks of a compared value together. -/
theorem comparable_iff {field : FieldSchema} {comparison : Comparison} {value : Value R} :
    validateBoundValue field value = .ok () ∧
        (∃ written, compileComparison comparison value = .ok written) ↔
      Comparable field comparison value := by
  unfold validateBoundValue Comparable compileComparison
  cases value with
  | null =>
      cases nullable : field.nullable <;> cases comparison <;> simp [Value.isNull]
  | integer | real | text | blob =>
      cases type : field.columnType <;>
        simp [Value.isNull, Value.valueType, ColumnType.valueType]

end Steps

/-! ## Acceptance -/

section Acceptance

variable {schema : CollectionSchema}

/-- A tree within what is left of the limits. -/
structure PredicateNode.Fits (schema : CollectionSchema) (node : PredicateNode R)
    (nodes depth : Nat) : Prop where
  levels : depth + node.height ≤ maxPredicateDepth + 1
  count : nodes + node.size ≤ maxPredicateNodes
  leaves : node.LeavesValid schema

theorem compilePredicate_refuses (node : PredicateNode R) :
    ∀ (state : Compilation R) (depth : Nat),
      Refuses (compilePredicate schema node state depth) := by
  induction node with
  | compare field comparison value =>
      intro state depth
      apply enterNode_refuses.bind
      intro entered
      apply (validateField_refuses field).bind
      intro _
      apply (validateBoundValue_refuses field value).bind
      intro _
      apply (compileComparison_refuses comparison value).bind
      exact fun _ => .ok _
  | null field comparison =>
      intro state depth
      apply enterNode_refuses.bind
      intro entered
      apply (validateField_refuses field).bind
      exact fun _ => .ite .error (.ok _)
  | and left right leftRefuses rightRefuses | or left right leftRefuses rightRefuses =>
      intro state depth
      apply enterNode_refuses.bind
      intro entered
      apply (leftRefuses _ _).bind
      intro middle
      apply (rightRefuses _ _).bind
      exact fun _ => .ok _
  | not inner innerRefuses =>
      intro state depth
      apply enterNode_refuses.bind
      intro entered
      apply (innerRefuses _ _).bind
      exact fun _ => .ok _

/-- A compiled tree is counted. -/
theorem compilePredicate_nodes {node : PredicateNode R} :
    ∀ {state compiled : Compilation R} {depth : Nat},
      compilePredicate schema node state depth = .ok compiled →
        compiled.nodes = state.nodes + node.size := by
  induction node with
  | compare field comparison value =>
      intro state compiled depth ok
      simp only [compilePredicate, bind_eq_ok_iff, enterNode_ok_iff, Except.ok.injEq] at ok
      obtain ⟨entered, ⟨-, -, rfl⟩, -, -, -, -, -, -, rfl⟩ := ok
      rfl
  | null field comparison =>
      intro state compiled depth ok
      simp only [compilePredicate, bind_eq_ok_iff, enterNode_ok_iff] at ok
      obtain ⟨entered, ⟨-, -, rfl⟩, -, -, written⟩ := ok
      obtain ⟨-, same⟩ := ite_error_eq_ok_iff.mp written
      obtain rfl := Except.ok.inj same
      rfl
  | and left right leftCounted rightCounted | or left right leftCounted rightCounted =>
      intro state compiled depth ok
      simp only [compilePredicate, bind_eq_ok_iff, enterNode_ok_iff, Except.ok.injEq] at ok
      obtain ⟨entered, ⟨-, -, rfl⟩, middle, compiledLeft, last, compiledRight, rfl⟩ := ok
      have countedLeft := leftCounted compiledLeft
      have countedRight := rightCounted compiledRight
      dsimp only [PredicateNode.size] at countedLeft countedRight ⊢
      omega
  | not inner innerCounted =>
      intro state compiled depth ok
      simp only [compilePredicate, bind_eq_ok_iff, enterNode_ok_iff, Except.ok.injEq] at ok
      obtain ⟨entered, ⟨-, -, rfl⟩, last, compiledInner, rfl⟩ := ok
      have counted := innerCounted compiledInner
      dsimp only [PredicateNode.size] at counted ⊢
      omega

omit [RealCarrier R] in
theorem PredicateNode.height_pos (node : PredicateNode R) : 0 < node.height := by
  cases node <;> exact Nat.succ_pos _

/-- Two subtrees compile one behind the other exactly when both fit together. -/
theorem junction_fits {left right : PredicateNode R}
    (leftFits : ∀ (state : Compilation R) (depth : Nat),
      (∃ compiled, compilePredicate schema left state depth = .ok compiled) ↔
        left.Fits schema state.nodes depth)
    (rightFits : ∀ (state : Compilation R) (depth : Nat),
      (∃ compiled, compilePredicate schema right state depth = .ok compiled) ↔
        right.Fits schema state.nodes depth)
    (joint : String) (state : Compilation R) (depth : Nat) :
    (∃ compiled,
      (do
        let state ← enterNode state depth
        let state ← compilePredicate schema left { state with sql := state.sql ++ "(" }
          (depth + 1)
        let state ← compilePredicate schema right { state with sql := state.sql ++ joint }
          (depth + 1)
        .ok { state with sql := state.sql ++ ")" }) = Except.ok compiled) ↔
      depth + (max left.height right.height + 1) ≤ maxPredicateDepth + 1 ∧
        state.nodes + (left.size + right.size + 1) ≤ maxPredicateNodes ∧
        left.LeavesValid schema ∧ right.LeavesValid schema := by
  simp only [bind_eq_ok_iff, enterNode_ok_iff, Except.ok.injEq]
  constructor
  · rintro ⟨-, -, ⟨level, count, rfl⟩, middle, compiledLeft, last, compiledRight, -⟩
    have counted := compilePredicate_nodes compiledLeft
    obtain ⟨leftLevels, leftCount, leftLeaves⟩ := (leftFits _ _).mp ⟨_, compiledLeft⟩
    obtain ⟨rightLevels, rightCount, rightLeaves⟩ := (rightFits _ _).mp ⟨_, compiledRight⟩
    dsimp only at counted rightCount
    exact ⟨by omega, by omega, leftLeaves, rightLeaves⟩
  · rintro ⟨levels, count, leftLeaves, rightLeaves⟩
    have leftPos := left.height_pos
    obtain ⟨middle, compiledLeft⟩ := (leftFits { state with
      sql := state.sql ++ "(", nodes := state.nodes + 1 } (depth + 1)).mpr
      ⟨by omega, by dsimp only; omega, leftLeaves⟩
    have counted := compilePredicate_nodes compiledLeft
    dsimp only at counted
    obtain ⟨last, compiledRight⟩ := (rightFits { middle with
      sql := middle.sql ++ joint } (depth + 1)).mpr
      ⟨by omega, by dsimp only; omega, rightLeaves⟩
    exact ⟨_, _, ⟨by omega, by omega, rfl⟩, middle, compiledLeft, last, compiledRight, rfl⟩

/-- A tree compiles exactly when it fits. -/
theorem compilePredicate_fits (node : PredicateNode R) :
    ∀ (state : Compilation R) (depth : Nat),
      (∃ compiled, compilePredicate schema node state depth = .ok compiled) ↔
        node.Fits schema state.nodes depth := by
  induction node with
  | compare field comparison value =>
      intro state depth
      simp only [compilePredicate, bind_eq_ok_iff, enterNode_ok_iff, Except.ok.injEq]
      constructor
      · rintro ⟨-, -, ⟨level, count, -⟩, ⟨⟩, known, ⟨⟩, fits, written, compared, -⟩
        exact ⟨Nat.succ_le_succ level, count, validateField_ok_iff.mp known,
          comparable_iff.mp ⟨fits, written, compared⟩⟩
      · rintro ⟨level, count, known, comparable⟩
        obtain ⟨fits, written, compared⟩ := comparable_iff.mpr comparable
        exact ⟨_, _, ⟨Nat.le_of_succ_le_succ level, count, rfl⟩, (),
          validateField_ok_iff.mpr known, (), fits, written, compared, rfl⟩
  | null field comparison =>
      intro state depth
      simp only [compilePredicate, bind_eq_ok_iff, enterNode_ok_iff, ite_error_eq_ok_iff,
        Bool.not_eq_true', Bool.not_eq_false, Except.ok.injEq]
      constructor
      · rintro ⟨-, -, ⟨level, count, -⟩, ⟨⟩, known, nullable, -⟩
        exact ⟨Nat.succ_le_succ level, count, validateField_ok_iff.mp known, nullable⟩
      · rintro ⟨level, count, known, nullable⟩
        exact ⟨_, _, ⟨Nat.le_of_succ_le_succ level, count, rfl⟩, (),
          validateField_ok_iff.mpr known, nullable, rfl⟩
  | and left right leftFits rightFits =>
      intro state depth
      apply (junction_fits leftFits rightFits " AND " state depth).trans
      constructor
      · rintro ⟨levels, count, leaves⟩
        exact ⟨levels, count, leaves⟩
      · intro fits
        exact ⟨fits.levels, fits.count, fits.leaves⟩
  | or left right leftFits rightFits =>
      intro state depth
      apply (junction_fits leftFits rightFits " OR " state depth).trans
      constructor
      · rintro ⟨levels, count, leaves⟩
        exact ⟨levels, count, leaves⟩
      · intro fits
        exact ⟨fits.levels, fits.count, fits.leaves⟩
  | not inner innerFits =>
      intro state depth
      simp only [compilePredicate, bind_eq_ok_iff, enterNode_ok_iff, Except.ok.injEq]
      constructor
      · rintro ⟨-, -, ⟨level, count, rfl⟩, last, compiled, -⟩
        obtain ⟨levels, innerCount, leaves⟩ := (innerFits _ _).mp ⟨_, compiled⟩
        dsimp only at innerCount
        constructor
        · simp only [PredicateNode.height]
          omega
        · simp only [PredicateNode.size]
          omega
        · exact leaves
      · rintro ⟨levels, count, leaves⟩
        simp only [PredicateNode.height] at levels
        simp only [PredicateNode.size] at count
        have innerPos := inner.height_pos
        obtain ⟨last, compiled⟩ := (innerFits { state with
          sql := state.sql ++ "(NOT ", nodes := state.nodes + 1 } (depth + 1)).mpr
          ⟨by omega, by dsimp only; omega, leaves⟩
        exact ⟨_, _, ⟨by omega, by omega, rfl⟩, last, compiled, rfl⟩

/-! ## Visited nodes -/

theorem visitedLevels_length_le (node : PredicateNode R) :
    ∀ (state : Compilation R) (depth : Nat),
      (visitedLevels schema node state depth).length ≤ node.size := by
  induction node with
  | compare | null => exact fun _ _ => Nat.le_refl 1
  | and left right leftLe rightLe | or left right leftLe rightLe =>
      intro state depth
      simp only [visitedLevels, List.length_cons, PredicateNode.size]
      apply Nat.succ_le_succ
      split
      case h_1 => exact Nat.zero_le _
      case h_2 =>
        rw [List.length_append]
        apply Nat.add_le_add (leftLe _ _)
        split
        case h_1 => exact Nat.zero_le _
        case h_2 => exact rightLe _ _
  | not inner innerLe =>
      intro state depth
      simp only [visitedLevels, List.length_cons, PredicateNode.size]
      apply Nat.succ_le_succ
      split
      case h_1 => exact Nat.zero_le _
      case h_2 => exact innerLe _ _

/-- Nodes that are visited are counted, up to one behind the limit. -/
theorem visitedLevels_count (node : PredicateNode R) :
    ∀ (state : Compilation R) (depth : Nat), state.nodes ≤ maxPredicateNodes →
      state.nodes + (visitedLevels schema node state depth).length ≤
        maxPredicateNodes + 1 := by
  induction node with
  | compare | null => exact fun _ _ within => Nat.succ_le_succ within
  | and left right leftCount rightCount | or left right leftCount rightCount =>
      intro state depth within
      simp only [visitedLevels, List.length_cons]
      split
      case h_1 => exact Nat.succ_le_succ within
      case h_2 entered enters =>
        obtain ⟨-, count, rfl⟩ := enterNode_ok_iff.mp enters
        rw [List.length_append]
        split
        case h_1 =>
          have counted := leftCount { state with
            sql := state.sql ++ "(", nodes := state.nodes + 1 } (depth + 1) count
          rw [List.length_nil]
          dsimp only at counted ⊢
          omega
        case h_2 middle compiled =>
          -- the left subtree has compiled, so that none of its nodes was beyond the limit
          have fits := ((compilePredicate_fits left _ _).mp ⟨_, compiled⟩).count
          have counted := compilePredicate_nodes compiled
          have visited := @visitedLevels_length_le R _ schema left { state with
            sql := state.sql ++ "(", nodes := state.nodes + 1 } (depth + 1)
          have inner : state.nodes + (visitedLevels schema left { state with
              sql := state.sql ++ "(", nodes := state.nodes + 1 } (depth + 1)).length + 1 ≤
                middle.nodes := by
            dsimp only at counted
            omega
          have rightBound : ∀ sql, middle.nodes + (visitedLevels schema right
              { middle with sql := sql } (depth + 1)).length ≤ maxPredicateNodes + 1 :=
            fun sql => rightCount { middle with sql := sql } _ (counted.trans_le fits)
          rw [Nat.add_right_comm, ← Nat.add_assoc, ← Nat.add_assoc]
          exact Nat.le_trans (Nat.add_le_add_right inner _) (rightBound _)
  | not inner innerCount =>
      intro state depth within
      simp only [visitedLevels, List.length_cons]
      split
      case h_1 => exact Nat.succ_le_succ within
      case h_2 entered enters =>
        obtain ⟨-, count, rfl⟩ := enterNode_ok_iff.mp enters
        have counted := innerCount { state with
          sql := state.sql ++ "(NOT ", nodes := state.nodes + 1 } (depth + 1) count
        dsimp only at counted ⊢
        omega

/-- No call is made more than one level below the limit. -/
theorem visitedLevels_level (node : PredicateNode R) :
    ∀ (state : Compilation R) (depth : Nat), depth ≤ maxPredicateDepth + 1 →
      ∀ level ∈ visitedLevels schema node state depth, level ≤ maxPredicateDepth + 1 := by
  induction node with
  | compare | null =>
      intro state depth within level visited
      rw [List.mem_singleton.mp visited]
      exact within
  | and left right leftLevel rightLevel | or left right leftLevel rightLevel =>
      intro state depth within level visited
      simp only [visitedLevels, List.mem_cons] at visited
      rcases visited with rfl | visited
      · exact within
      · split at visited
        case h_1 => cases visited
        case h_2 entered enters =>
          have below := Nat.succ_le_succ (enterNode_ok_iff.mp enters).1
          rcases List.mem_append.mp visited with inLeft | inRight
          · exact leftLevel _ _ below level inLeft
          · split at inRight
            case h_1 => cases inRight
            case h_2 => exact rightLevel _ _ below level inRight
  | not inner innerLevel =>
      intro state depth within level visited
      simp only [visitedLevels, List.mem_cons] at visited
      rcases visited with rfl | visited
      · exact within
      · split at visited
        case h_1 => cases visited
        case h_2 entered enters =>
          have below := Nat.succ_le_succ (enterNode_ok_iff.mp enters).1
          exact innerLevel _ _ below level visited

end Acceptance

/-- Started on the first level with no nodes, the compiler accepts exactly the trees within
both limits whose leaves are valid, refuses all others alike, and never goes beyond a limit
by more than one node or level. -/
theorem predicates_accepted_iff (schema : CollectionSchema) (node : PredicateNode R)
    (sql : String) (values : List (Value R)) :
    ((∃ compiled, compilePredicate schema node { sql := sql, values := values, nodes := 0 } 1 =
        .ok compiled) ↔
      node.height ≤ maxPredicateDepth ∧ node.size ≤ maxPredicateNodes ∧
        node.LeavesValid schema) ∧
    (∀ failure, compilePredicate schema node { sql := sql, values := values, nodes := 0 } 1 =
      .error failure → failure = invalidQuery) ∧
    (visitedLevels schema node { sql := sql, values := values, nodes := 0 } 1).length ≤
      maxPredicateNodes + 1 ∧
    ∀ level ∈ visitedLevels schema node { sql := sql, values := values, nodes := 0 } 1,
      level ≤ maxPredicateDepth + 1 := by
  refine ⟨?_, compilePredicate_refuses node _ _, ?_, ?_⟩
  · rw [compilePredicate_fits node]
    constructor
    · rintro ⟨levels, count, leaves⟩
      dsimp only at count
      exact ⟨by omega, by omega, leaves⟩
    · rintro ⟨levels, count, leaves⟩
      exact ⟨by omega, by dsimp only; omega, leaves⟩
  · have counted := @visitedLevels_count R _ schema node
      { sql := sql, values := values, nodes := 0 } 1 (Nat.zero_le _)
    rwa [Nat.zero_add] at counted
  · exact visitedLevels_level node _ 1 (by decide)

end Csgdb.Query
