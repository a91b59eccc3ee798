/-
Module: Csgdb.Sql.Selection
Purpose: Ordered selections under any comparison of cells: the rows with which an
  engine may answer, and the orders that leave it no choice.
Trusted boundary: none
Main exports: Collation, Collation.Answers, KeyedRows, SelectEngine,
  Answers.exists_of_bound, Answers.unique, Answers.take, sortingEngine
-/
import Csgdb.Sql.Meaning
import Mathlib.Data.List.Pairwise

namespace Sql

variable {Cell : Type}

/-! ## Comparing rows -/

/-- How the cells of every column compare: by a total preorder for each column. -/
structure Collation (Cell : Type) where
  compare : String → Cell → Cell → Ordering
  preorder : ∀ column, Std.TransCmp (compare column)

namespace Collation

variable (collation : Collation Cell)

/-- Compares two rows by one term. -/
def compareTerm (term : OrderTerm) (left right : Row Cell) : Ordering :=
  match term.direction with
  | .ascending => collation.compare term.column (left term.column) (right term.column)
  | .descending => collation.compare term.column (right term.column) (left term.column)

/-- Compares two rows by the terms of an order, the first one first. -/
def compareRows : List OrderTerm → Row Cell → Row Cell → Ordering
  | [] => fun _ _ => .eq
  | term :: rest => compareLex (collation.compareTerm term) (compareRows rest)

/-- Whether a row may stand before another. -/
def precedes (order : List OrderTerm) (left right : Row Cell) : Bool :=
  (collation.compareRows order left right).isLE

theorem compareTerm_preorder (term : OrderTerm) :
    Std.TransCmp (collation.compareTerm term) := by
  have preorder := collation.preorder term.column
  have swaps : Std.OrientedCmp (collation.compareTerm term) := by
    constructor
    intro left right
    cases direction : term.direction with
    | ascending =>
        simp only [compareTerm, direction]
        exact Std.OrientedCmp.eq_swap
    | descending =>
        simp only [compareTerm, direction]
        exact Std.OrientedCmp.eq_swap
  apply Std.TransCmp.mk
  intro first second third before behind
  cases direction : term.direction with
  | ascending =>
      simp only [compareTerm, direction] at before behind ⊢
      exact Std.TransCmp.isLE_trans before behind
  | descending =>
      simp only [compareTerm, direction] at before behind ⊢
      exact Std.TransCmp.isLE_trans behind before

theorem compareRows_preorder (order : List OrderTerm) :
    Std.TransCmp (collation.compareRows order) := by
  induction order with
  | nil => exact { eq_swap := rfl, isLE_trans := fun _ _ => rfl }
  | cons term rest inductionHypothesis =>
      have preorder := collation.compareTerm_preorder term
      exact inferInstanceAs (Std.TransCmp (compareLex _ _))

theorem precedes_trans {order : List OrderTerm} (first second third : Row Cell)
    (before : collation.precedes order first second = true)
    (behind : collation.precedes order second third = true) :
    collation.precedes order first third = true := by
  have preorder := collation.compareRows_preorder order
  exact Std.TransCmp.isLE_trans before behind

theorem precedes_total {order : List OrderTerm} (first second : Row Cell) :
    (collation.precedes order first second || collation.precedes order second first) =
      true := by
  have preorder := collation.compareRows_preorder order
  have swapped : collation.compareRows order first second =
      (collation.compareRows order second first).swap := Std.OrientedCmp.eq_swap
  unfold precedes
  rw [swapped]
  cases collation.compareRows order second first <;> rfl

variable {collation}

/-- Rows that compare equal do so by every term. -/
theorem compareRows_eq_iff {order : List OrderTerm} {left right : Row Cell} :
    collation.compareRows order left right = .eq ↔
      ∀ term ∈ order, collation.compareTerm term left right = .eq := by
  induction order with
  | nil => simp [compareRows]
  | cons term rest inductionHypothesis =>
      simp only [compareRows, compareLex_eq_eq, List.forall_mem_cons, inductionHypothesis]

/-- Rows that may stand in either order agree in every column of the order. -/
theorem compare_eq_of_precedes {order : List OrderTerm} {left right : Row Cell}
    (before : collation.precedes order left right = true)
    (behind : collation.precedes order right left = true) {column : String}
    (named : column ∈ order.map OrderTerm.column) :
    collation.compare column (left column) (right column) = .eq := by
  have preorder := collation.compareRows_preorder order
  obtain ⟨term, member, rfl⟩ := List.mem_map.mp named
  have equal := Std.OrientedCmp.isLE_antisymm before behind
  have termEqual := compareRows_eq_iff.mp equal term member
  have columnPreorder := collation.preorder term.column
  unfold compareTerm at termEqual
  cases direction : term.direction with
  | ascending =>
      rw [direction] at termEqual
      exact termEqual
  | descending =>
      rw [direction] at termEqual
      exact Std.OrientedCmp.eq_symm termEqual

end Collation

/-! ## Selecting rows -/

section Selection

variable [Scalar Cell]

namespace Collation

variable (collation : Collation Cell)

/-- The truth value of a search condition when every column has its own comparison. -/
def evaluate (row : Row Cell) : BoundCondition Cell → Truth
  | .compare column op value =>
      if Scalar.isNull (row column) || Scalar.isNull value then
        .unknown
      else
        .ofBool (op.accepts (collation.compare column (row column) value))
  | .isNull column => .ofBool (Scalar.isNull (row column))
  | .isNotNull column => .ofBool (!Scalar.isNull (row column))
  | .and left right => (evaluate row left).and (evaluate row right)
  | .or left right => (evaluate row left).or (evaluate row right)
  | .not inner => (evaluate row inner).not

def selects (filter : BoundFilter Cell) (row : Row Cell) : Bool :=
  match filter with
  | .all => true
  | .condition search => collation.evaluate row search == .isTrue

/-- The answers to a query: the selected rows in some arrangement that the order
allows, up to the limit. -/
def Answers (filter : BoundFilter Cell) (order : List OrderTerm) (count : Nat)
    (content answer : List (Row Cell)) : Prop :=
  ∃ arranged : List (Row Cell),
    arranged.Perm (content.filter (collation.selects filter)) ∧
      arranged.Pairwise (fun left right => collation.precedes order left right = true) ∧
      answer = arranged.take count

end Collation

/-- Rows of a table whose key is present and tells any two of them apart. -/
structure KeyedRows (collation : Collation Cell) (key : String) where
  rows : List (Row Cell)
  keys_distinct : rows.Pairwise fun left right =>
    collation.compare key (left key) (right key) ≠ .eq
  keys_notNull : ∀ row ∈ rows, Scalar.isNull (row key) = false

namespace KeyedRows

variable {collation : Collation Cell} {key : String}

theorem eq_of_compare (content : KeyedRows collation key) {left right : Row Cell}
    (inLeft : left ∈ content.rows) (inRight : right ∈ content.rows)
    (equal : collation.compare key (left key) (right key) = .eq) : left = right := by
  have preorder := collation.preorder key
  apply Classical.byContradiction
  intro different
  have symmetric : Std.Symm fun one two : Row Cell =>
      collation.compare key (one key) (two key) ≠ .eq :=
    ⟨fun _ _ apart same => apart (Std.OrientedCmp.eq_symm same)⟩
  exact content.keys_distinct.forall inLeft inRight different equal

end KeyedRows

namespace Collation.Answers

variable {collation : Collation Cell} {filter : BoundFilter Cell} {order : List OrderTerm}
variable {count : Nat} {content answer : List (Row Cell)}

theorem length_le (answers : collation.Answers filter order count content answer) :
    answer.length ≤ count := by
  obtain ⟨arranged, -, -, rfl⟩ := answers
  exact List.length_take_le count arranged

/-- Sorting gives an answer. -/
theorem mergeSort (collation : Collation Cell) (filter : BoundFilter Cell)
    (order : List OrderTerm) (count : Nat) (content : List (Row Cell)) :
    collation.Answers filter order count content
      (((content.filter (collation.selects filter)).mergeSort
        (collation.precedes order)).take count) := by
  refine ⟨_, List.mergeSort_perm _ _, ?_, rfl⟩
  apply List.pairwise_mergeSort
  · intro first second third
    exact collation.precedes_trans first second third
  · intro first second
    exact collation.precedes_total first second

/-- A row is in an unbounded enough answer exactly when it is selected; at least one
row is answered when one is selected. -/
theorem ne_nil_iff (answers : collation.Answers filter order count content answer)
    (bounded : 0 < count) :
    answer ≠ [] ↔ ∃ row ∈ content, collation.selects filter row = true := by
  obtain ⟨arranged, perm, -, rfl⟩ := answers
  have someArranged : arranged ≠ [] ↔ content.filter (collation.selects filter) ≠ [] := by
    rw [Ne, Ne, not_iff_not]
    constructor
    · rintro rfl
      exact perm.nil_eq.symm
    · intro none
      rw [none] at perm
      exact perm.eq_nil
  rw [Ne, List.take_eq_nil_iff, not_or, and_iff_right (Nat.pos_iff_ne_zero.mp bounded),
    ← Ne, someArranged, Ne, List.filter_eq_nil_iff]
  simp

/-- Only one arrangement remains when the order names a column that tells the rows
apart, whatever the physical order of the rows. -/
theorem arranged_unique {key : String} (keyed : key ∈ order.map OrderTerm.column)
    {first second : KeyedRows collation key} (samePerm : first.rows.Perm second.rows)
    {one two : List (Row Cell)}
    (onePerm : one.Perm (first.rows.filter (collation.selects filter)))
    (oneSorted : one.Pairwise fun left right => collation.precedes order left right = true)
    (twoPerm : two.Perm (second.rows.filter (collation.selects filter)))
    (twoSorted : two.Pairwise fun left right => collation.precedes order left right = true) :
    one = two := by
  have perm : one.Perm two := onePerm.trans ((samePerm.filter _).trans twoPerm.symm)
  apply List.Perm.eq_of_pairwise ?_ oneSorted twoSorted perm
  intro left right inOne inTwo before behind
  have leftIn := (List.mem_filter.mp (onePerm.mem_iff.mp inOne)).1
  have rightIn := (List.mem_filter.mp (twoPerm.mem_iff.mp inTwo)).1
  apply first.eq_of_compare leftIn (samePerm.mem_iff.mpr rightIn)
  exact compare_eq_of_precedes before behind keyed

/-- The answers to a smaller and to a larger limit, over two physical orders of the
rows: the smaller one is the beginning of the larger one. -/
theorem take {key : String} (keyed : key ∈ order.map OrderTerm.column)
    {first second : KeyedRows collation key} (samePerm : first.rows.Perm second.rows)
    {more : Nat} {longer : List (Row Cell)} (fewer : count ≤ more)
    (answers : collation.Answers filter order count first.rows answer)
    (longerAnswers : collation.Answers filter order more second.rows longer) :
    answer = longer.take count := by
  obtain ⟨one, onePerm, oneSorted, rfl⟩ := answers
  obtain ⟨two, twoPerm, twoSorted, rfl⟩ := longerAnswers
  rw [arranged_unique keyed samePerm onePerm oneSorted twoPerm twoSorted, List.take_take,
    Nat.min_eq_left fewer]

/-- A query whose order names the key has one answer, over every physical order. -/
theorem unique {key : String} (keyed : key ∈ order.map OrderTerm.column)
    {first second : KeyedRows collation key} (samePerm : first.rows.Perm second.rows)
    {other : List (Row Cell)}
    (answers : collation.Answers filter order count first.rows answer)
    (otherAnswers : collation.Answers filter order count second.rows other) :
    answer = other := by
  rw [take keyed samePerm (Nat.le_refl count) answers otherAnswers]
  exact List.take_of_length_le otherAnswers.length_le

end Collation.Answers

/-! ## Engines -/

/-- An engine that executes selections: its answer to a query of a table is one that
the query allows.  `countOf` reads the count that is bound to a limit. -/
structure SelectEngine (Cell : Type) [Scalar Cell] (countOf : Cell → Option Nat) where
  collation : Collation Cell
  select : (String → Option (List (Row Cell))) → List Cell → Statement →
    Except Failure (List (Row Cell))
  select_known : ∀ {tables : String → Option (List (Row Cell))} {values : List Cell}
    {projection : Projection} {target : String} {filter : Filter} {order : List OrderTerm}
    {limit : Term} {content : List (Row Cell)} {bound : BoundFilter Cell} {count : Nat},
    tables target = some content → filter.bind values = some bound →
      limit.count countOf values = some count →
        ∃ answer, select tables values (.select projection target filter order limit) =
          .ok answer ∧ collation.Answers bound order count content answer
  select_unknown : ∀ {tables : String → Option (List (Row Cell))} {values : List Cell}
    {projection : Projection} {target : String} {filter : Filter} {order : List OrderTerm}
    {limit : Term}, tables target = none →
      select tables values (.select projection target filter order limit) = .error .misuse

/-- The engine that sorts the selected rows. -/
def sortingSelect (collation : Collation Cell) (countOf : Cell → Option Nat)
    (tables : String → Option (List (Row Cell))) (values : List Cell) :
    Statement → Except Failure (List (Row Cell))
  | .select _ target filter order limit =>
      match tables target, filter.bind values, limit.count countOf values with
      | some content, some bound, some count =>
          .ok (((content.filter (collation.selects bound)).mergeSort
            (collation.precedes order)).take count)
      | _, _, _ => .error .misuse
  | _ => .error .misuse

def sortingEngine (collation : Collation Cell) (countOf : Cell → Option Nat) :
    SelectEngine Cell countOf where
  collation := collation
  select := sortingSelect collation countOf
  select_known := by
    intro tables values projection target filter order limit content bound count known
      binds counts
    refine ⟨_, ?_, Collation.Answers.mergeSort collation bound order count content⟩
    simp only [sortingSelect, known, binds, counts]
  select_unknown := by
    intro tables values projection target filter order limit unknown
    simp only [sortingSelect, unknown]

/-! ## One comparison for all columns -/

/-- The collation of an engine that compares the cells of all columns alike. -/
def scalarCollation (preorder : Std.TransCmp (@Scalar.order Cell _)) :
    Collation Cell where
  compare := fun _ => Scalar.order
  preorder := fun _ => preorder

variable {preorder : Std.TransCmp (@Scalar.order Cell _)}

theorem scalarCollation_evaluate (row : Row Cell) (search : BoundCondition Cell) :
    (scalarCollation preorder).evaluate row search = search.evaluate row := by
  induction search with
  | compare column op value => rfl
  | isNull column => rfl
  | isNotNull column => rfl
  | and left right sameLeft sameRight =>
      rw [Collation.evaluate, BoundCondition.evaluate, sameLeft, sameRight]
  | or left right sameLeft sameRight =>
      rw [Collation.evaluate, BoundCondition.evaluate, sameLeft, sameRight]
  | not inner same => rw [Collation.evaluate, BoundCondition.evaluate, same]

theorem scalarCollation_precedes (order : List OrderTerm) (left right : Row Cell) :
    (scalarCollation preorder).precedes order left right = precedes order left right := by
  induction order with
  | nil => rfl
  | cons term rest inductionHypothesis =>
      have swapped : Scalar.order (right term.column) (left term.column) =
          (Scalar.order (left term.column) (right term.column)).swap :=
        Std.OrientedCmp.eq_swap
      rw [precedes, ← inductionHypothesis]
      simp only [Collation.precedes, Collation.compareRows, compareLex,
        Collation.compareTerm, scalarCollation]
      cases term.direction with
      | ascending =>
          cases Scalar.order (left term.column) (right term.column) <;> rfl
      | descending =>
          rw [swapped]
          cases Scalar.order (left term.column) (right term.column) <;> rfl

theorem scalarCollation_selects (bound : BoundFilter Cell) (row : Row Cell) :
    (scalarCollation preorder).selects bound row = bound.selects row := by
  cases bound with
  | all => rfl
  | condition search =>
      rw [Collation.selects, scalarCollation_evaluate, BoundFilter.selects]

end Selection

end Sql
