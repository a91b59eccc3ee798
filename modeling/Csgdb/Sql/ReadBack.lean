/-
Module: Csgdb.Sql.ReadBack
Purpose: Every statement of the fragment is read back from its own tokens.
Trusted boundary: none
Main exports: parseCondition_tokens, parseList_listTokens, parseStatement_tokens
-/
import Csgdb.Sql.Grammar

namespace Sql

/-! ## Single tokens -/

@[simp] theorem expect_self (token : Token) (rest : List Token) :
    expect token (token :: rest) = some rest := by
  simp [expect]

theorem expect_of_ne {token other : Token} (differ : other ≠ token)
    (rest : List Token) : expect token (other :: rest) = none := by
  simp [expect, differ]

@[simp] theorem parseName_identifier (name : String) (rest : List Token) :
    parseName (.identifier name :: rest) = some (name, rest) := rfl

@[simp] theorem parseCompareOp_token (op : CompareOp) (rest : List Token) :
    parseCompareOp (op.token :: rest) = some (op, rest) := by
  cases op <;> rfl

@[simp] theorem parseParameter_some (number : Nat) (rest : List Token) :
    parseParameter (.parameter (some number) :: rest) = some (number, rest) := rfl

@[simp] theorem parseTerm_token (term : Term) (rest : List Token) :
    parseTerm (term.token :: rest) = some (term, rest) := by
  cases term <;> rfl

/-! ## Conditions -/

/-- Nesting depth of a condition. -/
def Condition.depth : Condition → Nat
  | .compare _ _ _ | .isNull _ | .isNotNull _ => 1
  | .and left right | .or left right => max left.depth right.depth + 1
  | .not inner => inner.depth + 1

/-- Tokens are enough fuel to read a condition. -/
theorem Condition.depth_le_length (condition : Condition) :
    condition.depth ≤ condition.tokens.length := by
  induction condition with
  | compare | isNull | isNotNull => simp [depth, tokens]
  | and left right leftHypothesis rightHypothesis
  | or left right leftHypothesis rightHypothesis =>
      simp only [depth, tokens, List.length_cons, List.length_append]
      omega
  | not inner inductionHypothesis =>
      simp only [depth, tokens, List.length_cons, List.length_append]
      omega

/-- Every condition is written in parentheses. -/
theorem Condition.tokens_eq_cons (condition : Condition) :
    ∃ tail, condition.tokens = .leftParen :: tail := by
  cases condition <;> exact ⟨_, rfl⟩

theorem parseTest_compare (column : String) (op : CompareOp) (parameter : Nat)
    (rest : List Token) :
    parseTest column (op.token :: .parameter (some parameter) :: rest) =
      some (.compare column op parameter, rest) := by
  cases op <;> rfl

theorem parseTest_isNull (column : String) (rest : List Token) :
    parseTest column (.word "IS" :: .word "NULL" :: rest) =
      some (.isNull column, rest) := by
  simp [parseTest, expectAll]

theorem parseTest_isNotNull (column : String) (rest : List Token) :
    parseTest column (.word "IS" :: .word "NOT" :: .word "NULL" :: rest) =
      some (.isNotNull column, rest) := by
  have notNull : expect (.word "NULL") (.word "NOT" :: .word "NULL" :: rest) = none :=
    expect_of_ne (by decide) _
  simp [parseTest, expectAll, notNull]

/-- A condition is read back from its tokens, whatever follows it. -/
theorem parseCondition_tokens :
    ∀ (condition : Condition) (fuel : Nat) (rest : List Token),
      condition.depth ≤ fuel →
        parseCondition fuel (condition.tokens ++ rest) = some (condition, rest) := by
  intro condition
  induction condition with
  | compare column op parameter =>
      intro fuel rest enough
      obtain ⟨fuel, rfl⟩ : ∃ less, fuel = less + 1 :=
        ⟨fuel - 1, by simp only [Condition.depth] at enough; omega⟩
      simp [parseCondition, Condition.tokens, parseTest_compare]
  | isNull column =>
      intro fuel rest enough
      obtain ⟨fuel, rfl⟩ : ∃ less, fuel = less + 1 :=
        ⟨fuel - 1, by simp only [Condition.depth] at enough; omega⟩
      simp [parseCondition, Condition.tokens, parseTest_isNull]
  | isNotNull column =>
      intro fuel rest enough
      obtain ⟨fuel, rfl⟩ : ∃ less, fuel = less + 1 :=
        ⟨fuel - 1, by simp only [Condition.depth] at enough; omega⟩
      simp [parseCondition, Condition.tokens, parseTest_isNotNull]
  | and left right leftHypothesis rightHypothesis =>
      intro fuel rest enough
      simp only [Condition.depth] at enough
      obtain ⟨fuel, rfl⟩ : ∃ less, fuel = less + 1 := ⟨fuel - 1, by omega⟩
      have readLeft := leftHypothesis fuel
        (.word "AND" :: (right.tokens ++ .rightParen :: rest)) (by omega)
      have readRight := rightHypothesis fuel (.rightParen :: rest) (by omega)
      obtain ⟨tail, opened⟩ := left.tokens_eq_cons
      rw [opened, List.cons_append] at readLeft
      simp [parseCondition, Condition.tokens, opened, readLeft, readRight]
  | or left right leftHypothesis rightHypothesis =>
      intro fuel rest enough
      simp only [Condition.depth] at enough
      obtain ⟨fuel, rfl⟩ : ∃ less, fuel = less + 1 := ⟨fuel - 1, by omega⟩
      have readLeft := leftHypothesis fuel
        (.word "OR" :: (right.tokens ++ .rightParen :: rest)) (by omega)
      have readRight := rightHypothesis fuel (.rightParen :: rest) (by omega)
      obtain ⟨tail, opened⟩ := left.tokens_eq_cons
      rw [opened, List.cons_append] at readLeft
      simp [parseCondition, Condition.tokens, opened, readLeft, readRight]
  | not inner inductionHypothesis =>
      intro fuel rest enough
      simp only [Condition.depth] at enough
      obtain ⟨fuel, rfl⟩ : ∃ less, fuel = less + 1 := ⟨fuel - 1, by omega⟩
      have readInner := inductionHypothesis fuel (.rightParen :: rest) (by omega)
      simp [parseCondition, Condition.tokens, readInner]

/-! ## Lists -/

section Lists

variable {α : Type} {item : List Token → Option (α × List Token)}
  {write : α → List Token} {follow : List Token → Prop}

/-- A nonempty list is read back when each item is, before a comma and before
what follows the list. -/
theorem parseList_listTokens
    (reads : ∀ value rest, follow rest → item (write value ++ rest) = some (value, rest))
    (followComma : ∀ rest, follow (.comma :: rest)) {rest : List Token}
    (follows : follow rest) (noComma : ∀ tail, rest ≠ .comma :: tail) :
    ∀ {values : List α} {fuel : Nat}, values ≠ [] → values.length ≤ fuel →
      parseList item fuel (listTokens write values ++ rest) = some (values, rest)
  | [], _, nonempty, _ => absurd rfl nonempty
  | [value], fuel, _, enough => by
      obtain ⟨fuel, rfl⟩ : ∃ less, fuel = less + 1 :=
        ⟨fuel - 1, by simp only [List.length_singleton] at enough; omega⟩
      simp only [listTokens, parseList, reads value rest follows, Option.bind_some]
  | value :: next :: others, fuel, _, enough => by
      simp only [List.length_cons] at enough
      obtain ⟨fuel, rfl⟩ : ∃ less, fuel = less + 1 := ⟨fuel - 1, by omega⟩
      have readOthers := (@parseList_listTokens reads followComma rest follows noComma
        (next :: others) fuel) (by simp)
        (by simp only [List.length_cons]; omega)
      simp only [listTokens, parseList, List.append_assoc, List.cons_append,
        reads value _ (followComma _), Option.bind_some, readOthers, Option.map_some]

/-- A list has at least as many tokens as members. -/
theorem length_le_listTokens (nonempty : ∀ value, write value ≠ []) :
    ∀ values : List α, values.length ≤ (listTokens write values).length
  | [] => Nat.le_refl _
  | [value] => by
      have positive := List.length_pos_of_ne_nil (nonempty value)
      exact positive
  | value :: next :: others => by
      have rest := length_le_listTokens nonempty (next :: others)
      have positive := List.length_pos_of_ne_nil (nonempty value)
      simp only [listTokens, List.length_append, List.length_cons] at rest ⊢
      omega

/-- The list parser with the fuel the statements give it. -/
theorem parseList_all
    (reads : ∀ value rest, follow rest → item (write value ++ rest) = some (value, rest))
    (nonemptyItem : ∀ value, write value ≠ [])
    (followComma : ∀ rest, follow (.comma :: rest)) {rest : List Token}
    (follows : follow rest) (noComma : ∀ tail, rest ≠ .comma :: tail)
    {values : List α} (nonempty : values ≠ []) :
    parseList item (listTokens write values ++ rest).length
        (listTokens write values ++ rest) = some (values, rest) := by
  apply parseList_listTokens reads followComma follows noComma nonempty
  have enough := length_le_listTokens nonemptyItem values
  simp only [List.length_append]
  omega

/-- A list in parentheses is read back when its members are. -/
theorem parseGroup_listTokens
    (reads : ∀ value rest, follow rest → item (write value ++ rest) = some (value, rest))
    (nonemptyItem : ∀ value, write value ≠ [])
    (followComma : ∀ rest, follow (.comma :: rest))
    (followParen : ∀ rest, follow (.rightParen :: rest))
    {values : List α} (nonempty : values ≠ []) (rest : List Token) :
    parseGroup item (.leftParen :: (listTokens write values ++ .rightParen :: rest)) =
      some (values, rest) := by
  have items := parseList_all reads nonemptyItem followComma
    (followParen rest) (by simp) nonempty
  simp [parseGroup, items, -List.length_append, -List.length_cons]

end Lists

theorem parseName_reads (name : String) (rest : List Token) (_ : True) :
    parseName (nameTokens name ++ rest) = some (name, rest) := rfl

theorem parseTerm_reads (term : Term) (rest : List Token) (_ : True) :
    parseTerm ([term.token] ++ rest) = some (term, rest) :=
  parseTerm_token term rest

theorem parseOrderTerm_reads (term : OrderTerm) (rest : List Token) (_ : True) :
    parseOrderTerm (term.tokens ++ rest) = some (term, rest) := by
  obtain ⟨column, direction⟩ := term
  cases direction <;> simp [parseOrderTerm, OrderTerm.tokens]

theorem parseAssignment_reads (assignment : Assignment) (rest : List Token)
    (_ : True) :
    parseAssignment (assignment.tokens ++ rest) = some (assignment, rest) := by
  simp [parseAssignment, Assignment.tokens]

/-- No further word follows a column definition. -/
def NoWord (rest : List Token) : Prop :=
  ∀ text tail, rest ≠ .word text :: tail

theorem expect_word_of_noWord {rest : List Token} (noWord : NoWord rest)
    (text : String) : expect (.word text) rest = none := by
  cases rest with
  | nil => rfl
  | cons token tail =>
      exact expect_of_ne (fun same => noWord text tail (by rw [same])) tail

/-- The constraints of a column end where no word follows. -/
theorem parseColumnDefinition_reads (column : ColumnDefinition) (rest : List Token)
    (noWord : NoWord rest) :
    parseColumnDefinition (column.tokens ++ rest) = some (column, rest) := by
  obtain ⟨name, type, notNull, primaryKey⟩ := column
  have noNot := expect_word_of_noWord noWord "NOT"
  have noPrimary := expect_word_of_noWord noWord "PRIMARY"
  have primaryIsNotNot : expect (.word "NOT")
      (.word "PRIMARY" :: .word "KEY" :: rest) = none := expect_of_ne (by decide) _
  cases notNull <;> cases primaryKey <;>
    simp [parseColumnDefinition, ColumnDefinition.tokens, parseFlag, expectAll,
      noNot, noPrimary, primaryIsNotNot]

/-! ## Statements -/

/-- The clauses that need an item have one. -/
def Statement.NonEmpty : Statement → Prop
  | .select (.columns names) _ _ _ _ => names ≠ []
  | .select .one _ _ _ _ => True
  | .insert _ columns values => columns ≠ [] ∧ values ≠ []
  | .update _ assignments _ => assignments ≠ []
  | .delete _ _ => True
  | .createTable _ columns => columns ≠ []
  | .createIndex _ _ _ columns => columns ≠ []
  | .dropIndex _ => True

/-- A filter is read back when what follows is no filter of its own. -/
theorem parseFilter_tokens (filter : Filter) {rest : List Token}
    (noWhere : expect (.word "WHERE") rest = none) :
    parseFilter (filter.tokens ++ rest) = some (filter, rest) := by
  cases filter with
  | all => simp [parseFilter, Filter.tokens, noWhere]
  | key column parameter => simp [parseFilter, Filter.tokens]
  | condition search =>
      have enough : search.depth ≤ (search.tokens ++ rest).length := by
        have bound := search.depth_le_length
        simp only [List.length_append]
        omega
      have readSearch := parseCondition_tokens search _ rest enough
      obtain ⟨tail, opened⟩ := search.tokens_eq_cons
      rw [opened, List.cons_append] at readSearch
      simp [parseFilter, Filter.tokens, opened, readSearch, -List.length_append,
        -List.length_cons]

/-- An order is read back, also when there is none. -/
theorem parseOrder_tokens (order : List OrderTerm) {rest : List Token}
    (noOrder : expect (.word "ORDER") rest = none)
    (noComma : ∀ tail, rest ≠ .comma :: tail) :
    parseOrder (orderTokens order ++ rest) = some (order, rest) := by
  cases order with
  | nil => simp [parseOrder, orderTokens, expectAll, noOrder]
  | cons term terms =>
      have items := (@parseList_all _ _ _ (fun _ => True)) parseOrderTerm_reads
        (by simp [OrderTerm.tokens]) (fun _ => trivial) trivial noComma
        (List.cons_ne_nil term terms)
      simp [parseOrder, orderTokens, expectAll, items,
        -List.length_append, -List.length_cons]

/-- A projection is read back when something other than a comma follows. -/
theorem parseProjection_tokens (projection : Projection) {rest : List Token}
    (nonempty : ∀ names, projection = .columns names → names ≠ [])
    (noComma : ∀ tail, rest ≠ .comma :: tail) :
    parseProjection (projection.tokens ++ rest) = some (projection, rest) := by
  cases projection with
  | one => simp [parseProjection, Projection.tokens]
  | columns names =>
      have items := (@parseList_all _ _ _ (fun _ => True)) parseName_reads
        (by simp [nameTokens]) (fun _ => trivial) trivial noComma (nonempty names rfl)
      obtain ⟨name, others, rfl⟩ := List.exists_cons_of_ne_nil (nonempty names rfl)
      have opened : ∃ tail, listTokens nameTokens (name :: others) =
          .identifier name :: tail := by
        cases others <;> exact ⟨_, rfl⟩
      obtain ⟨tail, opened⟩ := opened
      rw [opened, List.cons_append] at items
      simp [parseProjection, Projection.tokens, opened, items, -List.length_append,
        -List.length_cons]

theorem orderTokens_of_ne_nil {order : List OrderTerm} (nonempty : order ≠ []) :
    orderTokens order =
      .word "ORDER" :: .word "BY" :: listTokens OrderTerm.tokens order := by
  cases order with
  | nil => exact absurd rfl nonempty
  | cons term terms => rfl

theorem orderTokens_head (order : List OrderTerm) (rest : List Token) :
    expect (.word "WHERE") (orderTokens order ++ .word "LIMIT" :: rest) = none := by
  cases order with
  | nil => exact expect_of_ne (by decide) _
  | cons term terms => exact expect_of_ne (by decide) _

/-- Every statement of the fragment is read back from its tokens. -/
theorem parseStatement_tokens (statement : Statement) (nonempty : statement.NonEmpty) :
    parseStatement statement.tokens = some statement := by
  cases statement with
  | select projection table filter order limit =>
      have readLimit : expect (.word "ORDER") [.word "LIMIT", limit.token] = none :=
        expect_of_ne (by decide) _
      have readOrder := parseOrder_tokens order readLimit (by simp)
      have readFilter := parseFilter_tokens filter (orderTokens_head order [limit.token])
      have readProjection := (@parseProjection_tokens projection
        (.word "FROM" :: .identifier table ::
          (filter.tokens ++ (orderTokens order ++ [.word "LIMIT", limit.token]))))
        (by
          intro names same
          subst same
          exact nonempty)
        (by simp)
      simp [parseStatement, Statement.tokens, parseSelect, readProjection, readFilter,
        readOrder]
  | insert table columns values =>
      have readColumns := fun rest => (@parseGroup_listTokens _ _ _ (fun _ => True))
        parseName_reads (by simp [nameTokens]) (fun _ => trivial) (fun _ => trivial)
        nonempty.1 rest
      have readValues := (@parseGroup_listTokens _ _ _ (fun _ => True))
        parseTerm_reads (by simp) (fun _ => trivial) (fun _ => trivial) nonempty.2 []
      simp [parseStatement, Statement.tokens, parseInsert, readColumns, readValues]
  | update table assignments filter =>
      have readFilter := (@parseFilter_tokens filter []) rfl
      rw [List.append_nil] at readFilter
      have noComma : ∀ tail, filter.tokens ≠ .comma :: tail := by
        intro tail
        cases filter <;> simp [Filter.tokens]
      have readAssignments := (@parseList_all _ _ _ (fun _ => True))
        parseAssignment_reads (by simp [Assignment.tokens]) (fun _ => trivial) trivial
        noComma nonempty
      simp [parseStatement, Statement.tokens, parseUpdate, readAssignments, readFilter,
        -List.length_append]
  | delete table filter =>
      have readFilter := (@parseFilter_tokens filter []) rfl
      rw [List.append_nil] at readFilter
      simp [parseStatement, Statement.tokens, parseDelete, readFilter]
  | createTable table columns =>
      have readColumns := (@parseGroup_listTokens _ _ _ NoWord)
        parseColumnDefinition_reads (by simp [ColumnDefinition.tokens])
        (by simp [NoWord]) (by simp [NoWord]) nonempty []
      simp [parseStatement, Statement.tokens, parseCreate, parseCreateTable, expectAll,
        readColumns]
  | createIndex unique name table columns =>
      have readColumns := (@parseGroup_listTokens _ _ _ (fun _ => True))
        parseName_reads (by simp [nameTokens]) (fun _ => trivial) (fun _ => trivial)
        nonempty []
      cases unique <;>
        simp [parseStatement, Statement.tokens, parseCreate, parseCreateIndex, parseFlag,
          expectAll, expect, readColumns]
  | dropIndex name => simp [parseStatement, Statement.tokens, parseDrop, expectAll]

end Sql
