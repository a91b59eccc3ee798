/-
Module: Csgdb.Proofs.QueryMeaning
Purpose: The typed query compiler preserves meaning: the SQL text it writes
  reads back as the query it was given, with every bound value in its place.
Trusted boundary: none
Main exports: compilePredicate_spec, lex_text, bind_condition, evaluate_bound,
  compiled_queries_preserve_meaning
-/
import Csgdb.Query.Compile
import Csgdb.Sql.Text
import Csgdb.Storage.Statement

namespace Csgdb.Query

open Foundation Sql

variable {R : Type}

/-! ## Identifiers -/

theorem pushIdentifierChars_eq (sql name : List Char) :
    pushIdentifierChars sql name = sql ++ name.flatMap escapeQuote := by
  induction name generalizing sql with
  | nil => simp [pushIdentifierChars]
  | cons character rest inductionHypothesis =>
      by_cases isQuote : character = '"'
      · simp [pushIdentifierChars, isQuote, inductionHypothesis, escapeQuote]
      · simp [pushIdentifierChars, isQuote, inductionHypothesis, escapeQuote]

/-- `push_identifier` appends the quoted identifier. -/
theorem pushIdentifier_eq (sql identifier : String) :
    pushIdentifier sql identifier = sql ++ quoted identifier := by
  apply String.toList_inj.mp
  unfold pushIdentifier
  rw [String.toList_ofList, pushIdentifierChars_eq, String.toList_append, quoted_toList]
  simp

/-! ## What a predicate should be compiled to -/

/-- The null test that a comparison stands for, if it is one. -/
def nullTest (comparison : Comparison) (value : Value R) : Option NullComparison :=
  if value.isNull then
    match comparison with
    | .equal => some .isNull
    | .notEqual => some .isNotNull
    | .less | .lessOrEqual | .greater | .greaterOrEqual => none
  else
    none

def NullComparison.tokens : NullComparison → List Token
  | .isNull => [.word "IS", .word "NULL"]
  | .isNotNull => [.word "IS", .word "NOT", .word "NULL"]

def NullComparison.condition (column : String) : NullComparison → Condition
  | .isNull => .isNull column
  | .isNotNull => .isNotNull column

def NullComparison.bound (column : String) :
    NullComparison → BoundCondition (Value R)
  | .isNull => .isNull column
  | .isNotNull => .isNotNull column

namespace PredicateNode

/-- The text behind the column name of a leaf. -/
def testText (comparison : Comparison) (value : Value R) : String :=
  match nullTest comparison value with
  | some test => nullComparisonSql test
  | none => comparisonSql comparison

/-- The SQL text of a predicate. -/
def text : PredicateNode R → String
  | .compare field comparison value =>
      "(" ++ (quoted field.column ++ (testText comparison value ++ ")"))
  | .null field comparison =>
      "(" ++ (quoted field.column ++ (nullComparisonSql comparison ++ ")"))
  | .and left right => "(" ++ (left.text ++ (" AND " ++ (right.text ++ ")")))
  | .or left right => "(" ++ (left.text ++ (" OR " ++ (right.text ++ ")")))
  | .not inner => "(NOT " ++ (inner.text ++ ")")

/-- The values a predicate binds, from left to right. -/
def boundValues : PredicateNode R → List (Value R)
  | .compare _ comparison value =>
      match nullTest comparison value with
      | some _ => []
      | none => [value]
  | .null _ _ => []
  | .and left right | .or left right => left.boundValues ++ right.boundValues
  | .not inner => inner.boundValues

/-- The tokens of the text, with parameters not numbered yet. -/
def tokens : PredicateNode R → List Token
  | .compare field comparison value =>
      .leftParen :: .identifier field.column ::
        ((match nullTest comparison value with
          | some test => test.tokens
          | none => [comparison.op.token, .parameter none]) ++ [.rightParen])
  | .null field comparison =>
      .leftParen :: .identifier field.column :: (comparison.tokens ++ [.rightParen])
  | .and left right =>
      .leftParen :: (left.tokens ++ .word "AND" :: (right.tokens ++ [.rightParen]))
  | .or left right =>
      .leftParen :: (left.tokens ++ .word "OR" :: (right.tokens ++ [.rightParen]))
  | .not inner => .leftParen :: .word "NOT" :: (inner.tokens ++ [.rightParen])

/-- The search condition, its parameters numbered after the first `assigned`. -/
def condition (assigned : Nat) : PredicateNode R → Condition
  | .compare field comparison value =>
      match nullTest comparison value with
      | some test => test.condition field.column
      | none => .compare field.column comparison.op (assigned + 1)
  | .null field comparison => comparison.condition field.column
  | .and left right =>
      .and (left.condition assigned)
        (right.condition (assigned + left.boundValues.length))
  | .or left right =>
      .or (left.condition assigned)
        (right.condition (assigned + left.boundValues.length))
  | .not inner => .not (inner.condition assigned)

/-- The predicate tree as a search condition over values: the same connectives,
fields, comparisons and values, with equality to `NULL` as a null test. -/
def bound : PredicateNode R → BoundCondition (Value R)
  | .compare field comparison value =>
      match nullTest comparison value with
      | some test => test.bound field.column
      | none => .compare field.column comparison.op value
  | .null field comparison => comparison.bound field.column
  | .and left right => .and left.bound right.bound
  | .or left right => .or left.bound right.bound
  | .not inner => .not inner.bound

/-- The columns a predicate mentions can be written as identifiers. -/
def Writable : PredicateNode R → Prop
  | .compare field _ _ | .null field _ => Char.ofNat 0 ∉ field.column.toList
  | .and left right | .or left right => left.Writable ∧ right.Writable
  | .not inner => inner.Writable

/-! ## The text is read as the condition -/

theorem lex_nullComparisonSql (comparison : NullComparison) :
    lex (nullComparisonSql comparison) = some comparison.tokens ∧
      opensSeparated (nullComparisonSql comparison) := by
  cases comparison with
  | isNull => exact ⟨by decide, ' ', by decide, by decide⟩
  | isNotNull => exact ⟨by decide, ' ', by decide, by decide⟩

theorem lex_comparisonSql (comparison : Comparison) :
    lex (comparisonSql comparison) = some [comparison.op.token, .parameter none] ∧
      opensSeparated (comparisonSql comparison) := by
  cases comparison <;> exact ⟨by decide, ' ', by decide, by decide⟩

/-- A parenthesised test of a column. -/
theorem lex_leaf {column test : String} {testTokens : List Token}
    (noNul : Char.ofNat 0 ∉ column.toList) (readTest : lex test = some testTokens)
    (opens : opensSeparated test) :
    lex ("(" ++ (quoted column ++ (test ++ ")"))) =
      some (.leftParen :: .identifier column :: (testTokens ++ [.rightParen])) := by
  have close : lex ")" = some [.rightParen] := by decide
  have closeOpens : opensSeparated ")" := ⟨')', by decide, by decide⟩
  have readClosed := lex_append_opens closeOpens readTest close
  have readColumn := lex_append_opens (opensSeparated_append opens _)
    (lex_quoted noNul) readClosed
  have openEnds : endsSeparated "(" := ⟨'(', by decide, by decide⟩
  have readOpen : lex "(" = some [.leftParen] := by decide
  exact lex_append_ends openEnds readOpen readColumn

/-- Two parenthesised texts joined by a word between blanks. -/
theorem lex_junction {left right joint : String}
    {leftTokens rightTokens jointTokens : List Token}
    (opens : opensSeparated joint) (ends : endsSeparated joint)
    (readJoint : lex joint = some jointTokens)
    (readLeft : lex left = some leftTokens) (readRight : lex right = some rightTokens) :
    lex ("(" ++ (left ++ (joint ++ (right ++ ")")))) =
      some (.leftParen :: (leftTokens ++ (jointTokens ++
        (rightTokens ++ [.rightParen])))) := by
  have close : lex ")" = some [.rightParen] := by decide
  have closeOpens : opensSeparated ")" := ⟨')', by decide, by decide⟩
  have readClosed := lex_append_opens closeOpens readRight close
  have readJoined := lex_append_ends ends readJoint readClosed
  have readAll := lex_append_opens (opensSeparated_append opens _) readLeft readJoined
  have openEnds : endsSeparated "(" := ⟨'(', by decide, by decide⟩
  have readOpen : lex "(" = some [.leftParen] := by decide
  exact lex_append_ends openEnds readOpen readAll

theorem lex_text {node : PredicateNode R} (writable : node.Writable) :
    lex node.text = some node.tokens := by
  induction node with
  | compare field comparison value =>
      simp only [text, testText, tokens]
      cases nullTest comparison value with
      | some test =>
          obtain ⟨readTest, opens⟩ := lex_nullComparisonSql test
          exact lex_leaf writable readTest opens
      | none =>
          obtain ⟨readTest, opens⟩ := lex_comparisonSql comparison
          exact lex_leaf writable readTest opens
  | null field comparison =>
      obtain ⟨readTest, opens⟩ := lex_nullComparisonSql comparison
      exact lex_leaf writable readTest opens
  | and left right leftHypothesis rightHypothesis =>
      have readAnd : lex " AND " = some [.word "AND"] := by decide
      exact lex_junction ⟨' ', by decide, by decide⟩ ⟨' ', by decide, by decide⟩ readAnd
        (leftHypothesis writable.1) (rightHypothesis writable.2)
  | or left right leftHypothesis rightHypothesis =>
      have readOr : lex " OR " = some [.word "OR"] := by decide
      exact lex_junction ⟨' ', by decide, by decide⟩ ⟨' ', by decide, by decide⟩ readOr
        (leftHypothesis writable.1) (rightHypothesis writable.2)
  | not inner inductionHypothesis =>
      have close : lex ")" = some [.rightParen] := by decide
      have closeOpens : opensSeparated ")" := ⟨')', by decide, by decide⟩
      have readNot : lex "(NOT " = some [.leftParen, .word "NOT"] := by decide
      exact lex_append_ends ⟨' ', by decide, by decide⟩ readNot
        (lex_append_opens closeOpens (inductionHypothesis writable) close)

/-- Numbering from left to right gives every parameter the number of its
value. -/
theorem number_tokens (node : PredicateNode R) (assigned : Nat) :
    numberFrom assigned node.tokens = (node.condition assigned).tokens ∧
      largestFrom assigned node.tokens = assigned + node.boundValues.length := by
  induction node generalizing assigned with
  | compare field comparison value =>
      simp only [tokens, condition, boundValues]
      cases nullTest comparison value with
      | some test => cases test <;> exact ⟨rfl, rfl⟩
      | none => cases comparison <;> exact ⟨rfl, rfl⟩
  | null field comparison => cases comparison <;> exact ⟨rfl, rfl⟩
  | and left right leftHypothesis rightHypothesis
  | or left right leftHypothesis rightHypothesis =>
      obtain ⟨leftNumbered, leftLargest⟩ := leftHypothesis assigned
      obtain ⟨rightNumbered, rightLargest⟩ :=
        rightHypothesis (assigned + left.boundValues.length)
      simp only [tokens, condition, boundValues, Condition.tokens, List.length_append,
        numberFrom_append, largestFrom_append, numberFrom, largestFrom, leftNumbered,
        leftLargest, rightNumbered, rightLargest, Nat.add_assoc, and_self]
  | not inner inductionHypothesis =>
      obtain ⟨numbered, largest⟩ := inductionHypothesis assigned
      simp only [tokens, condition, boundValues, Condition.tokens, numberFrom_append,
        largestFrom_append, numberFrom, largestFrom, numbered, largest, and_self]

theorem countP_tokens (node : PredicateNode R) :
    node.tokens.countP Token.isParameter = node.boundValues.length := by
  induction node with
  | compare field comparison value =>
      simp only [tokens, boundValues]
      cases nullTest comparison value with
      | some test => cases test <;> rfl
      | none => cases comparison <;> rfl
  | null field comparison => cases comparison <;> rfl
  | and left right leftHypothesis rightHypothesis
  | or left right leftHypothesis rightHypothesis =>
      simp [tokens, boundValues, leftHypothesis, rightHypothesis, Token.isParameter]
  | not inner inductionHypothesis =>
      simp [tokens, boundValues, inductionHypothesis, Token.isParameter]

/-- Binding puts every value back where the predicate had it, whatever values
stand before and behind those of the predicate. -/
theorem bind_condition (node : PredicateNode R) (before behind : List (Value R)) :
    (node.condition before.length).bind (before ++ node.boundValues ++ behind) =
      some node.bound := by
  induction node generalizing before behind with
  | compare field comparison value =>
      simp only [condition, boundValues, bound]
      cases nullTest comparison value with
      | some test => cases test <;> rfl
      | none => simp [Condition.bind]
  | null field comparison => cases comparison <;> rfl
  | and left right leftHypothesis rightHypothesis
  | or left right leftHypothesis rightHypothesis =>
      have boundLeft := leftHypothesis before (right.boundValues ++ behind)
      have boundRight := rightHypothesis (before ++ left.boundValues) behind
      simp only [List.length_append, List.append_assoc] at boundLeft boundRight
      simp [condition, boundValues, bound, Condition.bind, boundLeft, boundRight]
  | not inner inductionHypothesis =>
      have boundInner := inductionHypothesis before behind
      rw [condition, boundValues, bound, Condition.bind, boundInner, Option.map_some]

/-- The search condition is true on a row exactly when the predicate is. -/
theorem evaluate_bound [EngineOrder R] (node : PredicateNode R)
    (row : Row (Value R)) : node.bound.evaluate row = node.meaning row := by
  induction node with
  | compare field comparison value =>
      cases value with
      | null =>
          cases comparison <;> rfl
      | _ => rfl
  | null field comparison => cases comparison <;> rfl
  | and left right leftHypothesis rightHypothesis
  | or left right leftHypothesis rightHypothesis =>
      simp [bound, meaning, BoundCondition.evaluate, leftHypothesis, rightHypothesis]
  | not inner inductionHypothesis =>
      simp [bound, meaning, BoundCondition.evaluate, inductionHypothesis]

end PredicateNode

/-! ## The `WHERE` clause -/

/-- The text of an optional `WHERE` clause. -/
def whereText : Option (PredicateNode R) → String
  | none => ""
  | some node => " WHERE " ++ node.text

def whereTokens : Option (PredicateNode R) → List Token
  | none => []
  | some node => .word "WHERE" :: node.tokens

def whereValues : Option (PredicateNode R) → List (Value R)
  | none => []
  | some node => node.boundValues

def whereFilter : Option (PredicateNode R) → Filter
  | none => .all
  | some node => .condition (node.condition 0)

/-- The filter with the values of the predicate in their places. -/
def boundFilter : Option (PredicateNode R) → BoundFilter (Value R)
  | none => .all
  | some node => .condition node.bound

/-- A `WHERE` clause in front of a text that starts with a blank. -/
theorem lex_whereText {predicate : Option (PredicateNode R)}
    (writable : ∀ node, predicate = some node → node.Writable)
    {rest : String} {restTokens : List Token} (opens : opensSeparated rest)
    (readRest : lex rest = some restTokens) :
    lex (whereText predicate ++ rest) = some (whereTokens predicate ++ restTokens) ∧
      opensSeparated (whereText predicate ++ rest) := by
  cases predicate with
  | none =>
      rw [whereText, String.empty_append]
      exact ⟨readRest, opens⟩
  | some node =>
      have opensWhere : opensSeparated " WHERE " := ⟨' ', by decide, by decide⟩
      have endsWhere : endsSeparated " WHERE " := ⟨' ', by decide, by decide⟩
      have readWhere : lex " WHERE " = some [.word "WHERE"] := by decide
      have readNode := lex_append_opens opens
        (PredicateNode.lex_text (writable node rfl)) readRest
      rw [whereText, String.append_assoc, whereTokens, List.cons_append]
      exact ⟨lex_append_ends endsWhere readWhere readNode,
        opensSeparated_append opensWhere _⟩

theorem number_whereTokens (predicate : Option (PredicateNode R)) :
    numberFrom 0 (whereTokens predicate) = (whereFilter predicate).tokens ∧
      largestFrom 0 (whereTokens predicate) = (whereValues predicate).length := by
  cases predicate with
  | none => exact ⟨rfl, rfl⟩
  | some node =>
      obtain ⟨numbered, largest⟩ := node.number_tokens 0
      constructor
      · simp only [whereTokens, whereFilter, Filter.tokens, numberFrom, numbered]
      · simp only [whereTokens, whereValues, largestFrom, largest, Nat.zero_add]

theorem countP_whereTokens (predicate : Option (PredicateNode R)) :
    (whereTokens predicate).countP Token.isParameter = (whereValues predicate).length := by
  cases predicate with
  | none => rfl
  | some node =>
      simp [whereTokens, whereValues, Token.isParameter, node.countP_tokens]

theorem bind_whereFilter (predicate : Option (PredicateNode R))
    (behind : List (Value R)) :
    (whereFilter predicate).bind (whereValues predicate ++ behind) =
      some (boundFilter predicate) := by
  cases predicate with
  | none => rfl
  | some node =>
      have bound := node.bind_condition [] behind
      simp only [List.length_nil, List.nil_append] at bound
      simp only [whereFilter, whereValues, boundFilter, Sql.Filter.bind, bound,
        Option.map_some]

theorem selects_boundFilter [EngineOrder R] (predicate : Option (PredicateNode R))
    (row : Row (Value R)) :
    (boundFilter predicate).selects row = true ↔ selectedBy predicate row := by
  cases predicate with
  | none => simp [boundFilter, BoundFilter.selects, selectedBy]
  | some node =>
      simp [boundFilter, BoundFilter.selects, selectedBy, node.evaluate_bound]

/-! ## What the compiler writes -/

section Compiler

variable [RealCarrier R] {schema : CollectionSchema}

theorem validateField_ok_iff {field : FieldSchema} :
    validateField schema field = .ok () ↔ field ∈ schema.fields := by
  unfold validateField
  by_cases member : field ∈ schema.fields
  · simp [member]
  · simp [member]

omit [RealCarrier R] in
theorem enterNode_ok {state entered : Compilation R} {depth : Nat}
    (ok : enterNode state depth = .ok entered) :
    entered.sql = state.sql ∧ entered.values = state.values := by
  unfold enterNode at ok
  cases counted : checkedAdd state.nodes 1 with
  | none => simp [counted] at ok
  | some nodes =>
      simp only [counted] at ok
      obtain ⟨-, same⟩ := ite_error_eq_ok_iff.mp ok
      cases same
      exact ⟨rfl, rfl⟩

omit [RealCarrier R] in
theorem compileComparison_ok {field : FieldSchema} {comparison : Comparison}
    {value : Value R} {text : String} {bound : List (Value R)}
    (ok : compileComparison comparison value = .ok (text, bound)) :
    text = PredicateNode.testText comparison value ∧
      bound = (PredicateNode.compare field comparison value).boundValues := by
  unfold compileComparison at ok
  unfold PredicateNode.testText PredicateNode.boundValues nullTest
  cases isNull : value.isNull with
  | true => cases comparison <;> simp [isNull, nullComparisonSql] at ok ⊢ <;> simp [ok]
  | false => cases comparison <;> simp [isNull] at ok ⊢ <;> simp [ok]

/-- A compiled predicate has appended its text and its values, and mentions
fields of the schema only. -/
theorem compilePredicate_spec (columnsWritable : ∀ field ∈ schema.fields,
      Char.ofNat 0 ∉ field.column.toList) {node : PredicateNode R} :
    ∀ {state compiled : Compilation R} {depth : Nat},
      compilePredicate schema node state depth = .ok compiled →
        compiled.sql = state.sql ++ node.text ∧
          compiled.values = state.values ++ node.boundValues ∧ node.Writable := by
  induction node with
  | compare field comparison value =>
      intro state compiled depth ok
      simp only [compilePredicate, bind_eq_ok_iff, Except.ok.injEq] at ok
      obtain ⟨entered, enters, ⟨⟩, fieldValid, ⟨⟩, -, ⟨text, bound⟩, test, rfl⟩ := ok
      obtain ⟨sameSql, sameValues⟩ := enterNode_ok enters
      obtain ⟨rfl, rfl⟩ := (@compileComparison_ok _ field) test
      refine ⟨?_, ?_, columnsWritable field (validateField_ok_iff.mp fieldValid)⟩
      · simp only [sameSql, pushIdentifier_eq, PredicateNode.text, String.append_assoc]
      · simp only [sameValues]
  | null field comparison =>
      intro state compiled depth ok
      simp only [compilePredicate, bind_eq_ok_iff] at ok
      obtain ⟨entered, enters, ⟨⟩, fieldValid, written⟩ := ok
      obtain ⟨-, same⟩ := ite_error_eq_ok_iff.mp written
      obtain rfl := Except.ok.inj same
      obtain ⟨sameSql, sameValues⟩ := enterNode_ok enters
      refine ⟨?_, ?_, columnsWritable field (validateField_ok_iff.mp fieldValid)⟩
      · simp only [sameSql, pushIdentifier_eq, PredicateNode.text, String.append_assoc]
      · simp only [sameValues, PredicateNode.boundValues, List.append_nil]
  | and left right leftHypothesis rightHypothesis
  | or left right leftHypothesis rightHypothesis =>
      intro state compiled depth ok
      simp only [compilePredicate, bind_eq_ok_iff, Except.ok.injEq] at ok
      obtain ⟨entered, enters, middle, compiledLeft, last, compiledRight, rfl⟩ := ok
      obtain ⟨sameSql, sameValues⟩ := enterNode_ok enters
      obtain ⟨leftSql, leftValues, leftWritable⟩ := leftHypothesis compiledLeft
      obtain ⟨rightSql, rightValues, rightWritable⟩ := rightHypothesis compiledRight
      refine ⟨?_, ?_, leftWritable, rightWritable⟩
      · simp only [rightSql, leftSql, sameSql, PredicateNode.text, String.append_assoc]
      · simp only [rightValues, leftValues, sameValues, PredicateNode.boundValues,
          List.append_assoc]
  | not inner inductionHypothesis =>
      intro state compiled depth ok
      simp only [compilePredicate, bind_eq_ok_iff, Except.ok.injEq] at ok
      obtain ⟨entered, enters, last, compiledInner, rfl⟩ := ok
      obtain ⟨sameSql, sameValues⟩ := enterNode_ok enters
      obtain ⟨innerSql, innerValues, innerWritable⟩ := inductionHypothesis compiledInner
      refine ⟨?_, ?_, innerWritable⟩
      · simp only [innerSql, sameSql, PredicateNode.text, String.append_assoc]
      · simp only [innerValues, sameValues, PredicateNode.boundValues]

theorem compileWhere_spec (columnsWritable : ∀ field ∈ schema.fields,
      Char.ofNat 0 ∉ field.column.toList) {predicate : Option (PredicateNode R)}
    {sql written : String} {values : List (Value R)}
    (ok : compileWhere schema predicate sql = .ok (written, values)) :
    written = sql ++ whereText predicate ∧ values = whereValues predicate ∧
      ∀ node, predicate = some node → node.Writable := by
  cases predicate with
  | none =>
      simp only [compileWhere, Except.ok.injEq, Prod.mk.injEq] at ok
      obtain ⟨rfl, rfl⟩ := ok
      exact ⟨by simp [whereText], rfl, by simp⟩
  | some node =>
      simp only [compileWhere, bind_eq_ok_iff, Except.ok.injEq, Prod.mk.injEq] at ok
      obtain ⟨compiled, compiles, rfl, rfl⟩ := ok
      obtain ⟨sameSql, sameValues, writable⟩ :=
        compilePredicate_spec columnsWritable compiles
      refine ⟨?_, ?_, ?_⟩
      · simp only [sameSql, whereText, String.append_assoc]
      · simp only [sameValues, whereValues, List.nil_append]
      · rintro other ⟨⟩
        exact writable

/-! ## Columns and ordering terms -/

theorem pushColumns_succ (index : Nat) (sql : String) (fields : List FieldSchema) :
    pushColumns (index + 1) sql fields =
      sql ++ tailText (fun field => quoted field.column) fields := by
  induction fields generalizing index sql with
  | nil => simp [pushColumns, tailText]
  | cons field rest inductionHypothesis =>
      rw [pushColumns, inductionHypothesis, pushIdentifier_eq, if_neg (by omega), tailText]
      simp only [String.append_assoc]

theorem pushColumns_zero (sql : String) (fields : List FieldSchema) :
    pushColumns 0 sql fields =
      sql ++ listText (fun field => quoted field.column) fields := by
  cases fields with
  | nil => simp [pushColumns, listText]
  | cons field rest =>
      rw [pushColumns, pushColumns_succ, pushIdentifier_eq, if_pos rfl, listText,
        String.append_assoc]

def OrderDirection.sql : OrderDirection → String
  | .ascending => " ASC"
  | .descending => " DESC"

def OrderDirection.direction : OrderDirection → Direction
  | .ascending => .ascending
  | .descending => .descending

/-- The text of one ordering term. -/
def QueryOrder.text (term : QueryOrder) : String :=
  quoted term.field.column ++ term.direction.sql

def QueryOrder.orderTerm (term : QueryOrder) : OrderTerm :=
  { column := term.field.column, direction := term.direction.direction }

theorem pushOrder_eq (sql : String) (term : QueryOrder) :
    pushOrder sql term.field term.direction = sql ++ term.text := by
  unfold pushOrder QueryOrder.text
  rw [pushIdentifier_eq, String.append_assoc]
  cases term.direction <;> rfl

theorem lex_orderText {term : QueryOrder}
    (writable : Char.ofNat 0 ∉ term.field.column.toList) :
    lex term.text = some term.orderTerm.tokens := by
  unfold QueryOrder.text QueryOrder.orderTerm
  cases term.direction with
  | ascending =>
      have reads : lex OrderDirection.ascending.sql = some [.word "ASC"] := by decide
      exact lex_append_opens ⟨' ', by decide, by decide⟩ (lex_quoted writable) reads
  | descending =>
      have reads : lex OrderDirection.descending.sql = some [.word "DESC"] := by decide
      exact lex_append_opens ⟨' ', by decide, by decide⟩ (lex_quoted writable) reads

theorem pushOrders_spec :
    ∀ {order : List QueryOrder} {index : Nat} {sql written : String}
      {seen collected : List String},
      pushOrders schema index sql seen order = .ok (written, collected) →
        written = sql ++ (if index = 0 then listText QueryOrder.text order
          else tailText QueryOrder.text order) ∧
        collected = (order.map QueryOrder.fieldId).reverse ++ seen ∧
        ∀ term ∈ order, term.field ∈ schema.fields
  | [], index, sql, written, seen, collected, ok => by
      simp only [pushOrders, Except.ok.injEq, Prod.mk.injEq] at ok
      obtain ⟨rfl, rfl⟩ := ok
      simp [listText, tailText]
  | term :: rest, index, sql, written, seen, collected, ok => by
      simp only [pushOrders, bind_eq_ok_iff] at ok
      obtain ⟨⟨⟩, fieldValid, pushed⟩ := ok
      obtain ⟨-, pushedRest⟩ := ite_error_eq_ok_iff.mp pushed
      obtain ⟨restSql, rfl, restFields⟩ := pushOrders_spec pushedRest
      rw [pushOrder_eq, if_neg (Nat.succ_ne_zero index)] at restSql
      refine ⟨?_, by simp, ?_⟩
      · by_cases first : index = 0
        · simp only [restSql, first, if_true, listText, String.append_assoc]
        · simp only [restSql, first, if_false, tailText, String.append_assoc]
      · intro other member
        rcases List.mem_cons.mp member with rfl | inRest
        · exact validateField_ok_iff.mp fieldValid
        · exact restFields other inRest

/-- The order a query asks for: the caller's terms, then the primary key when
they do not name it. -/
def effectiveOrder (primaryKey : FieldSchema) (order : List QueryOrder) :
    List QueryOrder :=
  if primaryKey.id ∈ order.map QueryOrder.fieldId then order
  else order ++ [{ field := primaryKey, direction := .ascending }]

theorem effectiveOrder_ne_nil (primaryKey : FieldSchema) (order : List QueryOrder) :
    effectiveOrder primaryKey order ≠ [] := by
  unfold effectiveOrder
  split
  case isTrue member =>
    rintro rfl
    cases member
  case isFalse => simp

theorem effectiveOrder_mem {primaryKey : FieldSchema} {order : List QueryOrder}
    (keyMember : primaryKey ∈ schema.fields)
    (fields : ∀ term ∈ order, term.field ∈ schema.fields) :
    ∀ term ∈ effectiveOrder primaryKey order, term.field ∈ schema.fields := by
  intro term member
  unfold effectiveOrder at member
  split at member
  case isTrue => exact fields term member
  case isFalse =>
    rcases List.mem_append.mp member with inOrder | isKey
    · exact fields term inOrder
    · obtain rfl := List.mem_singleton.mp isKey
      exact keyMember

/-- The end of the ordering clause, with or without the primary key. -/
theorem pushKeyOrder_eq (sql : String) (primaryKey : FieldSchema)
    (order : List QueryOrder) :
    (if ((order.map QueryOrder.fieldId).reverse ++ []).contains primaryKey.id
      then sql ++ listText QueryOrder.text order
      else pushOrder
        (if order.isEmpty then sql ++ listText QueryOrder.text order
          else sql ++ listText QueryOrder.text order ++ ", ")
        primaryKey .ascending) =
      sql ++ listText QueryOrder.text (effectiveOrder primaryKey order) := by
  have sameKey : ∀ text : String, pushOrder text primaryKey .ascending =
      text ++ QueryOrder.text { field := primaryKey, direction := .ascending } :=
    fun text => pushOrder_eq text { field := primaryKey, direction := .ascending }
  unfold effectiveOrder
  by_cases named : primaryKey.id ∈ order.map QueryOrder.fieldId
  · have contained : ((order.map QueryOrder.fieldId).reverse ++ []).contains
        primaryKey.id = true := by simpa using named
    rw [if_pos contained, if_pos named]
  · have notContained : ¬ ((order.map QueryOrder.fieldId).reverse ++ []).contains
        primaryKey.id = true := by simpa using named
    rw [if_neg notContained, if_neg named, sameKey]
    cases order with
    | nil => simp [listText, tailText]
    | cons term rest =>
        rw [listText_append_singleton QueryOrder.text (List.cons_ne_nil term rest)]
        simp only [List.isEmpty_cons, Bool.false_eq_true, if_false, String.append_assoc]

theorem mapInvalidQuery_ok {α : Type} {result : Result α} {value : α}
    (ok : mapInvalidQuery result = .ok value) : result = .ok value := by
  cases result with
  | error failure => cases ok
  | ok other => exact ok

theorem columnsWritable_of_wellFormed (formed : schema.WellFormed) :
    ∀ field ∈ schema.fields, Char.ofNat 0 ∉ field.column.toList :=
  fun field member => noNul_of_validName (formed.field_wellFormed field member).column_valid

/-- The text and the values of a compiled query. -/
theorem compileQuery_spec {predicate : Option (PredicateNode R)}
    {order : List QueryOrder} {limit : UInt32} {query : CollectionQuery R}
    (ok : compileQuery schema predicate order limit = .ok query) :
    schema.WellFormed ∧ ∃ primaryKey, schema.primaryKey = some primaryKey ∧
      query.sql = "SELECT " ++ (listText (fun field => quoted field.column) schema.fields ++
        (" FROM " ++ (quoted schema.table ++ (whereText predicate ++ (" ORDER BY " ++
          (listText QueryOrder.text (effectiveOrder primaryKey order) ++ " LIMIT ?")))))) ∧
      query.values = whereValues predicate ++ [.integer (Int64.ofNat limit.toNat)] ∧
      (∀ node, predicate = some node → node.Writable) ∧
      ∀ term ∈ order, term.field ∈ schema.fields := by
  unfold compileQuery at ok
  obtain ⟨-, checked⟩ := ite_error_eq_ok_iff.mp ok
  simp only [bind_eq_ok_iff] at checked
  obtain ⟨⟨⟩, valid, keyed⟩ := checked
  have formed := validateCollectionSchema_ok_iff.mp (mapInvalidQuery_ok valid)
  cases key : schema.primaryKey with
  | none => simp [key] at keyed
  | some primaryKey =>
      simp only [key, bind_eq_ok_iff, Except.ok.injEq] at keyed
      obtain ⟨⟨written, values⟩, compiled, ⟨ordered, seen⟩, pushed, rfl⟩ := keyed
      obtain ⟨rfl, rfl, writable⟩ :=
        compileWhere_spec (columnsWritable_of_wellFormed formed) compiled
      obtain ⟨rfl, rfl, orderFields⟩ := pushOrders_spec pushed
      refine ⟨formed, primaryKey, rfl, ?_, rfl, writable, orderFields⟩
      simp only [↓reduceIte]
      rw [pushKeyOrder_eq]
      simp only [pushColumns_zero, pushIdentifier_eq, String.append_assoc]

theorem compileExistsQuery_spec {predicate : Option (PredicateNode R)}
    {order : List QueryOrder} {query : CollectionExistsQuery R}
    (ok : compileExistsQuery schema predicate order = .ok query) :
    schema.WellFormed ∧ order = [] ∧
      query.sql = "SELECT 1 FROM " ++ (quoted schema.table ++
        (whereText predicate ++ " LIMIT 1")) ∧
      query.values = whereValues predicate ∧
      ∀ node, predicate = some node → node.Writable := by
  unfold compileExistsQuery at ok
  obtain ⟨unordered, checked⟩ := ite_error_eq_ok_iff.mp ok
  simp only [bind_eq_ok_iff, Except.ok.injEq] at checked
  obtain ⟨⟨⟩, valid, ⟨written, values⟩, compiled, rfl⟩ := checked
  have formed := validateCollectionSchema_ok_iff.mp (mapInvalidQuery_ok valid)
  obtain ⟨rfl, rfl, writable⟩ :=
    compileWhere_spec (columnsWritable_of_wellFormed formed) compiled
  refine ⟨formed, by simpa using unordered, ?_, rfl, writable⟩
  simp only [pushIdentifier_eq, String.append_assoc]

end Compiler

/-! ## Reading compiled queries back -/

/-- The ordering clause and the limit of a query. -/
theorem lex_orderClause {order : List QueryOrder}
    (writable : ∀ term ∈ order, Char.ofNat 0 ∉ term.field.column.toList) :
    lex (" ORDER BY " ++ (listText QueryOrder.text order ++ " LIMIT ?")) =
      some (.word "ORDER" :: .word "BY" ::
        (listTokens OrderTerm.tokens (order.map QueryOrder.orderTerm) ++
          [.word "LIMIT", .parameter none])) := by
  have readTerms := lex_listText fun term member => lex_orderText (writable term member)
  have readLimit : lex " LIMIT ?" = some [.word "LIMIT", .parameter none] := by decide
  have readOrder : lex " ORDER BY " = some [.word "ORDER", .word "BY"] := by decide
  rw [listTokens_map]
  exact lex_append_ends ⟨' ', by decide, by decide⟩ readOrder
    (lex_append_opens ⟨' ', by decide, by decide⟩ readTerms readLimit)

/-- A compiled query reads back as the selection of all columns of the table
with the filter and the order it was given; its parameters are as many as its
values. -/
theorem compileQuery_reads [RealCarrier R] {schema : CollectionSchema}
    {predicate : Option (PredicateNode R)} {order : List QueryOrder} {limit : UInt32}
    {query : CollectionQuery R}
    (ok : compileQuery schema predicate order limit = .ok query) :
    ∃ primaryKey tokens, schema.primaryKey = some primaryKey ∧
      lex query.sql = some tokens ∧
      tokens.countP Token.isParameter = query.values.length ∧
      Sql.prepare query.sql = some
        { statement := .select (.columns (schema.fields.map FieldSchema.column))
            schema.table (whereFilter predicate)
            ((effectiveOrder primaryKey order).map QueryOrder.orderTerm)
            (.parameter query.values.length)
          parameterCount := query.values.length } := by
  obtain ⟨formed, primaryKey, key, sameSql, sameValues, writable, orderFields⟩ :=
    compileQuery_spec ok
  have columnsWritable := columnsWritable_of_wellFormed formed
  have keyMember : primaryKey ∈ schema.fields := List.mem_of_find?_eq_some key
  have orderWritable : ∀ term ∈ effectiveOrder primaryKey order,
      Char.ofNat 0 ∉ term.field.column.toList := fun term member =>
    columnsWritable term.field (effectiveOrder_mem keyMember orderFields term member)
  have fieldsNe : schema.fields ≠ [] := List.ne_nil_of_mem keyMember
  have readColumns : lex (listText (fun field => quoted field.column) schema.fields) =
      some (listTokens nameTokens (schema.fields.map FieldSchema.column)) := by
    rw [listTokens_map]
    exact lex_listText fun field member => lex_quoted (columnsWritable field member)
  have readRest := lex_whereText writable
    (opensSeparated_append ⟨' ', by decide, by decide⟩ _) (lex_orderClause orderWritable)
  have readTable := lex_append_opens readRest.2
    (lex_quoted (noNul_of_validName formed.table_valid)) readRest.1
  have readFrom : lex " FROM " = some [.word "FROM"] := by decide
  have readSelect : lex "SELECT " = some [.word "SELECT"] := by decide
  have read := lex_append_ends ⟨' ', by decide, by decide⟩ readSelect
    (lex_append_opens (opensSeparated_append ⟨' ', by decide, by decide⟩ _) readColumns
      (lex_append_ends ⟨' ', by decide, by decide⟩ readFrom readTable))
  rw [← sameSql] at read
  have columnsPlain := (@listTokens_plain _ nameTokens (schema.fields.map FieldSchema.column))
    (by simp [nameTokens, Token.isParameter])
  have orderPlain := (@listTokens_plain _ OrderTerm.tokens
    ((effectiveOrder primaryKey order).map QueryOrder.orderTerm))
    (by simp [OrderTerm.tokens, Token.isParameter])
  obtain ⟨numbered, largest⟩ := number_whereTokens predicate
  refine ⟨primaryKey, _, key, read, ?_, ?_⟩
  · simp [sameValues, countP_whereTokens, Token.isParameter,
      countP_of_plain columnsPlain, countP_of_plain orderPlain]
  · have orderNe : (effectiveOrder primaryKey order).map QueryOrder.orderTerm ≠ [] := by
      simpa using effectiveOrder_ne_nil primaryKey order
    rw [(@prepare_of_lex _ _ (.select
        (.columns (schema.fields.map FieldSchema.column)) schema.table
        (whereFilter predicate)
        ((effectiveOrder primaryKey order).map QueryOrder.orderTerm)
        (.parameter query.values.length))) read]
    · simp only [largestFrom_append, largestFrom, largestFrom_of_plain columnsPlain,
        largestFrom_of_plain orderPlain, largest, sameValues, List.length_append,
        List.length_singleton]
    · simp only [numberFrom_append, numberFrom, numberFrom_of_plain columnsPlain,
        largestFrom_of_plain columnsPlain,
        numberFrom_of_plain orderPlain, largestFrom_of_plain orderPlain, numbered,
        largest, Statement.tokens, Projection.tokens, orderTokens_of_ne_nil orderNe,
        Term.token, sameValues, List.length_append, List.length_singleton, List.cons_append,
        List.nil_append]
    · simpa [Statement.NonEmpty] using fieldsNe

/-- A compiled existence query selects the constant `1` with the filter it was
given. -/
theorem compileExistsQuery_reads [RealCarrier R] {schema : CollectionSchema}
    {predicate : Option (PredicateNode R)} {order : List QueryOrder}
    {query : CollectionExistsQuery R}
    (ok : compileExistsQuery schema predicate order = .ok query) :
    ∃ tokens, lex query.sql = some tokens ∧
      tokens.countP Token.isParameter = query.values.length ∧
      Sql.prepare query.sql = some
        { statement := .select .one schema.table (whereFilter predicate) [] (.number 1)
          parameterCount := query.values.length } := by
  obtain ⟨formed, -, sameSql, sameValues, writable⟩ := compileExistsQuery_spec ok
  have readLimit : lex " LIMIT 1" = some [.word "LIMIT", .number 1] := by decide
  have readRest := lex_whereText writable ⟨' ', by decide, by decide⟩ readLimit
  have readTable := lex_append_opens readRest.2
    (lex_quoted (noNul_of_validName formed.table_valid)) readRest.1
  have readSelect : lex "SELECT 1 FROM " =
      some [.word "SELECT", .number 1, .word "FROM"] := by decide
  have read := lex_append_ends ⟨' ', by decide, by decide⟩ readSelect readTable
  rw [← sameSql] at read
  obtain ⟨numbered, largest⟩ := number_whereTokens predicate
  refine ⟨_, read, ?_, ?_⟩
  · simp [sameValues, countP_whereTokens, Token.isParameter]
  · rw [(@prepare_of_lex _ _ (.select .one schema.table
      (whereFilter predicate) [] (.number 1))) read]
    · simp only [largestFrom_append, largestFrom, largest, sameValues]
    · simp only [numberFrom_append, numberFrom, numbered, Statement.tokens,
        Projection.tokens, orderTokens, Term.token, List.cons_append, List.nil_append]
    · trivial

/-- The typed query compiler preserves meaning.  Read back with the lexical
rules and the grammar of SQL, a compiled query names exactly the table, the
columns, the predicate tree with its values and the order it was given; it has
as many parameters as values, so binding never reports a count mismatch; and it
selects a row exactly when the predicate is true on it. -/
theorem compiled_queries_preserve_meaning [RealCarrier R] [EngineOrder R]
    (rawBindParameter : Nat → Value R → Result Unit) (schema : CollectionSchema)
    (predicate : Option (PredicateNode R)) (order : List QueryOrder) :
    (∀ (limit : UInt32) (query : CollectionQuery R),
      compileQuery schema predicate order limit = .ok query →
        ∃ primaryKey tokens prepared filter bound,
          schema.primaryKey = some primaryKey ∧
          lex query.sql = some tokens ∧
          tokens.countP Token.isParameter = query.values.length ∧
          Sql.prepare query.sql = some prepared ∧
          prepared.statement =
            .select (.columns (schema.fields.map FieldSchema.column)) schema.table filter
              ((effectiveOrder primaryKey order).map QueryOrder.orderTerm)
              (.parameter query.values.length) ∧
          boundValue query.values query.values.length =
            some (.integer (Int64.ofNat limit.toNat)) ∧
          filter.bind query.values = some bound ∧ bound = boundFilter predicate ∧
          (∀ row, bound.selects row = true ↔ selectedBy predicate row) ∧
          (Storage.bindIter rawBindParameter prepared query.values = .ok query.values ∨
            ∃ index value failure, rawBindParameter index value = .error failure ∧
              Storage.bindIter rawBindParameter prepared query.values =
                .error failure)) ∧
    (∀ query : CollectionExistsQuery R,
      compileExistsQuery schema predicate order = .ok query →
        ∃ tokens prepared filter bound,
          lex query.sql = some tokens ∧
          tokens.countP Token.isParameter = query.values.length ∧
          Sql.prepare query.sql = some prepared ∧
          prepared.statement = .select .one schema.table filter [] (.number 1) ∧
          filter.bind query.values = some bound ∧ bound = boundFilter predicate ∧
          (∀ row, bound.selects row = true ↔ selectedBy predicate row) ∧
          (Storage.bindIter rawBindParameter prepared query.values = .ok query.values ∨
            ∃ index value failure, rawBindParameter index value = .error failure ∧
              Storage.bindIter rawBindParameter prepared query.values =
                .error failure)) := by
  constructor
  · intro limit query ok
    obtain ⟨primaryKey, tokens, key, read, counted, prepared⟩ := compileQuery_reads ok
    obtain ⟨-, -, -, -, sameValues, -, -⟩ := compileQuery_spec ok
    refine ⟨primaryKey, tokens, _, whereFilter predicate, boundFilter predicate, key, read,
      counted, prepared, rfl, ?_, ?_, rfl, selects_boundFilter predicate,
      Storage.bindIter_cases rawBindParameter rfl⟩
    · simp [sameValues]
    · rw [sameValues]
      exact bind_whereFilter predicate _
  · intro query ok
    obtain ⟨tokens, read, counted, prepared⟩ := compileExistsQuery_reads ok
    obtain ⟨-, -, -, sameValues, -⟩ := compileExistsQuery_spec ok
    refine ⟨tokens, _, whereFilter predicate, boundFilter predicate, read, counted,
      prepared, rfl, ?_, rfl, selects_boundFilter predicate,
      Storage.bindIter_cases rawBindParameter rfl⟩
    have bound := bind_whereFilter predicate []
    rwa [List.append_nil, ← sameValues] at bound

/-- A collection whose column name holds quotes, parameters and keywords. -/
def quotingSchema : CollectionSchema where
  id := "notes"
  table := "my \"notes\""
  version := 1
  fingerprint := Vector.replicate 32 0
  fields :=
    [{ id := "id", column := "id", columnType := .integer, nullable := false,
       primaryKey := true },
     { id := "note", column := "a\" = ? OR (\"b", columnType := .text, nullable := true,
       primaryKey := false }]
  canonicalDescriptor := "descriptor"
  indexes := []

/-- Equality with a text that imitates SQL, and with no value at all. -/
def quotingPredicate : PredicateNode Nat :=
  let note := { id := "note", column := "a\" = ? OR (\"b", columnType := .text,
                nullable := true, primaryKey := false : FieldSchema }
  .and (.compare note .equal (.text "?; DROP TABLE"))
    (.not (.compare note .equal .null))

theorem quoting_query_preserves_meaning :
    ∃ query prepared filter order,
      @compileQuery Nat ⟨fun _ => true⟩ quotingSchema (some quotingPredicate) [] 5 =
        .ok query ∧
      Sql.prepare query.sql = some prepared ∧
      prepared.statement = .select (.columns ["id", "a\" = ? OR (\"b"]) "my \"notes\""
        filter order (.parameter query.values.length) ∧
      filter.bind query.values = some (boundFilter (some quotingPredicate)) := by
  obtain ⟨query, ok⟩ : ∃ query, @compileQuery Nat ⟨fun _ => true⟩ quotingSchema
      (some quotingPredicate) [] 5 = .ok query := ⟨_, rfl⟩
  obtain ⟨_, _, prepared, filter, bound, -, -, -, reads, statement, -, binds, rfl, -⟩ :=
    (@compiled_queries_preserve_meaning Nat ⟨fun _ => true⟩ ⟨fun _ _ => .eq⟩
      (fun _ _ => .ok ()) quotingSchema (some quotingPredicate) []).1 5 query ok
  exact ⟨query, prepared, filter, _, ok, reads, statement, binds⟩

end Csgdb.Query
