/-
Module: Csgdb.Sql.Prepare
Purpose: Compilation of SQL text: parameters are numbered from left to right,
  then the statement is parsed.
Trusted boundary: none
Main exports: numberFrom, largestFrom, Prepared, prepare, prepare_of_lex
-/
import Csgdb.Sql.ReadBack

namespace Sql

/-- The largest parameter number assigned after reading some tokens. -/
def largestFrom : Nat → List Token → Nat
  | largest, [] => largest
  | largest, .parameter none :: rest => largestFrom (largest + 1) rest
  | largest, .parameter (some number) :: rest => largestFrom (max largest number) rest
  | largest, _ :: rest => largestFrom largest rest

/-- A parameter without a number gets the number after the largest one that was
assigned before it. -/
def numberFrom : Nat → List Token → List Token
  | _, [] => []
  | largest, .parameter none :: rest =>
      .parameter (some (largest + 1)) :: numberFrom (largest + 1) rest
  | largest, .parameter (some number) :: rest =>
      .parameter (some number) :: numberFrom (max largest number) rest
  | largest, token :: rest => token :: numberFrom largest rest

/-- A compiled statement and the largest parameter number it uses. -/
structure Prepared where
  statement : Statement
  parameterCount : Nat
deriving Repr, DecidableEq

/-- Compiles the text of one statement. -/
def prepare (text : String) : Option Prepared :=
  (lex text).bind fun tokens =>
    (parseStatement (numberFrom 0 tokens)).map fun statement =>
      { statement := statement, parameterCount := largestFrom 0 tokens }

/-- Whether a token is a parameter. -/
def Token.isParameter : Token → Bool
  | .parameter _ => true
  | _ => false

theorem largestFrom_append (largest : Nat) (left right : List Token) :
    largestFrom largest (left ++ right) =
      largestFrom (largestFrom largest left) right := by
  induction left generalizing largest with
  | nil => rfl
  | cons token left inductionHypothesis =>
      cases token with
      | parameter number => cases number <;> exact inductionHypothesis _
      | _ => exact inductionHypothesis _

theorem numberFrom_append (largest : Nat) (left right : List Token) :
    numberFrom largest (left ++ right) =
      numberFrom largest left ++ numberFrom (largestFrom largest left) right := by
  induction left generalizing largest with
  | nil => rfl
  | cons token left inductionHypothesis =>
      cases token with
      | parameter number =>
          cases number <;> exact congrArg (List.cons _) (inductionHypothesis _)
      | _ => exact congrArg (List.cons _) (inductionHypothesis _)

/-- A token that is no parameter keeps the numbering where it is. -/
theorem numberFrom_cons {token : Token} (plain : token.isParameter = false)
    (largest : Nat) (rest : List Token) :
    numberFrom largest (token :: rest) = token :: numberFrom largest rest := by
  cases token <;> first | rfl | cases plain

theorem largestFrom_cons {token : Token} (plain : token.isParameter = false)
    (largest : Nat) (rest : List Token) :
    largestFrom largest (token :: rest) = largestFrom largest rest := by
  cases token <;> first | rfl | cases plain

theorem numberFrom_of_plain {tokens : List Token}
    (plain : ∀ token ∈ tokens, token.isParameter = false) (largest : Nat) :
    numberFrom largest tokens = tokens := by
  induction tokens with
  | nil => rfl
  | cons token tokens inductionHypothesis =>
      rw [numberFrom_cons (plain token List.mem_cons_self),
        inductionHypothesis fun other member => plain other (List.mem_cons_of_mem _ member)]

theorem largestFrom_of_plain {tokens : List Token}
    (plain : ∀ token ∈ tokens, token.isParameter = false) (largest : Nat) :
    largestFrom largest tokens = largest := by
  induction tokens with
  | nil => rfl
  | cons token tokens inductionHypothesis =>
      rw [largestFrom_cons (plain token List.mem_cons_self),
        inductionHypothesis fun other member => plain other (List.mem_cons_of_mem _ member)]

/-- Numbers that are already there stay. -/
theorem numberFrom_of_numbered {tokens : List Token}
    (numbered : .parameter none ∉ tokens) (largest : Nat) :
    numberFrom largest tokens = tokens := by
  induction tokens generalizing largest with
  | nil => rfl
  | cons token tokens inductionHypothesis =>
      simp only [List.mem_cons, not_or] at numbered
      have rest := inductionHypothesis numbered.2
      cases token with
      | parameter number =>
          cases number with
          | none => exact absurd rfl numbered.1
          | some number => exact congrArg (List.cons _) (rest _)
      | _ => exact congrArg (List.cons _) (rest _)

/-- The largest number in a list whose items use one parameter each. -/
theorem largestFrom_listTokens {α : Type} {write : α → List Token} {number : α → Nat}
    (each : ∀ value largest, largestFrom largest (write value) = max largest (number value))
    (values : List α) (largest : Nat) :
    largestFrom largest (listTokens write values) =
      (values.map number).foldl max largest := by
  induction values generalizing largest with
  | nil => rfl
  | cons value rest inductionHypothesis =>
      cases rest with
      | nil => simp [listTokens, each]
      | cons next rest =>
          rw [listTokens, largestFrom_append, each, largestFrom_cons rfl,
            inductionHypothesis]
          rfl

/-- Numbers in a row end with the largest. -/
theorem foldl_max_range' (first count largest : Nat) :
    (List.range' first count).foldl max largest =
      if count = 0 then largest else max largest (first + count - 1) := by
  induction count generalizing first largest with
  | zero => simp
  | succ count inductionHypothesis =>
      rw [List.range'_succ, List.foldl_cons, inductionHypothesis]
      by_cases last : count = 0
      · simp [last]
      · simp only [last, if_false, Nat.succ_ne_zero]
        omega

/-- A list consists of commas and of the tokens of its items. -/
theorem mem_listTokens {α : Type} {write : α → List Token} {values : List α}
    {token : Token} (member : token ∈ listTokens write values) :
    token = .comma ∨ ∃ value ∈ values, token ∈ write value := by
  induction values with
  | nil => cases member
  | cons value rest inductionHypothesis =>
      cases rest with
      | nil => exact .inr ⟨value, List.mem_cons_self, member⟩
      | cons next rest =>
          rw [listTokens, List.mem_append, List.mem_cons] at member
          rcases member with inFirst | isComma | inOthers
          · exact .inr ⟨value, List.mem_cons_self, inFirst⟩
          · exact .inl isComma
          · rcases inductionHypothesis inOthers with isComma | ⟨other, inRest, inItem⟩
            · exact .inl isComma
            · exact .inr ⟨other, List.mem_cons_of_mem _ inRest, inItem⟩

/-- The list of a writer whose items are plain has no parameter. -/
theorem listTokens_plain {α : Type} {write : α → List Token} {values : List α}
    (plain : ∀ value ∈ values, ∀ token ∈ write value, token.isParameter = false) :
    ∀ token ∈ listTokens write values, token.isParameter = false := by
  intro token member
  rcases mem_listTokens member with rfl | ⟨value, inValues, inItem⟩
  · rfl
  · exact plain value inValues token inItem

/-! ### Written statements are numbered -/

theorem listTokens_numbered {α : Type} {write : α → List Token} {values : List α}
    (numbered : ∀ value, .parameter none ∉ write value) :
    .parameter none ∉ listTokens write values := by
  intro member
  rcases mem_listTokens member with impossible | ⟨value, -, inItem⟩
  · cases impossible
  · exact numbered value inItem

theorem Condition.tokens_numbered (condition : Condition) :
    .parameter none ∉ condition.tokens := by
  induction condition with
  | compare column op parameter => cases op <;> simp [tokens, CompareOp.token]
  | isNull | isNotNull => simp [tokens]
  | and left right leftHypothesis rightHypothesis
  | or left right leftHypothesis rightHypothesis =>
      simp [tokens, leftHypothesis, rightHypothesis]
  | not inner inductionHypothesis => simp [tokens, inductionHypothesis]

theorem Filter.tokens_numbered (filter : Filter) : .parameter none ∉ filter.tokens := by
  cases filter with
  | all => simp [tokens]
  | key column parameter => simp [tokens]
  | condition search => simp [tokens, search.tokens_numbered]

theorem Term.token_numbered (term : Term) : .parameter none ≠ term.token := by
  cases term <;> simp [token]

/-- A written statement has no anonymous parameter. -/
theorem Statement.tokens_numbered (statement : Statement) :
    .parameter none ∉ statement.tokens := by
  have names : ∀ columns, .parameter none ∉ listTokens nameTokens columns :=
    fun columns => listTokens_numbered (by simp [nameTokens])
  cases statement with
  | select projection table filter order limit =>
      have terms : .parameter none ∉ listTokens OrderTerm.tokens order :=
        listTokens_numbered (by simp [OrderTerm.tokens])
      cases projection <;> cases order <;>
        simp [tokens, Projection.tokens, orderTokens, names, terms,
          filter.tokens_numbered, limit.token_numbered]
  | insert table columns values =>
      have terms : .parameter none ∉ listTokens (fun term => [Term.token term]) values :=
        listTokens_numbered (by simp [Term.token_numbered])
      simp [tokens, names, terms]
  | update table assignments filter =>
      have items : .parameter none ∉ listTokens Assignment.tokens assignments :=
        listTokens_numbered (by simp [Assignment.tokens, Term.token_numbered])
      simp [tokens, items, filter.tokens_numbered]
  | delete table filter => simp [tokens, filter.tokens_numbered]
  | createTable table columns =>
      have items : .parameter none ∉ listTokens ColumnDefinition.tokens columns := by
        apply listTokens_numbered
        intro column
        cases isNotNull : column.notNull <;> cases isKey : column.primaryKey <;>
          simp [ColumnDefinition.tokens, isNotNull, isKey]
      simp [tokens, items]
  | createIndex unique name table columns =>
      cases unique <;> simp [tokens, names]
  | dropIndex name => simp [tokens]

theorem countP_of_plain {tokens : List Token}
    (plain : ∀ token ∈ tokens, token.isParameter = false) :
    tokens.countP Token.isParameter = 0 :=
  List.countP_eq_zero.mpr fun token member => by simp [plain token member]

/-! ## Compilation -/

/-- A text whose numbered tokens are those of a statement compiles to it. -/
theorem prepare_of_lex {text : String} {tokens : List Token} {statement : Statement}
    (read : lex text = some tokens) (numbered : numberFrom 0 tokens = statement.tokens)
    (nonempty : statement.NonEmpty) :
    prepare text =
      some { statement := statement, parameterCount := largestFrom 0 tokens } := by
  unfold prepare
  rw [read, Option.bind_some, numbered, parseStatement_tokens statement nonempty,
    Option.map_some]

/-- A text that is written with numbers compiles to what it says. -/
theorem prepare_of_lex_tokens {text : String} {statement : Statement}
    (read : lex text = some statement.tokens) (nonempty : statement.NonEmpty) :
    prepare text =
      some { statement := statement
             parameterCount := largestFrom 0 statement.tokens } :=
  prepare_of_lex read (numberFrom_of_numbered statement.tokens_numbered 0) nonempty

end Sql
