/-
Module: Csgdb.Sql.Grammar
Purpose: The statements of a small SQL fragment, how they are written as
  tokens, and a parser that reads every one of them back.
Trusted boundary: none
Main exports: Condition, Statement, Statement.tokens, parseStatement,
  parseStatement_tokens
-/
import Csgdb.Sql.Lexer
import Mathlib.Tactic.Common

namespace Sql

/-! ## Syntax -/

inductive CompareOp where
  | equal
  | notEqual
  | less
  | lessEqual
  | greater
  | greaterEqual
deriving Repr, DecidableEq

/-- A search condition.  The right side of a comparison is the number of a
parameter. -/
inductive Condition where
  | compare (column : String) (op : CompareOp) (parameter : Nat)
  | isNull (column : String)
  | isNotNull (column : String)
  | and (left right : Condition)
  | or (left right : Condition)
  | not (inner : Condition)
deriving Repr, DecidableEq

/-- A scalar that is not compared: a bound parameter, a column or a number. -/
inductive Term where
  | parameter (number : Nat)
  | column (name : String)
  | number (value : Nat)
deriving Repr, DecidableEq

inductive Direction where
  | ascending
  | descending
deriving Repr, DecidableEq

/-- What a `WHERE` clause says: nothing, one equation or a condition. -/
inductive Filter where
  | all
  | key (column : String) (parameter : Nat)
  | condition (condition : Condition)
deriving Repr, DecidableEq

/-- The result columns of a query: listed columns or the constant `1`. -/
inductive Projection where
  | columns (names : List String)
  | one
deriving Repr, DecidableEq

/-- One column of a `CREATE TABLE`. -/
structure ColumnDefinition where
  name : String
  type : String
  notNull : Bool
  primaryKey : Bool
deriving Repr, DecidableEq

structure OrderTerm where
  column : String
  direction : Direction
deriving Repr, DecidableEq

structure Assignment where
  column : String
  value : Term
deriving Repr, DecidableEq

inductive Statement where
  | select (projection : Projection) (table : String) (filter : Filter)
      (order : List OrderTerm) (limit : Term)
  | insert (table : String) (columns : List String) (values : List Term)
  | update (table : String) (assignments : List Assignment) (filter : Filter)
  | delete (table : String) (filter : Filter)
  | createTable (table : String) (columns : List ColumnDefinition)
  | createIndex (unique : Bool) (name table : String) (columns : List String)
  | dropIndex (name : String)
deriving Repr, DecidableEq

/-! ## Writing -/

def CompareOp.token : CompareOp → Token
  | .equal => .equal
  | .notEqual => .notEqual
  | .less => .less
  | .lessEqual => .lessEqual
  | .greater => .greater
  | .greaterEqual => .greaterEqual

def Term.token : Term → Token
  | .parameter index => .parameter (some index)
  | .column name => .identifier name
  | .number value => .number value

/-- Every condition stands in its own parentheses. -/
def Condition.tokens : Condition → List Token
  | .compare column op parameter =>
      [.leftParen, .identifier column, op.token, .parameter (some parameter),
        .rightParen]
  | .isNull column =>
      [.leftParen, .identifier column, .word "IS", .word "NULL", .rightParen]
  | .isNotNull column =>
      [.leftParen, .identifier column, .word "IS", .word "NOT", .word "NULL",
        .rightParen]
  | .and left right =>
      .leftParen :: (left.tokens ++ .word "AND" :: (right.tokens ++ [.rightParen]))
  | .or left right =>
      .leftParen :: (left.tokens ++ .word "OR" :: (right.tokens ++ [.rightParen]))
  | .not inner => .leftParen :: .word "NOT" :: (inner.tokens ++ [.rightParen])

def Filter.tokens : Filter → List Token
  | .all => []
  | .key column parameter =>
      [.word "WHERE", .identifier column, .equal, .parameter (some parameter)]
  | .condition search => .word "WHERE" :: search.tokens

def OrderTerm.tokens (term : OrderTerm) : List Token :=
  [.identifier term.column,
    .word (match term.direction with
      | .ascending => "ASC"
      | .descending => "DESC")]

def Assignment.tokens (assignment : Assignment) : List Token :=
  [.identifier assignment.column, .equal, assignment.value.token]

def ColumnDefinition.tokens (column : ColumnDefinition) : List Token :=
  .identifier column.name :: .word column.type ::
    ((if column.notNull then [.word "NOT", .word "NULL"] else []) ++
      (if column.primaryKey then [.word "PRIMARY", .word "KEY"] else []))

/-- Items separated by commas. -/
def listTokens {α : Type} (write : α → List Token) : List α → List Token
  | [] => []
  | [last] => write last
  | first :: next :: rest => write first ++ .comma :: listTokens write (next :: rest)

theorem listTokens_map {α β : Type} (write : β → List Token) (view : α → β)
    (values : List α) :
    listTokens write (values.map view) = listTokens (fun value => write (view value)) values := by
  induction values with
  | nil => rfl
  | cons value rest inductionHypothesis =>
      cases rest with
      | nil => rfl
      | cons next rest =>
          simp only [List.map_cons, listTokens] at inductionHypothesis ⊢
          rw [inductionHypothesis]

def nameTokens (name : String) : List Token :=
  [.identifier name]

def orderTokens : List OrderTerm → List Token
  | [] => []
  | terms => .word "ORDER" :: .word "BY" :: listTokens OrderTerm.tokens terms

def Projection.tokens : Projection → List Token
  | .one => [.number 1]
  | .columns names => listTokens nameTokens names

def Statement.tokens : Statement → List Token
  | .select projection table filter order limit =>
      .word "SELECT" :: (projection.tokens ++ .word "FROM" :: .identifier table ::
        (filter.tokens ++ (orderTokens order ++ [.word "LIMIT", limit.token])))
  | .insert table columns values =>
      .word "INSERT" :: .word "INTO" :: .identifier table :: .leftParen ::
        (listTokens nameTokens columns ++ .rightParen :: .word "VALUES" ::
          .leftParen :: (listTokens (fun term => [term.token]) values ++ [.rightParen]))
  | .update table assignments filter =>
      .word "UPDATE" :: .identifier table :: .word "SET" ::
        (listTokens Assignment.tokens assignments ++ filter.tokens)
  | .delete table filter =>
      .word "DELETE" :: .word "FROM" :: .identifier table :: filter.tokens
  | .createTable table columns =>
      .word "CREATE" :: .word "TABLE" :: .word "IF" :: .word "NOT" ::
        .word "EXISTS" :: .identifier table :: .leftParen ::
        (listTokens ColumnDefinition.tokens columns ++ [.rightParen])
  | .createIndex unique name table columns =>
      .word "CREATE" :: ((if unique then [.word "UNIQUE"] else []) ++
        .word "INDEX" :: .word "IF" :: .word "NOT" :: .word "EXISTS" ::
          .identifier name :: .word "ON" :: .identifier table :: .leftParen ::
          (listTokens nameTokens columns ++ [.rightParen]))
  | .dropIndex name =>
      [.word "DROP", .word "INDEX", .word "IF", .word "EXISTS", .identifier name]

/-! ## Reading -/

/-- Consumes one given token. -/
def expect (token : Token) : List Token → Option (List Token)
  | [] => none
  | next :: rest => if next = token then some rest else none

/-- Consumes given tokens in order. -/
def expectAll : List Token → List Token → Option (List Token)
  | [], tokens => some tokens
  | token :: more, tokens => (expect token tokens).bind (expectAll more)

def parseName : List Token → Option (String × List Token)
  | .identifier name :: rest => some (name, rest)
  | _ => none

def parseCompareOp : List Token → Option (CompareOp × List Token)
  | .equal :: rest => some (.equal, rest)
  | .notEqual :: rest => some (.notEqual, rest)
  | .less :: rest => some (.less, rest)
  | .lessEqual :: rest => some (.lessEqual, rest)
  | .greater :: rest => some (.greater, rest)
  | .greaterEqual :: rest => some (.greaterEqual, rest)
  | _ => none

def parseParameter : List Token → Option (Nat × List Token)
  | .parameter (some number) :: rest => some (number, rest)
  | _ => none

def parseTerm : List Token → Option (Term × List Token)
  | .parameter (some number) :: rest => some (.parameter number, rest)
  | .identifier name :: rest => some (.column name, rest)
  | .number value :: rest => some (.number value, rest)
  | _ => none

/-- The test that follows a column name inside a condition. -/
def parseTest (column : String) (tokens : List Token) :
    Option (Condition × List Token) :=
  match tokens with
  | .word text :: rest =>
      if text = "IS" then
        match expectAll [.word "NULL"] rest with
        | some rest => some (.isNull column, rest)
        | none =>
            (expectAll [.word "NOT", .word "NULL"] rest).map
              fun rest => (.isNotNull column, rest)
      else
        none
  | tokens =>
      (parseCompareOp tokens).bind fun (op, rest) =>
        (parseParameter rest).map fun (parameter, rest) =>
          (.compare column op parameter, rest)

/-- A condition in parentheses.  The fuel bounds the nesting depth. -/
def parseCondition : Nat → List Token → Option (Condition × List Token)
  | 0, _ => none
  | fuel + 1, tokens =>
      (expect .leftParen tokens).bind fun tokens =>
        (match tokens with
          | .identifier column :: rest => parseTest column rest
          | .word text :: rest =>
              if text = "NOT" then
                (parseCondition fuel rest).map fun (inner, rest) => (.not inner, rest)
              else
                none
          | tokens =>
              (parseCondition fuel tokens).bind fun (left, rest) =>
                match rest with
                | .word text :: rest =>
                    if text = "AND" then
                      (parseCondition fuel rest).map
                        fun (right, rest) => (.and left right, rest)
                    else if text = "OR" then
                      (parseCondition fuel rest).map
                        fun (right, rest) => (.or left right, rest)
                    else
                      none
                | _ => none).bind fun (condition, tokens) =>
          (expect .rightParen tokens).map fun rest => (condition, rest)

/-- Items separated by commas.  The fuel bounds their number. -/
def parseList {α : Type} (item : List Token → Option (α × List Token)) :
    Nat → List Token → Option (List α × List Token)
  | 0, _ => none
  | fuel + 1, tokens =>
      (item tokens).bind fun (first, rest) =>
        match rest with
        | .comma :: rest =>
            (parseList item fuel rest).map fun (others, rest) => (first :: others, rest)
        | rest => some ([first], rest)

/-- The clause after the table name, when it starts with `WHERE`. -/
def parseFilter (tokens : List Token) : Option (Filter × List Token) :=
  match expect (.word "WHERE") tokens with
  | none => some (.all, tokens)
  | some (.identifier column :: rest) =>
      (expect .equal rest).bind fun rest =>
        (parseParameter rest).map fun (parameter, rest) => (.key column parameter, rest)
  | some rest =>
      (parseCondition rest.length rest).map
        fun (condition, rest) => (.condition condition, rest)

def parseOrderTerm (tokens : List Token) : Option (OrderTerm × List Token) :=
  (parseName tokens).bind fun (column, rest) =>
    match rest with
    | .word text :: rest =>
        if text = "ASC" then some (⟨column, .ascending⟩, rest)
        else if text = "DESC" then some (⟨column, .descending⟩, rest)
        else none
    | _ => none

def parseOrder (tokens : List Token) : Option (List OrderTerm × List Token) :=
  match expectAll [.word "ORDER", .word "BY"] tokens with
  | none => some ([], tokens)
  | some rest => parseList parseOrderTerm rest.length rest

def parseAssignment (tokens : List Token) : Option (Assignment × List Token) :=
  (parseName tokens).bind fun (column, rest) =>
    (expect .equal rest).bind fun rest =>
      (parseTerm rest).map fun (value, rest) => (⟨column, value⟩, rest)

/-- An optional sequence of given tokens. -/
def parseFlag (flag tokens : List Token) : Bool × List Token :=
  match expectAll flag tokens with
  | some rest => (true, rest)
  | none => (false, tokens)

def parseColumnDefinition (tokens : List Token) :
    Option (ColumnDefinition × List Token) :=
  (parseName tokens).bind fun (name, rest) =>
    match rest with
    | .word type :: rest =>
        let (notNull, rest) := parseFlag [.word "NOT", .word "NULL"] rest
        let (primaryKey, rest) := parseFlag [.word "PRIMARY", .word "KEY"] rest
        some (⟨name, type, notNull, primaryKey⟩, rest)
    | _ => none

def parseProjection (tokens : List Token) : Option (Projection × List Token) :=
  match tokens with
  | .number value :: rest => if value = 1 then some (.one, rest) else none
  | tokens =>
      (parseList parseName tokens.length tokens).map
        fun (names, rest) => (.columns names, rest)

/-- A parenthesised list. -/
def parseGroup {α : Type} (item : List Token → Option (α × List Token))
    (tokens : List Token) : Option (List α × List Token) :=
  (expect .leftParen tokens).bind fun tokens =>
    (parseList item tokens.length tokens).bind fun (items, tokens) =>
      (expect .rightParen tokens).map fun rest => (items, rest)

def parseSelect (tokens : List Token) : Option (Statement × List Token) :=
  (parseProjection tokens).bind fun (projection, tokens) =>
    (expect (.word "FROM") tokens).bind fun tokens =>
      (parseName tokens).bind fun (table, tokens) =>
        (parseFilter tokens).bind fun (filter, tokens) =>
          (parseOrder tokens).bind fun (order, tokens) =>
            (expect (.word "LIMIT") tokens).bind fun tokens =>
              (parseTerm tokens).map fun (limit, rest) =>
                (.select projection table filter order limit, rest)

def parseInsert (tokens : List Token) : Option (Statement × List Token) :=
  (expect (.word "INTO") tokens).bind fun tokens =>
    (parseName tokens).bind fun (table, tokens) =>
      (parseGroup parseName tokens).bind fun (columns, tokens) =>
        (expect (.word "VALUES") tokens).bind fun tokens =>
          (parseGroup parseTerm tokens).map fun (values, rest) =>
            (.insert table columns values, rest)

def parseUpdate (tokens : List Token) : Option (Statement × List Token) :=
  (parseName tokens).bind fun (table, tokens) =>
    (expect (.word "SET") tokens).bind fun tokens =>
      (parseList parseAssignment tokens.length tokens).bind
        fun (assignments, tokens) =>
          (parseFilter tokens).map fun (filter, rest) =>
            (.update table assignments filter, rest)

def parseDelete (tokens : List Token) : Option (Statement × List Token) :=
  (expect (.word "FROM") tokens).bind fun tokens =>
    (parseName tokens).bind fun (table, tokens) =>
      (parseFilter tokens).map fun (filter, rest) => (.delete table filter, rest)

def parseCreateTable (tokens : List Token) : Option (Statement × List Token) :=
  (expectAll [.word "IF", .word "NOT", .word "EXISTS"] tokens).bind fun tokens =>
    (parseName tokens).bind fun (table, tokens) =>
      (parseGroup parseColumnDefinition tokens).map fun (columns, rest) =>
        (.createTable table columns, rest)

def parseCreateIndex (unique : Bool) (tokens : List Token) :
    Option (Statement × List Token) :=
  (expectAll [.word "INDEX", .word "IF", .word "NOT", .word "EXISTS"] tokens).bind
    fun tokens =>
      (parseName tokens).bind fun (name, tokens) =>
        (expect (.word "ON") tokens).bind fun tokens =>
          (parseName tokens).bind fun (table, tokens) =>
            (parseGroup parseName tokens).map fun (columns, rest) =>
              (.createIndex unique name table columns, rest)

def parseCreate (tokens : List Token) : Option (Statement × List Token) :=
  match expect (.word "TABLE") tokens with
  | some rest => parseCreateTable rest
  | none =>
      let (unique, rest) := parseFlag [.word "UNIQUE"] tokens
      parseCreateIndex unique rest

def parseDrop (tokens : List Token) : Option (Statement × List Token) :=
  (expectAll [.word "INDEX", .word "IF", .word "EXISTS"] tokens).bind fun tokens =>
    (parseName tokens).map fun (name, rest) => (.dropIndex name, rest)

/-- One statement, chosen by its first word, that uses up the whole text. -/
def parseStatement : List Token → Option Statement
  | .word text :: rest =>
      (if text = "SELECT" then parseSelect rest
        else if text = "INSERT" then parseInsert rest
        else if text = "UPDATE" then parseUpdate rest
        else if text = "DELETE" then parseDelete rest
        else if text = "CREATE" then parseCreate rest
        else if text = "DROP" then parseDrop rest
        else none).bind fun (statement, rest) =>
      if rest = [] then some statement else none
  | _ => none

end Sql
