/-
Module: Csgdb.Sql.Lexer
Purpose: The lexical rules of SQL text: quoted identifiers with doubled quotes,
  bare words, decimal numbers, `?` and `?NNN` parameters and operators.
Trusted boundary: none
Main exports: Token, lexer, lex, quoted, lex_append_opens, lex_append_ends,
  lex_quoted, lex_numberedParameter
-/
import Csgdb.Foundation.Transducer
import Mathlib.Data.String.Basic

namespace Sql

open Foundation

/-- One lexical unit.  A parameter without a number is not numbered yet. -/
inductive Token where
  | identifier (name : String)
  | word (text : String)
  | number (value : Nat)
  | parameter (number : Option Nat)
  | leftParen
  | rightParen
  | comma
  | equal
  | notEqual
  | less
  | lessEqual
  | greater
  | greaterEqual
deriving Repr, DecidableEq

/-- What has been read of the token under construction. -/
inductive Mode where
  | start
  /-- Inside a quoted identifier. -/
  | inside (name : List Char)
  /-- Behind a quote that closes the identifier unless it is doubled. -/
  | closing (name : List Char)
  | word (text : List Char)
  | number (digits : List Char)
  | parameter (digits : List Char)
  | less
  | greater
deriving Repr, DecidableEq

/-- A character that may start or continue a bare word. -/
def wordChar (char : Char) : Bool :=
  char.isAlpha || char == '_'

/-- What a character does between two tokens. -/
def openToken (char : Char) : Option (List Token × Mode) :=
  if char = ' ' then some ([], .start)
  else if char = '(' then some ([.leftParen], .start)
  else if char = ')' then some ([.rightParen], .start)
  else if char = ',' then some ([.comma], .start)
  else if char = '=' then some ([.equal], .start)
  else if char = '<' then some ([], .less)
  else if char = '>' then some ([], .greater)
  else if char = '"' then some ([], .inside [])
  else if char = '?' then some ([], .parameter [])
  else if char.isDigit then some ([], .number [char])
  else if wordChar char then some ([], .word [char])
  else none

/-- The token that is complete if nothing continues it.  A text must not end
inside a quoted identifier. -/
def held : Mode → Option (List Token)
  | .start => some []
  | .inside _ => none
  | .closing name => some [.identifier (String.ofList name)]
  | .word text => some [.word (String.ofList text)]
  | .number digits => some [.number (Nat.ofDigitChars 10 digits 0)]
  | .parameter digits =>
      some [.parameter
        (if digits.isEmpty then none else some (Nat.ofDigitChars 10 digits 0))]
  | .less => some [.less]
  | .greater => some [.greater]

/-- The token under construction is complete and `char` opens the next one. -/
def closeToken (mode : Mode) (char : Char) : Option (List Token × Mode) :=
  (held mode).bind fun complete =>
    (openToken char).map fun (emitted, next) => (complete ++ emitted, next)

/-- One character.  The NUL character ends SQL text and is never read. -/
def lexStep (mode : Mode) (char : Char) : Option (List Token × Mode) :=
  match mode with
  | .inside name =>
      if char = '"' then some ([], .closing name)
      else if char = Char.ofNat 0 then none
      else some ([], .inside (name ++ [char]))
  | .closing name =>
      if char = '"' then some ([], .inside (name ++ [char])) else closeToken mode char
  | .word text =>
      if wordChar char || char.isDigit then some ([], .word (text ++ [char]))
      else closeToken mode char
  | .number digits =>
      if char.isDigit then some ([], .number (digits ++ [char]))
      else if wordChar char then none
      else closeToken mode char
  | .parameter digits =>
      if char.isDigit then some ([], .parameter (digits ++ [char]))
      else closeToken mode char
  | .less =>
      if char = '=' then some ([.lessEqual], .start)
      else if char = '>' then some ([.notEqual], .start)
      else closeToken mode char
  | .greater =>
      if char = '=' then some ([.greaterEqual], .start) else closeToken mode char
  | .start => openToken char

/-- The lexer as a transducer. -/
def lexer : Transducer Mode Char Token where
  start := .start
  step := lexStep
  flush := held

/-- The tokens of an SQL text. -/
def lex (text : String) : Option (List Token) :=
  lexer.translate text.toList

/-! ## Separators -/

/-- The characters that are no part of any longer token. -/
def separator (char : Char) : Prop :=
  char = ' ' ∨ char = '(' ∨ char = ')' ∨ char = ','

instance : DecidablePred separator := fun _ => inferInstanceAs (Decidable (_ ∨ _))

theorem openToken_separator {char : Char} (separates : separator char) :
    ∃ emitted, openToken char = some (emitted, .start) := by
  rcases separates with rfl | rfl | rfl | rfl
  · exact ⟨[], by decide⟩
  · exact ⟨[.leftParen], by decide⟩
  · exact ⟨[.rightParen], by decide⟩
  · exact ⟨[.comma], by decide⟩

/-- A separator continues no token that is complete. -/
theorem lexStep_separator {mode : Mode} {complete : List Token} {char : Char}
    (settled : held mode = some complete) (separates : separator char) :
    lexStep mode char =
      (openToken char).map fun (emitted, next) => (complete ++ emitted, next) := by
  have notQuote : char ≠ '"' := by
    rcases separates with rfl | rfl | rfl | rfl <;> decide
  have notEqual : char ≠ '=' := by
    rcases separates with rfl | rfl | rfl | rfl <;> decide
  have notGreater : char ≠ '>' := by
    rcases separates with rfl | rfl | rfl | rfl <;> decide
  have notDigit : char.isDigit = false := by
    rcases separates with rfl | rfl | rfl | rfl <;> decide
  have notWord : wordChar char = false := by
    rcases separates with rfl | rfl | rfl | rfl <;> decide
  cases mode with
  | start =>
      obtain rfl : complete = [] := (Option.some.inj settled).symm
      simp [lexStep]
  | inside name => cases settled
  | closing name => simp [lexStep, closeToken, notQuote, settled]
  | word text => simp [lexStep, closeToken, notWord, notDigit, settled]
  | number digits => simp [lexStep, closeToken, notWord, notDigit, settled]
  | parameter digits => simp [lexStep, closeToken, notDigit, settled]
  | less => simp [lexStep, closeToken, notEqual, notGreater, settled]
  | greater => simp [lexStep, closeToken, notEqual, settled]

theorem lexer_resets : lexer.Resets separator where
  flush_start := rfl
  closes := fun settled separates => lexStep_separator settled separates
  reopens := by
    intro state next emitted pending char separates stepped settled
    cases flushed : held state with
    | some complete =>
        have same : lexStep state char = some (emitted, next) := stepped
        obtain ⟨opened, opens⟩ := openToken_separator separates
        rw [lexStep_separator flushed separates, opens] at same
        simp only [Option.map_some, Option.some.injEq, Prod.mk.injEq] at same
        exact same.2.symm
    | none =>
        -- only the inside of an identifier is unsettled, and a separator stays inside
        cases state with
        | inside name =>
            have same : lexStep (.inside name) char = some (emitted, next) := stepped
            have notQuote : char ≠ '"' := by
              rcases separates with rfl | rfl | rfl | rfl <;> decide
            simp only [lexStep, notQuote, if_false] at same
            split at same
            · cases same
            · simp only [Option.some.injEq, Prod.mk.injEq] at same
              rw [← same.2] at settled
              cases settled
        | _ => cases flushed

/-- The text starts with a separator. -/
def opensSeparated (text : String) : Prop :=
  ∃ char ∈ text.toList.head?, separator char

/-- The text ends with a separator. -/
def endsSeparated (text : String) : Prop :=
  ∃ char ∈ text.toList.getLast?, separator char

theorem opensSeparated_append {left : String} (opens : opensSeparated left)
    (right : String) : opensSeparated (left ++ right) := by
  obtain ⟨char, first, separates⟩ := opens
  obtain ⟨rest, split⟩ := List.head?_eq_some_iff.mp first
  exact ⟨char, by simp [String.toList_append, split], separates⟩

/-- Texts keep their tokens when a separator opens the second one. -/
theorem lex_append_opens {left right : String} {leftTokens rightTokens : List Token}
    (opens : opensSeparated right) (readLeft : lex left = some leftTokens)
    (readRight : lex right = some rightTokens) :
    lex (left ++ right) = some (leftTokens ++ rightTokens) := by
  unfold lex at readLeft readRight ⊢
  rw [String.toList_append]
  exact Transducer.translate_append lexer_resets (.inl opens) readLeft readRight

/-- Texts keep their tokens when a separator ends the first one. -/
theorem lex_append_ends {left right : String} {leftTokens rightTokens : List Token}
    (ends : endsSeparated left) (readLeft : lex left = some leftTokens)
    (readRight : lex right = some rightTokens) :
    lex (left ++ right) = some (leftTokens ++ rightTokens) := by
  unfold lex at readLeft readRight ⊢
  rw [String.toList_append]
  exact Transducer.translate_append lexer_resets (.inr ends) readLeft readRight

/-! ## Quoted identifiers -/

/-- A quote inside an identifier is doubled. -/
def escapeQuote (char : Char) : List Char :=
  if char = '"' then ['"', '"'] else [char]

/-- An identifier between quotes. -/
def quoted (name : String) : String :=
  String.ofList ('"' :: name.toList.flatMap escapeQuote ++ ['"'])

@[simp] theorem quoted_toList (name : String) :
    (quoted name).toList = '"' :: name.toList.flatMap escapeQuote ++ ['"'] :=
  String.toList_ofList

/-- Reading the inside of a quoted identifier collects the characters of the
name, whatever they are. -/
theorem run_flatMap_escapeQuote {name : List Char} (noNul : Char.ofNat 0 ∉ name)
    (collected : List Char) :
    lexer.run (.inside collected) (name.flatMap escapeQuote) =
      some ([], .inside (collected ++ name)) := by
  induction name generalizing collected with
  | nil => simp [Transducer.run]
  | cons char name inductionHypothesis =>
      simp only [List.mem_cons, not_or] at noNul
      rw [List.flatMap_cons, Transducer.run_append]
      have one : lexer.run (.inside collected) (escapeQuote char) =
          some ([], .inside (collected ++ [char])) := by
        by_cases isQuote : char = '"'
        · subst isQuote
          rfl
        · have notNul : char ≠ Char.ofNat 0 := fun same => noNul.1 same.symm
          simp [escapeQuote, isQuote, Transducer.run, lexer, lexStep, notNul]
      simp only [one, Option.bind_some, inductionHypothesis noNul.2]
      simp

/-- Behind a quoted identifier only a third quote could continue it. -/
theorem run_quoted {name : String} (noNul : Char.ofNat 0 ∉ name.toList) :
    lexer.run .start (quoted name).toList = some ([], .closing name.toList) := by
  have opened : lexer.step .start '"' = some ([], .inside []) := by decide
  rw [quoted_toList, List.cons_append, Transducer.run]
  simp only [opened, Option.bind_some, Transducer.run_append, run_flatMap_escapeQuote noNul,
    List.nil_append]
  rfl

/-- A quoted identifier is one token, whatever characters its name has. -/
theorem lex_quoted {name : String} (noNul : Char.ofNat 0 ∉ name.toList) :
    lex (quoted name) = some [.identifier name] := by
  unfold lex
  rw [Transducer.translate_eq_some_iff]
  refine ⟨[], .closing name.toList, [.identifier name], run_quoted noNul, ?_, rfl⟩
  simp [lexer, held]

/-! ## Numbered parameters -/

theorem run_digits {digits : List Char} (all : ∀ char ∈ digits, char.isDigit = true)
    (collected : List Char) :
    lexer.run (.parameter collected) digits =
      some ([], .parameter (collected ++ digits)) := by
  induction digits generalizing collected with
  | nil => simp [Transducer.run]
  | cons char digits inductionHypothesis =>
      have isDigit := all char List.mem_cons_self
      have rest := inductionHypothesis
        (fun other member => all other (List.mem_cons_of_mem _ member))
        (collected ++ [char])
      simp [Transducer.run, lexer, lexStep, isDigit] at rest ⊢
      simp [rest]

/-- A question mark and a decimal number are one token. -/
theorem lex_numberedParameter (number : Nat) :
    lex ("?" ++ number.repr) = some [.parameter (some number)] := by
  have digits : ∀ char ∈ Nat.toDigits 10 number, char.isDigit = true := fun char member =>
    Nat.isDigit_of_mem_toDigits (by decide) (by decide) member
  have nonempty : (Nat.toDigits 10 number).isEmpty = false := by
    simp [List.isEmpty_eq_false_iff, Nat.toDigits_ne_nil]
  have opened : lexer.run lexer.start "?".toList = some ([], .parameter []) := by decide
  unfold lex
  rw [String.toList_append, Nat.toList_repr, Transducer.translate_eq_some_iff]
  refine ⟨[], .parameter (Nat.toDigits 10 number), _, ?_, rfl, ?_⟩
  · rw [Transducer.run_append, opened]
    simp [run_digits digits]
  · simp [nonempty, Nat.ofDigitChars_ten_toDigits]

end Sql
