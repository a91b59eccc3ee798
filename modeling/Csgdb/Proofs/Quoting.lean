/-
Module: Csgdb.Proofs.Quoting
Purpose: The three ways to write a quoted identifier write the same text, and the text is
  read as the identifier, whatever is in it and behind it.
Trusted boundary: none
Main exports: readIdentifier, readIdentifier_iff, doubleQuotes_eq, pushIdentifier_quotes,
  identifier_quoters_agree
-/
import Csgdb.Collection.Register
import Csgdb.Foundation.DoubledQuotes
import Csgdb.Proofs.DerivedStatements
import Csgdb.Proofs.QueryMeaning

namespace Csgdb

open Foundation
open Derive (doubleQuotes quoteIdentifier quoteIdentifier_eq)
open Query (pushIdentifier pushIdentifier_eq)

/-! ## Reading an identifier -/

/-- The identifier that a text begins with, and what is behind it. -/
def readIdentifier (text : String) : Option (String × String) :=
  (readQuotedText '"' text.toList).map fun read =>
    (String.ofList read.1, String.ofList read.2)

theorem quoted_quotedText (name : String) :
    (Sql.quoted name).toList = quotedText '"' name.toList :=
  Sql.quoted_toList name

theorem readIdentifier_iff {text name rest : String} :
    readIdentifier text = some (name, rest) ↔
      text = Sql.quoted name ++ rest ∧ rest.toList.head? ≠ some '"' := by
  unfold readIdentifier
  rw [Option.map_eq_some_iff]
  constructor
  · rintro ⟨⟨inside, behind⟩, read, same⟩
    cases same
    obtain ⟨written, ends⟩ := readQuotedText_iff.mp read
    rw [String.toList_ofList]
    refine ⟨String.toList_inj.mp ?_, ends⟩
    rw [String.toList_append, quoted_quotedText, String.toList_ofList, String.toList_ofList]
    exact written
  · rintro ⟨rfl, ends⟩
    refine ⟨(name.toList, rest.toList), readQuotedText_iff.mpr ⟨?_, ends⟩, ?_⟩
    · rw [String.toList_append, quoted_quotedText]
    · rw [String.ofList_toList, String.ofList_toList]

/-- The lexer of statements sees in an identifier without a NUL what the reader sees: only
a third quote could continue it. -/
theorem lexer_run_of_readIdentifier {text name rest : String}
    (read : readIdentifier text = some (name, rest))
    (noNul : Char.ofNat 0 ∉ name.toList) :
    Sql.lexer.run .start text.toList = Sql.lexer.run (.closing name.toList) rest.toList := by
  obtain ⟨rfl, -⟩ := readIdentifier_iff.mp read
  rw [String.toList_append, Transducer.run_append, Sql.run_quoted noNul, Option.bind_some]
  dsimp only
  cases Sql.lexer.run (.closing name.toList) rest.toList with
  | none => rfl
  | some read => rfl

/-! ## Writing an identifier -/

/-- `str::replace` copies what is between two quotes in one piece. -/
theorem doubleQuotes_eq (value : String) :
    doubleQuotes value =
      String.ofList (replaceLetter '"' "\"\"".toList [] value.toList) := by
  rw [replaceLetter_eq, List.nil_append]
  rfl

/-- The three quoters write one text, a quoted identifier that is read back with what is
behind it: it does not end early, and it takes nothing of what follows. -/
theorem identifier_quoters_agree (name sql : String) :
    Registry.quoteSqlIdentifier name = quoteIdentifier name ∧
    pushIdentifier sql name = sql ++ quoteIdentifier name ∧
    ∀ rest : String, rest.toList.head? ≠ some '"' →
      readIdentifier (quoteIdentifier name ++ rest) = some (name, rest) := by
  refine ⟨rfl, ?_, ?_⟩
  · rw [pushIdentifier_eq, quoteIdentifier_eq]
  · intro rest ends
    rw [quoteIdentifier_eq]
    exact readIdentifier_iff.mpr ⟨rfl, ends⟩

/-- A name that ends in quotes. -/
theorem identifier_quoters_agree_quotes :
    readIdentifier (quoteIdentifier "a\"\"" ++ " = ?1") = some ("a\"\"", " = ?1") :=
  (identifier_quoters_agree "a\"\"" "").2.2 " = ?1" (by decide)

end Csgdb
