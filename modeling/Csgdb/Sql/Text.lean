/-
Module: Csgdb.Sql.Text
Purpose: Comma-separated lists as SQL text and their tokens.
Trusted boundary: none
Main exports: listText, lex_listText, intercalate_eq_listText
-/
import Csgdb.Sql.Grammar

namespace Sql

variable {α : Type}

/-- The items behind the first one, each with its comma. -/
def tailText (write : α → String) : List α → String
  | [] => ""
  | value :: rest => ", " ++ (write value ++ tailText write rest)

/-- Items separated by a comma and a blank. -/
def listText (write : α → String) : List α → String
  | [] => ""
  | value :: rest => write value ++ tailText write rest

theorem tailText_append_singleton (write : α → String) (values : List α) (last : α) :
    tailText write (values ++ [last]) =
      tailText write values ++ ", " ++ write last := by
  induction values with
  | nil => simp [tailText]
  | cons value values inductionHypothesis =>
      rw [List.cons_append, tailText, inductionHypothesis, tailText]
      simp only [String.append_assoc]

theorem listText_append_singleton (write : α → String) {values : List α}
    (nonempty : values ≠ []) (last : α) :
    listText write (values ++ [last]) =
      listText write values ++ ", " ++ write last := by
  obtain ⟨value, rest, rfl⟩ := List.exists_cons_of_ne_nil nonempty
  rw [List.cons_append, listText, tailText_append_singleton, listText]
  simp only [String.append_assoc]

/-- Joining with a comma and a blank. -/
theorem intercalate_eq_listText (write : α → String) (values : List α) :
    String.intercalate ", " (values.map write) = listText write values := by
  induction values with
  | nil => rfl
  | cons value rest inductionHypothesis =>
      cases rest with
      | nil => simp [listText, tailText]
      | cons next rest =>
          simp only [List.map_cons, listText, tailText] at inductionHypothesis ⊢
          rw [String.intercalate_cons_cons, inductionHypothesis]
          simp only [String.append_assoc]

theorem lex_comma : lex ", " = some [.comma] := by
  decide

theorem endsSeparated_comma : endsSeparated ", " :=
  ⟨' ', by decide, by decide⟩

/-- A list is read item by item. -/
theorem lex_listText {write : α → String} {tokens : α → List Token}
    {values : List α} (reads : ∀ value ∈ values, lex (write value) = some (tokens value)) :
    lex (listText write values) = some (listTokens tokens values) := by
  induction values with
  | nil =>
      have empty : lex "" = some [] := by decide
      exact empty
  | cons value rest inductionHypothesis =>
      have readFirst := reads value List.mem_cons_self
      have readRest := inductionHypothesis fun other member =>
        reads other (List.mem_cons_of_mem _ member)
      cases rest with
      | nil => simpa [listText, tailText, listTokens] using readFirst
      | cons next rest =>
          have comma : opensSeparated ", " := ⟨',', by decide, by decide⟩
          rw [listText] at readRest
          rw [listText, tailText, listTokens]
          have readTail := lex_append_ends endsSeparated_comma lex_comma readRest
          exact lex_append_opens (opensSeparated_append comma _) readFirst readTail

end Sql
