/-
Module: Csgdb.Foundation.DoubledQuotes
Purpose: Text between quotes in which a quote is written twice, its reader, and the
  replacement of a letter by a copying loop.
Trusted boundary: none
Main exports: doubled, quotedText, readQuotedText, readQuotedText_iff, replaceLetter,
  replaceLetter_eq
-/
import Mathlib.Data.List.Basic

namespace Foundation

variable {Letter : Type*} [DecidableEq Letter] (quote : Letter)

/-! ## Writing -/

def doubled (letter : Letter) : List Letter :=
  if letter = quote then [quote, quote] else [letter]

def quotedText (text : List Letter) : List Letter :=
  quote :: text.flatMap (doubled quote) ++ [quote]

/-- All occurrences of a letter are replaced: what is between two of them is copied as
one piece. -/
def replaceLetter (letter : Letter) (replacement : List Letter) :
    List Letter → List Letter → List Letter
  | piece, [] => piece
  | piece, next :: rest =>
      if next = letter then piece ++ replacement ++ replaceLetter letter replacement [] rest
      else replaceLetter letter replacement (piece ++ [next]) rest

/-! ## Reading -/

/-- What is behind the opening quote, up to a quote that is not doubled, and what is left
behind that. -/
def readInside : List Letter → Option (List Letter × List Letter)
  | [] => none
  | [letter] => if letter = quote then some ([], []) else none
  | letter :: next :: rest =>
      if letter = quote then
        if next = quote then (readInside rest).map fun read => (quote :: read.1, read.2)
        else some ([], next :: rest)
      else (readInside (next :: rest)).map fun read => (letter :: read.1, read.2)

def readQuotedText : List Letter → Option (List Letter × List Letter)
  | [] => none
  | letter :: rest => if letter = quote then readInside quote rest else none

variable {quote}

theorem replaceLetter_eq (letter : Letter) (replacement piece text : List Letter) :
    replaceLetter letter replacement piece text =
      piece ++ text.flatMap fun next => if next = letter then replacement else [next] := by
  induction text generalizing piece with
  | nil => exact (List.append_nil piece).symm
  | cons next rest inductionHypothesis =>
      rw [replaceLetter, List.flatMap_cons]
      split
      case isTrue => rw [inductionHypothesis, List.nil_append, List.append_assoc]
      case isFalse => rw [inductionHypothesis, List.append_assoc]

theorem readInside_letter {letter : Letter} (other : letter ≠ quote) (rest : List Letter) :
    readInside quote (letter :: rest) =
      (readInside quote rest).map fun read => (letter :: read.1, read.2) := by
  cases rest with
  | nil => exact if_neg other
  | cons next after => exact if_neg other

theorem readInside_doubled (rest : List Letter) :
    readInside quote (quote :: quote :: rest) =
      (readInside quote rest).map fun read => (quote :: read.1, read.2) := by
  rw [readInside, if_pos rfl, if_pos rfl]

theorem readInside_closes {rest : List Letter} (ends : rest.head? ≠ some quote) :
    readInside quote (quote :: rest) = some ([], rest) := by
  cases rest with
  | nil => exact if_pos rfl
  | cons next after =>
      rw [readInside, if_pos rfl, if_neg fun same => ends (congrArg some same)]

/-- The reader takes a text back out of its quotes, whatever quotes are in it, and leaves
what is behind them. -/
theorem readInside_append (text : List Letter) {rest : List Letter}
    (ends : rest.head? ≠ some quote) :
    readInside quote (text.flatMap (doubled quote) ++ quote :: rest) = some (text, rest) := by
  induction text with
  | nil => exact readInside_closes ends
  | cons letter text inductionHypothesis =>
      rw [List.flatMap_cons, List.append_assoc, doubled]
      split
      case isTrue same =>
        rw [List.cons_append, List.cons_append, List.nil_append, readInside_doubled,
          inductionHypothesis, same]
        rfl
      case isFalse other =>
        rw [List.cons_append, List.nil_append, readInside_letter other, inductionHypothesis]
        rfl

/-- Nothing else is read: the reader stops behind a quote that is not doubled. -/
theorem append_of_readInside {input : List Letter} :
    ∀ {text rest : List Letter}, readInside quote input = some (text, rest) →
      input = text.flatMap (doubled quote) ++ quote :: rest ∧ rest.head? ≠ some quote := by
  induction input using readInside.induct quote with
  | case1 =>
      intro text rest read
      cases read
  | case2 =>
      intro text rest read
      have ends : ([] : List Letter).head? ≠ some quote := by simp
      rw [readInside_closes ends] at read
      cases read
      exact ⟨rfl, ends⟩
  | case3 letter other =>
      intro text rest read
      rw [readInside_letter other] at read
      cases read
  | case4 after inductionHypothesis =>
      intro text rest read
      rw [readInside_doubled] at read
      obtain ⟨⟨inner, left⟩, readInner, same⟩ := Option.map_eq_some_iff.mp read
      cases same
      obtain ⟨written, ends⟩ := inductionHypothesis readInner
      rw [List.flatMap_cons, doubled, if_pos rfl, written]
      exact ⟨rfl, ends⟩
  | case5 next after other =>
      intro text rest read
      have ends : (next :: after).head? ≠ some quote := fun same => other (Option.some.inj same)
      rw [readInside_closes ends] at read
      cases read
      exact ⟨rfl, ends⟩
  | case6 letter next after other inductionHypothesis =>
      intro text rest read
      rw [readInside_letter other] at read
      obtain ⟨⟨inner, left⟩, readInner, same⟩ := Option.map_eq_some_iff.mp read
      cases same
      obtain ⟨written, ends⟩ := inductionHypothesis readInner
      rw [List.flatMap_cons, doubled, if_neg other, written]
      exact ⟨rfl, ends⟩

/-- What is read from an input is exactly what it begins with. -/
theorem readQuotedText_iff {input text rest : List Letter} :
    readQuotedText quote input = some (text, rest) ↔
      input = quotedText quote text ++ rest ∧ rest.head? ≠ some quote := by
  unfold quotedText
  rw [List.append_assoc]
  constructor
  · intro read
    cases input with
    | nil => cases read
    | cons letter inside =>
        dsimp only [readQuotedText] at read
        split at read
        case isTrue same =>
          obtain ⟨written, ends⟩ := append_of_readInside read
          rw [same, written]
          exact ⟨rfl, ends⟩
        case isFalse => cases read
  · rintro ⟨rfl, ends⟩
    exact (if_pos rfl).trans (readInside_append text ends)

end Foundation
