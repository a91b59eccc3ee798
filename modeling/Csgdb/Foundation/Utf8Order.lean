/-
Module: Csgdb.Foundation.Utf8Order
Purpose: UTF-8 keeps the order of texts: comparing the bytes of two texts compares their
  characters.
Trusted boundary: none
Main exports: utf8Bytes, utf8EncodeChar_lt, utf8Bytes_lt_iff, string_le_iff
-/
import Mathlib.Data.String.Basic
import Mathlib.Tactic.SplitIfs

namespace Foundation

/-- The bytes of a text. -/
def utf8Bytes (text : List Char) : List UInt8 :=
  text.flatMap String.utf8EncodeChar

/-- Of two characters the encoding of the smaller one is smaller at a byte that both
have, so that nothing behind them matters. -/
theorem utf8EncodeChar_lt {left right : Char} (less : left < right)
    (leftRest rightRest : List UInt8) :
    String.utf8EncodeChar left ++ leftRest < String.utf8EncodeChar right ++ rightRest := by
  have less : left.val.toNat < right.val.toNat := less
  have bound : right.val.toNat < 0x110000 := by
    rcases right.valid with low | high
    · exact Nat.lt_trans low (by decide)
    · exact high.2
  unfold String.utf8EncodeChar
  generalize left.val.toNat = one at *
  generalize right.val.toNat = two at *
  -- the digits to the base 64 that the bytes carry
  have digits (value : Nat) : value / 4096 = value / 64 / 64 ∧
      value / 262144 = value / 64 / 64 / 64 := by
    rw [Nat.div_div_eq_div_mul, Nat.div_div_eq_div_mul]
    exact ⟨rfl, rfl⟩
  dsimp only
  rw [(digits one).1, (digits one).2, (digits two).1, (digits two).2]
  split_ifs <;>
    simp only [List.cons_append, List.nil_append, List.cons_lt_cons_iff, UInt8.lt_iff_toNat_lt,
      ← UInt8.toNat_inj, UInt8.toNat_ofNat'] <;>
    omega

theorem append_lt_append_left {prior left right : List UInt8} (less : left < right) :
    prior ++ left < prior ++ right := by
  induction prior with
  | nil => exact less
  | cons byte prior inductionHypothesis =>
      exact List.cons_lt_cons_iff.mpr (.inr ⟨rfl, inductionHypothesis⟩)

theorem utf8Bytes_lt {left right : List Char} (less : left < right) :
    utf8Bytes left < utf8Bytes right := by
  induction left generalizing right with
  | nil =>
      cases right with
      | nil => exact absurd less (List.lt_irrefl [])
      | cons char rest =>
          obtain ⟨byte, others, bytes⟩ :=
            List.exists_cons_of_ne_nil (@String.utf8EncodeChar_ne_nil char)
          change [] < String.utf8EncodeChar char ++ utf8Bytes rest
          rw [bytes]
          exact List.nil_lt_cons _ _
  | cons char left inductionHypothesis =>
      cases right with
      | nil => exact absurd less (List.not_lt_nil _)
      | cons other right =>
          rcases List.cons_lt_cons_iff.mp less with smaller | ⟨rfl, restLess⟩
          · exact utf8EncodeChar_lt smaller _ _
          · exact append_lt_append_left (inductionHypothesis restLess)

/-- The bytes of texts are in the order of the texts. -/
theorem utf8Bytes_lt_iff {left right : List Char} :
    utf8Bytes left < utf8Bytes right ↔ left < right := by
  refine ⟨?_, utf8Bytes_lt⟩
  intro bytesLess
  rcases lt_trichotomy left right with less | rfl | greater
  · exact less
  · exact absurd bytesLess (List.lt_irrefl _)
  · exact absurd bytesLess (List.lt_asymm (utf8Bytes_lt greater))

theorem string_le_iff {left right : String} :
    left ≤ right ↔ ¬ utf8Bytes right.toList < utf8Bytes left.toList := by
  rw [utf8Bytes_lt_iff, ← String.lt_iff_toList_lt, not_lt]

end Foundation
