/-
Module: Csgdb.Foundation.Hex
Purpose: Hexadecimal text over bytes.  It is written with the digits of one case and read
  with the digits of both.
Trusted boundary: none
Main exports: HexDigit, hexValue, lowerHexDigit, writeHex, readHex, readHex_writeHex,
  writeHex_readHex
-/
import Mathlib.Data.List.Basic

namespace Foundation

/-! ## Digits -/

/-- One of `0-9`, `A-F` and `a-f`. -/
def HexDigit (digit : UInt8) : Prop :=
  (0x30 ≤ digit ∧ digit ≤ 0x39) ∨ (0x41 ≤ digit ∧ digit ≤ 0x46) ∨
    (0x61 ≤ digit ∧ digit ≤ 0x66)

instance (digit : UInt8) : Decidable (HexDigit digit) :=
  inferInstanceAs (Decidable (_ ∨ _ ∨ _))

/-- One of `0-9` and `a-f`. -/
def LowerHexDigit (digit : UInt8) : Prop :=
  (0x30 ≤ digit ∧ digit ≤ 0x39) ∨ (0x61 ≤ digit ∧ digit ≤ 0x66)

instance (digit : UInt8) : Decidable (LowerHexDigit digit) :=
  inferInstanceAs (Decidable (_ ∨ _))

theorem LowerHexDigit.hexDigit {digit : UInt8} (lower : LowerHexDigit digit) :
    HexDigit digit :=
  lower.imp_right .inr

/-- The number that a digit stands for. -/
def hexValue (digit : UInt8) : Nat :=
  if digit ≤ 0x39 then digit.toNat - 0x30
  else if digit ≤ 0x46 then digit.toNat - 0x37
  else digit.toNat - 0x57

def lowerHexDigit (value : Nat) : UInt8 :=
  if value < 10 then .ofNat (0x30 + value) else .ofNat (0x57 + value)

theorem lowerHexDigit_lower : ∀ value < 16, LowerHexDigit (lowerHexDigit value) := by
  decide

theorem hexValue_lowerHexDigit : ∀ value < 16, hexValue (lowerHexDigit value) = value := by
  decide

theorem lowerHexDigit_hexValue {digit : UInt8} (lower : LowerHexDigit digit) :
    hexValue digit < 16 ∧ lowerHexDigit (hexValue digit) = digit := by
  have bounds : (48 ≤ digit.toNat ∧ digit.toNat ≤ 57) ∨
      (97 ≤ digit.toNat ∧ digit.toNat ≤ 102) := by
    simpa [LowerHexDigit, UInt8.le_iff_toNat_le] using lower
  obtain ⟨value, small, rfl⟩ : ∃ value < 16, lowerHexDigit value = digit := by
    unfold lowerHexDigit
    rcases bounds with ⟨low, high⟩ | ⟨low, high⟩
    · refine ⟨digit.toNat - 0x30, by omega, ?_⟩
      rw [if_pos (by omega), Nat.add_sub_cancel' low, UInt8.ofNat_toNat]
    · refine ⟨digit.toNat - 0x57, by omega, ?_⟩
      rw [if_neg (by omega), Nat.add_sub_cancel' (by omega), UInt8.ofNat_toNat]
  rw [hexValue_lowerHexDigit value small]
  exact ⟨small, rfl⟩

/-! ## Texts -/

/-- Two digits a byte, the high one first. -/
def writeHex (bytes : List UInt8) : List UInt8 :=
  bytes.flatMap fun byte =>
    [lowerHexDigit (byte.toNat / 16), lowerHexDigit (byte.toNat % 16)]

/-- The bytes of a text.  A last digit without its partner is not read. -/
def readHex : List UInt8 → List UInt8
  | high :: low :: rest => .ofNat (16 * hexValue high + hexValue low) :: readHex rest
  | _ => []

theorem writeHex_cons (byte : UInt8) (rest : List UInt8) :
    writeHex (byte :: rest) =
      lowerHexDigit (byte.toNat / 16) :: lowerHexDigit (byte.toNat % 16) :: writeHex rest :=
  rfl

theorem readHex_writeHex (bytes : List UInt8) : readHex (writeHex bytes) = bytes := by
  induction bytes with
  | nil => rfl
  | cons byte rest ih =>
      have high : byte.toNat / 16 < 16 := Nat.div_lt_of_lt_mul byte.toNat_lt
      have low : byte.toNat % 16 < 16 := Nat.mod_lt _ (by decide)
      rw [writeHex_cons, readHex, hexValue_lowerHexDigit _ high,
        hexValue_lowerHexDigit _ low, Nat.div_add_mod, UInt8.ofNat_toNat, ih]

theorem writeHex_length (bytes : List UInt8) :
    (writeHex bytes).length = 2 * bytes.length := by
  induction bytes with
  | nil => rfl
  | cons byte rest ih =>
      rw [writeHex_cons, List.length_cons, List.length_cons, List.length_cons, ih]
      omega

theorem writeHex_lower (bytes : List UInt8) :
    ∀ digit ∈ writeHex bytes, LowerHexDigit digit := by
  induction bytes with
  | nil => exact fun _ written => (List.not_mem_nil written).elim
  | cons byte rest ih =>
      intro digit written
      rw [writeHex_cons] at written
      rcases List.mem_cons.mp written with rfl | written
      · exact lowerHexDigit_lower _ (Nat.div_lt_of_lt_mul byte.toNat_lt)
      rcases List.mem_cons.mp written with rfl | written
      · exact lowerHexDigit_lower _ (Nat.mod_lt _ (by decide))
      · exact ih digit written

/-- An even number of lower-case digits is the text of the bytes read from it. -/
theorem writeHex_readHex : ∀ {count : Nat} {digits : List UInt8},
    digits.length = 2 * count → (∀ digit ∈ digits, LowerHexDigit digit) →
      writeHex (readHex digits) = digits ∧ (readHex digits).length = count
  | 0, [], _, _ => ⟨rfl, rfl⟩
  | count + 1, [], even, _ => by simp at even
  | count, [_], even, _ => by
      rw [List.length_singleton] at even
      omega
  | 0, _ :: _ :: _, even, _ => by simp at even
  | count + 1, high :: low :: rest, even, lower => by
      obtain ⟨highSmall, highDigit⟩ := lowerHexDigit_hexValue (lower high List.mem_cons_self)
      obtain ⟨lowSmall, lowDigit⟩ := lowerHexDigit_hexValue
        (lower low (List.mem_cons_of_mem high List.mem_cons_self))
      have restEven : rest.length = 2 * count := by
        rw [List.length_cons, List.length_cons] at even
        omega
      obtain ⟨restWritten, restCount⟩ := writeHex_readHex restEven fun digit there =>
        lower digit (List.mem_cons_of_mem high (List.mem_cons_of_mem low there))
      have value : (UInt8.ofNat (16 * hexValue high + hexValue low)).toNat =
          16 * hexValue high + hexValue low :=
        UInt8.toNat_ofNat_of_lt' (by simp only [UInt8.size]; omega)
      rw [readHex, writeHex_cons, value, Nat.mul_add_div (by decide), Nat.mul_add_mod,
        Nat.div_eq_of_lt lowSmall, Nat.mod_eq_of_lt lowSmall, Nat.add_zero, highDigit,
        lowDigit, restWritten, List.length_cons, restCount]
      exact ⟨rfl, rfl⟩

end Foundation
