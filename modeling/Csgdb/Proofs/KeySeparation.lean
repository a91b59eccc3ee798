/-
Module: Csgdb.Proofs.KeySeparation
Purpose: What the bytes that the engine is keyed with tell about the source of the key.
Trusted boundary: how the engine reads the bytes is a parameter.  Blob literals of as many
  digits as one of its raw forms has are raw keys, everything else is derived.
Main exports: KeySource.handed, RawKeyText, ReadsRawKeys, rawKeyLiteral_eq,
  shares_raw_iff, key_material_separated_iff
-/
import Csgdb.Foundation.Hex
import Csgdb.Storage.Open

namespace Csgdb.Storage

open Foundation

/-! ## Key material -/

section Handed

/-- The bytes that the engine gets for a source of a key. -/
def KeySource.handed (identity : DatabaseIdentity) (flags : OpenFlags)
    (provider : Option KeyProvider) (source : KeySource) : Option (List UInt8) :=
  match resolveEncryptedKey identity flags source provider with
  | .error _ => none
  | .ok key => handedKey key

variable {identity : DatabaseIdentity} {flags : OpenFlags} {provider : Option KeyProvider}

theorem handed_passphrase_iff {passphrase bytes : List UInt8} :
    KeySource.handed identity flags provider (.passphrase passphrase) = some bytes ↔
      passphrase ≠ [] ∧ passphrase.length ≤ maxKeyBytes ∧ passphrase = bytes := by
  unfold KeySource.handed
  simp only [resolveEncryptedKey]
  by_cases empty : passphrase = []
  · rw [if_pos empty]
    constructor
    · intro handed
      cases handed
    · exact fun ⟨nonempty, _⟩ => absurd empty nonempty
  · rw [if_neg empty]
    change (if maxKeyBytes < passphrase.length then none else some passphrase) = _ ↔ _
    by_cases long : maxKeyBytes < passphrase.length
    · rw [if_pos long]
      constructor
      · intro handed
        cases handed
      · exact fun ⟨_, inRange, _⟩ => absurd inRange (Nat.not_le.mpr long)
    · rw [if_neg long]
      constructor
      · intro handed
        exact ⟨empty, Nat.le_of_not_lt long, Option.some.inj handed⟩
      · rintro ⟨-, -, rfl⟩
        rfl

end Handed

/-! ## Raw keys -/

section Raw

/-- A blob literal of SQL. -/
def blobLiteral (marker : UInt8) (digits : List UInt8) : List UInt8 :=
  [marker, 0x27] ++ digits ++ [0x27]

/-- What a blob literal has between its quotes. -/
def quotedDigits (text : List UInt8) : List UInt8 :=
  (text.drop 2).dropLast

@[simp] theorem quotedDigits_blobLiteral (marker : UInt8) (digits : List UInt8) :
    quotedDigits (blobLiteral marker digits) = digits := by
  unfold quotedDigits blobLiteral
  exact List.dropLast_concat

theorem blobLiteral_length (marker : UInt8) (digits : List UInt8) :
    (blobLiteral marker digits).length = digits.length + 3 := by
  simp [blobLiteral]

theorem hexDigits_getD : ∀ value < 16, hexDigits.getD value 0 = lowerHexDigit value := by
  decide

/-- The loop over the bytes writes a lower-case blob literal. -/
theorem rawKeyLiteral_eq (key : SecretKey) :
    rawKeyLiteral key = blobLiteral 0x78 (writeHex key.bytes) := by
  have digits (byte : UInt8) :
      [hexDigits.getD (byte >>> 4).toNat 0, hexDigits.getD (byte &&& 0x0f).toNat 0] =
        [lowerHexDigit (byte.toNat / 16), lowerHexDigit (byte.toNat % 16)] := by
    have high : (byte >>> 4).toNat = byte.toNat / 16 := by
      rw [UInt8.toNat_shiftRight]
      exact Nat.shiftRight_eq_div_pow byte.toNat 4
    have low : (byte &&& 0x0f).toNat = byte.toNat % 16 := by
      rw [UInt8.toNat_and]
      exact Nat.and_two_pow_sub_one_eq_mod byte.toNat 4
    rw [high, low, hexDigits_getD _ (Nat.div_lt_of_lt_mul byte.toNat_lt),
      hexDigits_getD _ (Nat.mod_lt _ (by decide))]
  unfold rawKeyLiteral blobLiteral writeHex
  rw [funext digits]

theorem rawKeyLiteral_length (key : SecretKey) : (rawKeyLiteral key).length = 67 := by
  rw [rawKeyLiteral_eq, blobLiteral_length, writeHex_length, key.length_eq]
  rfl

theorem quotedDigits_rawKeyLiteral (key : SecretKey) :
    readHex (quotedDigits (rawKeyLiteral key)) = key.bytes := by
  rw [rawKeyLiteral_eq, quotedDigits_blobLiteral, readHex_writeHex]

theorem rawKeyLiteral_injective {key other : SecretKey}
    (same : rawKeyLiteral key = rawKeyLiteral other) : key = other := by
  have bytes := congrArg (readHex ∘ quotedDigits) same
  dsimp only [Function.comp_apply] at bytes
  rw [quotedDigits_rawKeyLiteral, quotedDigits_rawKeyLiteral] at bytes
  cases key
  cases other
  congr

theorem handed_raw (identity : DatabaseIdentity) (flags : OpenFlags)
    (provider : Option KeyProvider) (key : SecretKey) :
    KeySource.handed identity flags provider (.raw key) = some (rawKeyLiteral key) := by
  apply if_neg
  rw [Nat.not_lt]
  change (rawKeyLiteral key).length ≤ maxKeyBytes
  rw [rawKeyLiteral_length]
  decide

end Raw

/-! ## The reading of the engine -/

section Reading

/-- A blob literal of hexadecimal digits, as many as one of the raw forms has. -/
def RawKeyText (forms : List Nat) (text : List UInt8) : Prop :=
  (text = blobLiteral 0x78 (quotedDigits text) ∨ text = blobLiteral 0x58 (quotedDigits text)) ∧
    (quotedDigits text).length ∈ forms ∧ ∀ digit ∈ quotedDigits text, HexDigit digit

instance (forms : List Nat) (text : List UInt8) : Decidable (RawKeyText forms text) :=
  inferInstanceAs (Decidable (_ ∧ _ ∧ _))

/-- The digits of a raw key alone. -/
def rawKeyDigits : Nat := 2 * rawKeyLength

/-- How the engine reads key material: `rawKey` is the raw key that a text selects.
Without one the key is derived from the text. -/
structure ReadsRawKeys (rawKey : List UInt8 → Option (List UInt8)) (forms : List Nat) :
    Prop where
  bare : rawKeyDigits ∈ forms
  selects : ∀ text, (rawKey text).isSome = true ↔ RawKeyText forms text
  reads : ∀ text, RawKeyText [rawKeyDigits] text →
    rawKey text = some (readHex (quotedDigits text))

theorem rawKeyLiteral_rawKeyText {forms : List Nat} (bare : rawKeyDigits ∈ forms)
    (key : SecretKey) : RawKeyText forms (rawKeyLiteral key) := by
  rw [rawKeyLiteral_eq]
  unfold RawKeyText
  rw [quotedDigits_blobLiteral, writeHex_length, key.length_eq]
  exact ⟨.inl rfl, bare, fun digit written =>
    (writeHex_lower key.bytes digit written).hexDigit⟩

/-- A passphrase has the bytes of a raw key when it is a literal of 64 lower-case digits. -/
theorem shares_raw_iff (passphrase : List UInt8) :
    (∃ key, rawKeyLiteral key = passphrase) ↔
      passphrase = blobLiteral 0x78 (quotedDigits passphrase) ∧
        (quotedDigits passphrase).length = rawKeyDigits ∧
        ∀ digit ∈ quotedDigits passphrase, LowerHexDigit digit := by
  constructor
  · rintro ⟨key, rfl⟩
    rw [rawKeyLiteral_eq, quotedDigits_blobLiteral, writeHex_length, key.length_eq]
    exact ⟨rfl, rfl, writeHex_lower key.bytes⟩
  · rintro ⟨literal, length, lower⟩
    obtain ⟨written, count⟩ := writeHex_readHex length lower
    exists ⟨readHex (quotedDigits passphrase), count⟩
    rw [rawKeyLiteral_eq, written]
    exact literal.symm

end Reading

/-- Raw keys have their own bytes each and are read back from them, and so have
passphrases.  A passphrase is kept apart from raw keys, and its key is derived, exactly
when it does not have a raw form itself: no check is in its way. -/
theorem key_material_separated_iff {rawKey : List UInt8 → Option (List UInt8)}
    {forms : List Nat} (reads : ReadsRawKeys rawKey forms) (identity : DatabaseIdentity)
    (flags : OpenFlags) (provider : Option KeyProvider) :
    (∀ key other bytes,
      KeySource.handed identity flags provider (.raw key) = some bytes →
        KeySource.handed identity flags provider (.raw other) = some bytes → key = other) ∧
    (∀ key, ∃ bytes, KeySource.handed identity flags provider (.raw key) = some bytes ∧
      rawKey bytes = some key.bytes) ∧
    (∀ passphrase other bytes,
      KeySource.handed identity flags provider (.passphrase passphrase) = some bytes →
        KeySource.handed identity flags provider (.passphrase other) = some bytes →
          passphrase = other) ∧
    (∀ passphrase,
      (∃ bytes,
        KeySource.handed identity flags provider (.passphrase passphrase) = some bytes) ↔
          passphrase ≠ [] ∧ passphrase.length ≤ maxKeyBytes) ∧
    ∀ passphrase bytes,
      KeySource.handed identity flags provider (.passphrase passphrase) = some bytes →
        ((∀ key, KeySource.handed identity flags provider (.raw key) ≠ some bytes) ∧
            rawKey bytes = none ↔
          ¬ RawKeyText forms passphrase) := by
  refine ⟨?_, ?_, ?_, ?_, ?_⟩
  · intro key other bytes handed otherHanded
    rw [handed_raw] at handed otherHanded
    exact rawKeyLiteral_injective (Option.some.inj (handed.trans otherHanded.symm))
  · intro key
    refine ⟨rawKeyLiteral key, handed_raw identity flags provider key, ?_⟩
    rw [reads.reads _ (rawKeyLiteral_rawKeyText List.mem_cons_self key),
      quotedDigits_rawKeyLiteral]
  · intro passphrase other bytes handed otherHanded
    obtain ⟨-, -, rfl⟩ := handed_passphrase_iff.mp handed
    exact (handed_passphrase_iff.mp otherHanded).2.2.symm
  · intro passphrase
    constructor
    · rintro ⟨bytes, handed⟩
      obtain ⟨nonempty, inRange, -⟩ := handed_passphrase_iff.mp handed
      exact ⟨nonempty, inRange⟩
    · rintro ⟨nonempty, inRange⟩
      exact ⟨passphrase, handed_passphrase_iff.mpr ⟨nonempty, inRange, rfl⟩⟩
  · intro passphrase bytes handed
    obtain ⟨-, -, rfl⟩ := handed_passphrase_iff.mp handed
    have derived : rawKey passphrase = none ↔ ¬ RawKeyText forms passphrase := by
      rw [← reads.selects passphrase, Bool.not_eq_true, Option.isSome_eq_false_iff,
        Option.isNone_iff_eq_none]
    constructor
    · rintro ⟨-, none⟩
      exact derived.mp none
    · intro other
      refine ⟨?_, derived.mpr other⟩
      intro key same
      rw [handed_raw] at same
      obtain rfl := Option.some.inj same
      exact other (rawKeyLiteral_rawKeyText reads.bare key)

/-- The raw key of a text in an engine with the form of a key alone and the form of a key
with its salt. -/
def rawKeyOfText (text : List UInt8) : Option (List UInt8) :=
  if RawKeyText [64, 96] text then some (readHex ((quotedDigits text).take 64)) else none

theorem rawKeyOfText_reads : ReadsRawKeys rawKeyOfText [64, 96] where
  bare := List.mem_cons_self
  selects text := by
    unfold rawKeyOfText
    split
    case isTrue form => exact iff_of_true rfl form
    case isFalse other => exact iff_of_false Bool.false_ne_true other
  reads text form := by
    obtain ⟨literal, length, digits⟩ := form
    rw [List.mem_singleton] at length
    have all : (quotedDigits text).take 64 = quotedDigits text :=
      List.take_of_length_le (Nat.le_of_eq length)
    unfold rawKeyOfText
    rw [if_pos ⟨literal, by rw [length]; exact List.mem_cons_self, digits⟩, all]

/-- Of a word the key is derived, and of a raw key it is not. -/
theorem key_material_separated_iff_word :
    rawKeyOfText [0x77, 0x6f, 0x72, 0x64] = none ∧
      rawKeyOfText (rawKeyLiteral ⟨List.replicate 32 7, rfl⟩) =
        some (List.replicate 32 7) := by
  obtain ⟨-, raw, -, -, separated⟩ :=
    key_material_separated_iff rawKeyOfText_reads ⟨"agent.db", by decide⟩ .encrypted none
  constructor
  · refine ((separated [0x77, 0x6f, 0x72, 0x64] _ ?_).mpr (by decide)).2
    exact handed_passphrase_iff.mpr ⟨List.cons_ne_nil _ _, by decide, rfl⟩
  · obtain ⟨bytes, handed, selected⟩ := raw ⟨List.replicate 32 7, rfl⟩
    rw [handed_raw] at handed
    obtain rfl := Option.some.inj handed
    exact selected

/-- The passphrase that spells the raw key of zeros keys the engine with that key. -/
theorem passphrase_selects_raw_key :
    KeySource.handed ⟨"agent.db", by decide⟩ .encrypted none
        (.passphrase (blobLiteral 0x78 (List.replicate 64 0x30))) =
      KeySource.handed ⟨"agent.db", by decide⟩ .encrypted none
        (.raw ⟨List.replicate 32 0, rfl⟩) ∧
    (KeySource.handed ⟨"agent.db", by decide⟩ .encrypted none
      (.raw ⟨List.replicate 32 0, rfl⟩)).isSome = true := by
  rw [handed_raw]
  refine ⟨handed_passphrase_iff.mpr ⟨List.cons_ne_nil _ _, ?_, ?_⟩, rfl⟩
  · rw [blobLiteral_length, List.length_replicate]
    decide
  · decide

end Csgdb.Storage
