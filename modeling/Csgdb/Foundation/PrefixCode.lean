/-
Module: Csgdb.Foundation.PrefixCode
Purpose: Prefix codes over character lists.  An encoder is a prefix code when
  the text it writes can be told apart from whatever follows it, so that
  concatenated encodings are uniquely readable.
Trusted boundary: none
Main exports: PrefixCode, PrefixCode.decimal, PrefixCode.lengthPrefixed,
  PrefixCode.comp, PrefixCode.flatMap_injective
-/
import Mathlib.Algebra.Ring.Nat
import Mathlib.Data.List.Basic
import Mathlib.Order.Basic

namespace Foundation

/-- An encoder is a prefix code when equal concatenations have equal first
encodings: the encoded value and the remaining text are both determined. -/
def PrefixCode {α : Type*} (encode : α → List Char) : Prop :=
  ∀ ⦃first second : α⦄ ⦃restFirst restSecond : List Char⦄,
    encode first ++ restFirst = encode second ++ restSecond →
      first = second ∧ restFirst = restSecond

/-- Number of UTF-8 bytes of a character list. -/
def byteLength (text : List Char) : Nat :=
  (text.map Char.utf8Size).sum

@[simp] theorem byteLength_nil : byteLength [] = 0 := rfl

@[simp] theorem byteLength_cons (char : Char) (text : List Char) :
    byteLength (char :: text) = char.utf8Size + byteLength text := rfl

/-- Two prefixes of one text that occupy equally many bytes are the same
prefix.  No character is empty, so the byte count fixes where a prefix ends. -/
theorem eq_of_append_eq_of_byteLength_eq :
    ∀ {first second restFirst restSecond : List Char},
      first ++ restFirst = second ++ restSecond →
        byteLength first = byteLength second →
          first = second ∧ restFirst = restSecond
  | [], [], _, _, same, _ => ⟨rfl, same⟩
  | [], char :: second, _, _, _, sameLength => by
      have positive := char.utf8Size_pos
      simp at sameLength
      omega
  | char :: first, [], _, _, _, sameLength => by
      have positive := char.utf8Size_pos
      simp at sameLength
      omega
  | char :: first, other :: second, restFirst, restSecond, same, sameLength => by
      simp only [List.cons_append, List.cons.injEq] at same
      obtain ⟨rfl, sameTail⟩ := same
      simp only [byteLength_cons, Nat.add_left_cancel_iff] at sameLength
      obtain ⟨rfl, sameRest⟩ :=
        eq_of_append_eq_of_byteLength_eq sameTail sameLength
      exact ⟨rfl, sameRest⟩

/-- A run of characters satisfying a predicate, closed by a character that
does not, is delimited by its closing character. -/
theorem eq_of_append_stop_eq {inside : Char → Bool} {stop : Char}
    (outside : inside stop = false) :
    ∀ {first second restFirst restSecond : List Char},
      (∀ char ∈ first, inside char = true) →
        (∀ char ∈ second, inside char = true) →
          first ++ stop :: restFirst = second ++ stop :: restSecond →
            first = second ∧ restFirst = restSecond
  | [], [], _, _, _, _, same => by simpa using same
  | [], char :: second, _, _, _, insideSecond, same => by
      simp only [List.nil_append, List.cons_append, List.cons.injEq] at same
      have impossible := insideSecond char List.mem_cons_self
      rw [← same.1, outside] at impossible
      cases impossible
  | char :: first, [], _, _, insideFirst, _, same => by
      simp only [List.nil_append, List.cons_append, List.cons.injEq] at same
      have impossible := insideFirst char List.mem_cons_self
      rw [same.1, outside] at impossible
      cases impossible
  | char :: first, other :: second, _, _, insideFirst, insideSecond, same => by
      simp only [List.cons_append, List.cons.injEq] at same
      obtain ⟨rfl, sameTail⟩ := same
      obtain ⟨rfl, sameRest⟩ :=
        eq_of_append_stop_eq outside
          (fun next member => insideFirst next (List.mem_cons_of_mem _ member))
          (fun next member => insideSecond next (List.mem_cons_of_mem _ member))
          sameTail
      exact ⟨rfl, sameRest⟩

/-- Texts whose first characters differ stay different whatever follows. -/
theorem append_ne_append_of_take_ne {first second : List Char} {count : Nat}
    (firstLong : count ≤ first.length) (secondLong : count ≤ second.length)
    (differ : first.take count ≠ second.take count)
    (restFirst restSecond : List Char) :
    first ++ restFirst ≠ second ++ restSecond := by
  intro same
  apply differ
  have sameHead := congrArg (List.take count) same
  rwa [List.take_append_of_le_length firstLong,
    List.take_append_of_le_length secondLong] at sameHead

/-- Decimal numerals are injective. -/
theorem toDigits_ten_injective {first second : Nat}
    (same : Nat.toDigits 10 first = Nat.toDigits 10 second) :
    first = second := by
  have values := congrArg (fun digits => Nat.ofDigitChars 10 digits 0) same
  simpa only [Nat.ofDigitChars_ten_toDigits] using values

namespace PrefixCode

variable {α β : Type*}

/-- A decimal numeral is a prefix code once it is closed by a character that
is not a digit. -/
theorem decimal {stop : Char} (notDigit : stop.isDigit = false) :
    PrefixCode (fun value : Nat => Nat.toDigits 10 value ++ [stop]) := by
  intro first second restFirst restSecond same
  simp only [List.append_assoc, List.singleton_append] at same
  have digits : ∀ value : Nat, ∀ char ∈ Nat.toDigits 10 value,
      char.isDigit = true := fun value char member =>
    Nat.isDigit_of_mem_toDigits (by decide) (by decide) member
  obtain ⟨sameDigits, sameRest⟩ :=
    eq_of_append_stop_eq notDigit (digits first) (digits second) same
  exact ⟨toDigits_ten_injective sameDigits, sameRest⟩

/-- A text preceded by its own byte length is a prefix code: the text may
contain the closing character, digits or anything else. -/
theorem lengthPrefixed {stop : Char} (notDigit : stop.isDigit = false) :
    PrefixCode (fun text : List Char =>
      Nat.toDigits 10 (byteLength text) ++ [stop] ++ text) := by
  intro first second restFirst restSecond same
  simp only [List.append_assoc] at same
  have header := @decimal stop notDigit (byteLength first) (byteLength second)
    (first ++ restFirst) (second ++ restSecond)
    (by simpa only [List.append_assoc] using same)
  exact eq_of_append_eq_of_byteLength_eq header.2 header.1

/-- A prefix code reread through an injective view of its values. -/
theorem comp {encode : β → List Char} (code : PrefixCode encode)
    {view : α → β} (injective : Function.Injective view) :
    PrefixCode (fun value => encode (view value)) := by
  intro first second restFirst restSecond same
  obtain ⟨sameView, sameRest⟩ := code same
  exact ⟨injective sameView, sameRest⟩

/-- A list of self-delimiting, nonempty records is determined by the
concatenation of the records. -/
theorem flatMap_injective {encode : α → List Char} (code : PrefixCode encode)
    (nonempty : ∀ value, encode value ≠ []) :
    ∀ {first second : List α},
      first.flatMap encode = second.flatMap encode → first = second
  | [], [], _ => rfl
  | [], value :: second, same => by
      simp only [List.flatMap_nil, List.flatMap_cons, List.nil_eq,
        List.append_eq_nil_iff] at same
      exact False.elim (nonempty value same.1)
  | value :: first, [], same => by
      simp only [List.flatMap_nil, List.flatMap_cons,
        List.append_eq_nil_iff] at same
      exact False.elim (nonempty value same.1)
  | value :: first, other :: second, same => by
      simp only [List.flatMap_cons] at same
      obtain ⟨rfl, sameTail⟩ := code same
      rw [flatMap_injective code nonempty sameTail]

end PrefixCode

end Foundation
