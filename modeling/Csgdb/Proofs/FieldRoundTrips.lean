/-
Module: Csgdb.Proofs.FieldRoundTrips
Purpose: Which field values come back from their column as they were, or are refused.
Trusted boundary: none
Main exports: FieldType.Accepts, FieldLaw, Faithful, ScalarType.faithful, field_law_iff
-/
import Csgdb.Collection.Field
import Csgdb.Core.Basic

namespace Csgdb

variable {floats : FloatFormats}

/-! ## The law -/

/-- A cell has the storage class of the type, and an integer is the number of the value. -/
def ScalarType.Accepts (scalar : ScalarType) (cell : Value floats.F64)
    (value : scalar.Carrier floats) : Prop :=
  cell.valueType = scalar.columnType.valueType ∧
    ∀ integer, cell = .integer integer → scalar.number floats value = some integer.toInt

def FieldType.Accepts : (type : FieldType) → Value floats.F64 → type.Carrier floats → Prop
  | .plain scalar, cell, value => scalar.Accepts cell value
  | .option _, cell, none => cell = .null
  | .option scalar, cell, some value => scalar.Accepts cell value

/-- A stored value is read back, and cells are read without coercion. -/
structure FieldLaw (floats : FloatFormats) (type : FieldType) (value : type.Carrier floats) :
    Prop where
  roundTrip : ∀ (engine : ColumnEngine floats.F64), engine.Documented floats.isNaN →
    ∀ cell stored, (type.codec floats).toValue value = .ok cell →
      engine.store type.column cell = .ok stored →
        (type.codec floats).fromValue stored = .ok value
  strict : ∀ (cell : Value floats.F64) (read : type.Carrier floats),
    (type.codec floats).fromValue cell = .ok read → type.Accepts cell read

/-- The value is a NaN in a column that takes nulls. -/
def FieldType.isSomeNaN : (type : FieldType) → type.Carrier floats → Bool
  | .plain _, _ => false
  | .option _, none => false
  | .option scalar, some value => scalar.isNaN floats value

/-! ## Codecs -/

/-- A codec that encodes everything but a NaN into cells of one class which it decodes
again, and decodes nothing else. -/
structure Faithful {R T : Type} (codec : FieldCodec T (Value R)) (type : ValueType)
    (isNaN : R → Bool) (nan : T → Bool) (number : T → Option Int) : Prop where
  encodes : ∀ {value cell}, codec.toValue value = .ok cell → nan value = false →
    cell.valueType = type ∧ (∀ real, cell = .real real → isNaN real = false) ∧
      codec.fromValue cell = .ok value
  nanEncodes : ∀ {value cell}, codec.toValue value = .ok cell → nan value = true →
    ∃ real, cell = .real real ∧ isNaN real = true
  strict : ∀ {value cell}, codec.fromValue cell = .ok value →
    cell.valueType = type ∧
      ∀ integer, cell = .integer integer → number value = some integer.toInt

section Codecs

variable {R T : Type} {isNaN : R → Bool}

theorem integerFromValue_ok {type : IntegerType T} {cell : Value R} {value : T}
    (decoded : integerFromValue type cell = .ok value) :
    cell.valueType = .integer ∧
      ∀ integer, cell = .integer integer → some (type.toInt value) = some integer.toInt := by
  cases cell with
  | integer integer =>
      refine ⟨rfl, fun same isInteger => ?_⟩
      obtain rfl := Value.integer.inj isInteger
      unfold integerFromValue at decoded
      dsimp only at decoded
      split at decoded
      case h_1 converted =>
        obtain rfl := Except.ok.inj decoded
        rw [type.tryFrom_eq_some.mp converted]
      case h_2 => cases decoded
  | null | real | text | blob => cases decoded

theorem integerFromValue_of {type : IntegerType T} {value : T} {integer : Int64}
    (same : type.toInt value = integer.toInt) :
    integerFromValue type (.integer integer : Value R) = .ok value := by
  unfold integerFromValue
  dsimp only
  rw [type.tryFrom_eq_some.mpr same]

theorem signedIntegerField_faithful (type : IntegerType T) {widen : T → Int64}
    (exact : ∀ value, (widen value).toInt = type.toInt value) :
    Faithful (signedIntegerField type widen) .integer isNaN (fun _ => false)
      fun value => some (type.toInt value) where
  encodes := by
    intro value cell encoded _
    obtain rfl := Except.ok.inj encoded
    refine ⟨rfl, fun real isReal => ?_, ?_⟩
    · cases isReal
    · exact integerFromValue_of (R := R) (exact value).symm
  nanEncodes := by
    intro value cell _ nan
    cases nan
  strict := integerFromValue_ok

theorem unsignedIntegerField_faithful (type : IntegerType T) :
    Faithful (unsignedIntegerField type) .integer isNaN (fun _ => false)
      fun value => some (type.toInt value) where
  encodes := by
    intro value cell encoded _
    unfold unsignedIntegerField at encoded
    dsimp only at encoded
    split at encoded
    case h_1 integer converted =>
      obtain rfl := Except.ok.inj encoded
      refine ⟨rfl, fun real isReal => ?_, ?_⟩
      · cases isReal
      · exact integerFromValue_of (R := R) (IntegerType.i64.tryFrom_eq_some.mp converted).symm
    case h_2 => cases encoded
  nanEncodes := by
    intro value cell _ nan
    cases nan
  strict := integerFromValue_ok

theorem boolField_faithful :
    Faithful boolField .integer isNaN (fun _ => false)
      fun value => some (if value then 1 else 0) where
  encodes := by
    intro value cell encoded _
    obtain rfl := Except.ok.inj encoded
    refine ⟨rfl, fun real isReal => ?_, ?_⟩
    · cases isReal
    · cases value <;> rfl
  nanEncodes := by
    intro value cell _ nan
    cases nan
  strict := by
    intro value cell decoded
    cases cell with
    | integer integer =>
        refine ⟨rfl, fun same isInteger => ?_⟩
        obtain rfl := Value.integer.inj isInteger
        unfold boolField at decoded
        dsimp only at decoded
        split at decoded
        case isTrue zero =>
          obtain rfl := Except.ok.inj decoded
          rw [zero]
          rfl
        case isFalse =>
          split at decoded
          case isTrue one =>
            obtain rfl := Except.ok.inj decoded
            rw [one]
            rfl
          case isFalse => cases decoded
    | null | real | text | blob => cases decoded

theorem stringField_faithful :
    Faithful stringField .text isNaN (fun _ => false) (fun _ => none) where
  encodes := by
    intro value cell encoded _
    obtain rfl := Except.ok.inj encoded
    refine ⟨rfl, fun real isReal => ?_, rfl⟩
    cases isReal
  nanEncodes := by
    intro value cell _ nan
    cases nan
  strict := by
    intro value cell decoded
    cases cell with
    | text text =>
        refine ⟨rfl, fun integer isInteger => ?_⟩
        cases isInteger
    | null | integer | real | blob => cases decoded

theorem bytesField_faithful :
    Faithful bytesField .blob isNaN (fun _ => false) (fun _ => none) where
  encodes := by
    intro value cell encoded _
    obtain rfl := Except.ok.inj encoded
    refine ⟨rfl, fun real isReal => ?_, rfl⟩
    cases isReal
  nanEncodes := by
    intro value cell _ nan
    cases nan
  strict := by
    intro value cell decoded
    cases cell with
    | blob bytes =>
        refine ⟨rfl, fun integer isInteger => ?_⟩
        cases isInteger
    | null | integer | real | text => cases decoded

end Codecs

theorem f64Field_faithful (floats : FloatFormats) :
    Faithful (f64Field floats) .real floats.isNaN floats.isNaN (fun _ => none) where
  encodes := by
    intro value cell encoded real
    obtain rfl := Except.ok.inj encoded
    refine ⟨rfl, fun same isReal => ?_, rfl⟩
    obtain rfl := Value.real.inj isReal
    exact real
  nanEncodes := by
    intro value cell encoded nan
    obtain rfl := Except.ok.inj encoded
    exact ⟨value, rfl, nan⟩
  strict := by
    intro value cell decoded
    cases cell with
    | real real =>
        refine ⟨rfl, fun integer isInteger => ?_⟩
        cases isInteger
    | null | integer | text | blob => cases decoded

theorem f32Field_faithful (floats : FloatFormats) :
    Faithful (f32Field floats) .real floats.isNaN floats.isNaN32 (fun _ => none) where
  encodes := by
    intro value cell encoded real
    obtain rfl := Except.ok.inj encoded
    refine ⟨rfl, fun same isReal => ?_, ?_⟩
    · obtain rfl := Value.real.inj isReal
      rw [floats.isNaN_widen, real]
    · -- A widened value is as finite as the value that it narrows to.
      have kept := floats.narrow_widen value real
      unfold f32Field
      dsimp only
      rw [kept, floats.isFinite_widen]
      cases floats.isFinite32 value <;> rfl
  nanEncodes := by
    intro value cell encoded nan
    obtain rfl := Except.ok.inj encoded
    refine ⟨floats.widen value, rfl, ?_⟩
    rw [floats.isNaN_widen, nan]
  strict := by
    intro value cell decoded
    cases cell with
    | real real =>
        refine ⟨rfl, fun integer isInteger => ?_⟩
        cases isInteger
    | null | integer | text | blob => cases decoded

theorem ScalarType.faithful (floats : FloatFormats) (scalar : ScalarType) :
    Faithful (scalar.codec floats) scalar.columnType.valueType floats.isNaN
      (scalar.isNaN floats) (scalar.number floats) := by
  cases scalar with
  | i8 => exact signedIntegerField_faithful _ Int8.toInt_toInt64
  | i16 => exact signedIntegerField_faithful _ Int16.toInt_toInt64
  | i32 => exact signedIntegerField_faithful _ Int32.toInt_toInt64
  | i64 => exact signedIntegerField_faithful _ fun _ => rfl
  | u8 => exact unsignedIntegerField_faithful .u8
  | u16 => exact unsignedIntegerField_faithful .u16
  | u32 => exact unsignedIntegerField_faithful .u32
  | u64 => exact unsignedIntegerField_faithful .u64
  | bool => exact boolField_faithful
  | f32 => exact f32Field_faithful floats
  | f64 => exact f64Field_faithful floats
  | string => exact stringField_faithful
  | bytes => exact bytesField_faithful

/-! ## Columns -/

/-- An engine that refuses nothing but a null in a column that takes none. -/
def plainEngine {R : Type} (isNaN : R → Bool) : ColumnEngine R where
  store column cell :=
    let bound :=
      match cell with
      | .real real => if isNaN real then .null else cell
      | _ => cell
    if bound.isNull && column.notNull then .error Storage.constraintViolation
    else .ok bound

theorem plainEngine_documented {R : Type} (isNaN : R → Bool) :
    (plainEngine isNaN).Documented isNaN where
  null_kept := by
    intro column stored kept
    cases takes : column.notNull with
    | true =>
        simp only [plainEngine, Value.isNull, takes, Bool.and_self, if_true] at kept
        cases kept
    | false =>
        simp only [plainEngine, Value.isNull, takes, Bool.and_false, Bool.false_eq_true,
          if_false] at kept
        obtain rfl := Except.ok.inj kept
        exact ⟨rfl, rfl⟩
  nan_null := by
    intro column real nan
    simp only [plainEngine, nan, if_true]
  own_kept := by
    intro column cell stored own real kept
    cases cell with
    | null => cases type : column.type <;> rw [type] at own <;> cases own
    | real value =>
        simp only [plainEngine, real value rfl, Bool.false_eq_true, if_false, Value.isNull,
          Bool.false_and] at kept
        exact (Except.ok.inj kept).symm
    | integer | text | blob => exact (Except.ok.inj kept).symm

/-! ## Round trips -/

namespace Faithful

variable {R T : Type} {codec : FieldCodec T (Value R)} {isNaN : R → Bool} {nan : T → Bool}
  {number : T → Option Int} {column : FieldColumn} {engine : ColumnEngine R} {value : T}
  {cell stored : Value R}

/-- What a column keeps of a value that is no NaN decodes to it. -/
theorem stored_back
    (faithful : Faithful codec column.type.valueType isNaN nan number)
    (documented : engine.Documented isNaN) (real : nan value = false)
    (encoded : codec.toValue value = .ok cell) (kept : engine.store column cell = .ok stored) :
    stored = cell ∧ codec.fromValue cell = .ok value := by
  obtain ⟨own, noNaN, decoded⟩ := faithful.encodes encoded real
  exact ⟨documented.own_kept own noNaN kept, decoded⟩

/-- A NaN is kept as null, where the column takes one. -/
theorem stored_nan
    (faithful : Faithful codec column.type.valueType isNaN nan number)
    (documented : engine.Documented isNaN) (isNan : nan value = true)
    (encoded : codec.toValue value = .ok cell) (kept : engine.store column cell = .ok stored) :
    column.notNull = false ∧ stored = .null := by
  obtain ⟨real, rfl, realNaN⟩ := faithful.nanEncodes encoded isNan
  rw [documented.nan_null realNaN] at kept
  exact documented.null_kept kept

end Faithful

/-- Nothing but a null decodes to no value. -/
theorem optionField_fromValue {R T : Type} (codec : FieldCodec T (Value R)) {cell : Value R}
    (present : cell ≠ .null) :
    (optionField codec).fromValue cell = (codec.fromValue cell).map some := by
  cases cell with
  | null => exact absurd rfl present
  | integer | real | text | blob => rfl

theorem FieldType.roundTrip {type : FieldType} {value : type.Carrier floats}
    (noNaN : type.isSomeNaN value = false) {engine : ColumnEngine floats.F64}
    (documented : engine.Documented floats.isNaN) {cell stored : Value floats.F64}
    (encoded : (type.codec floats).toValue value = .ok cell)
    (kept : engine.store type.column cell = .ok stored) :
    (type.codec floats).fromValue stored = .ok value := by
  cases type with
  | plain scalar =>
      have faithful := scalar.faithful floats
      cases nan : scalar.isNaN floats value with
      | false =>
          obtain ⟨rfl, decoded⟩ := faithful.stored_back documented nan encoded kept
          exact decoded
      | true =>
          -- the column takes no null, so that the NaN was refused
          cases (faithful.stored_nan documented nan encoded kept).1
  | option scalar =>
      have faithful := scalar.faithful floats
      cases value with
      | none =>
          obtain rfl := Except.ok.inj encoded
          obtain ⟨-, rfl⟩ := documented.null_kept kept
          rfl
      | some value =>
          have real : scalar.isNaN floats value = false := noNaN
          have encoded : (scalar.codec floats).toValue value = .ok cell := encoded
          obtain ⟨rfl, decoded⟩ := faithful.stored_back documented real encoded kept
          have present : stored ≠ .null := by
            rintro rfl
            have own := (faithful.encodes encoded real).1
            cases type : scalar.columnType <;> rw [type] at own <;> cases own
          show (optionField (scalar.codec floats)).fromValue stored = _
          rw [optionField_fromValue _ present, decoded]
          rfl

theorem FieldType.accepts {type : FieldType} {cell : Value floats.F64}
    {read : type.Carrier floats} (decoded : (type.codec floats).fromValue cell = .ok read) :
    type.Accepts cell read := by
  cases type with
  | plain scalar => exact (scalar.faithful floats).strict decoded
  | option scalar =>
      by_cases null : cell = .null
      · subst null
        obtain rfl := Except.ok.inj decoded
        rfl
      · have inner := (optionField_fromValue _ null).symm.trans decoded
        cases value : (scalar.codec floats).fromValue cell with
        | error error =>
            rw [value] at inner
            cases inner
        | ok value' =>
            rw [value] at inner
            obtain rfl := Except.ok.inj inner
            exact (scalar.faithful floats).strict value

/-- A field value comes back from its column as it was, or is refused, exactly when it is
no NaN under an `Option`. -/
theorem field_law_iff (floats : FloatFormats) (type : FieldType)
    (value : type.Carrier floats) :
    FieldLaw floats type value ↔ type.isSomeNaN value = false := by
  constructor
  · intro law
    apply Bool.eq_false_iff.mpr
    intro someNaN
    cases type with
    | plain scalar => cases someNaN
    | option scalar =>
        cases value with
        | none => cases someNaN
        | some value =>
            have isNaN : scalar.isNaN floats value = true := someNaN
            obtain ⟨cell, encoded⟩ : ∃ cell, (scalar.codec floats).toValue value = .ok cell := by
              cases scalar with
              | f32 | f64 => exact ⟨_, rfl⟩
              | _ => cases isNaN
            obtain ⟨real, rfl, nan⟩ := (scalar.faithful floats).nanEncodes encoded isNaN
            have kept : (plainEngine floats.isNaN).store (FieldType.option scalar).column
                (.real real) = .ok .null := by
              simp only [plainEngine, nan, if_true]
              rfl
            have back := law.roundTrip _ (plainEngine_documented floats.isNaN) _ _ encoded kept
            cases back
  · intro noNaN
    refine ⟨fun engine documented cell stored encoded kept => ?_, fun cell read decoded => ?_⟩
    · exact FieldType.roundTrip noNaN documented encoded kept
    · exact FieldType.accepts decoded

/-- Integers and one NaN. -/
def nanIntegers : FloatFormats where
  F64 := Option Int
  F32 := Option Int
  isNaN := Option.isNone
  isFinite := Option.isSome
  isNaN32 := Option.isNone
  isFinite32 := Option.isSome
  widen := id
  narrow := id
  isNaN_widen := fun _ => rfl
  isFinite_widen := fun _ => rfl
  narrow_widen := fun _ _ => rfl

/-- The macro accepts an optional number, and `Some(NaN)` is stored as null and read back as
`None`. -/
theorem someNaN_read_as_none :
    Derive.classifyType (FieldType.option .f64).syn = .ok (.real, true) ∧
      ((FieldType.option .f64).codec nanIntegers).toValue (some none) = .ok (.real none) ∧
      (plainEngine nanIntegers.isNaN).store (FieldType.option .f64).column (.real none) =
        .ok .null ∧
      ((FieldType.option .f64).codec nanIntegers).fromValue .null = .ok none ∧
      ¬ FieldLaw nanIntegers (.option .f64) (some none) := by
  refine ⟨FieldType.classifyType_syn _, rfl, rfl, rfl, fun law => ?_⟩
  cases law.roundTrip _ (plainEngine_documented _) _ .null rfl rfl

end Csgdb
