/-
Module: Csgdb.Collection.Field
Purpose: The Rust types that a collection field can have, and how their values are
  converted to cells and back.
Trusted boundary: reals are abstract: whether one is a NaN or finite, and the conversions
  between the two formats.  What a column keeps of a bound cell is up to the engine, which
  stores a NaN as null and leaves a cell of the column's own class as it is.
Main exports: FloatFormats, IntegerType, ScalarType, FieldType, FieldType.Carrier,
  FieldType.codec, FieldColumn, ColumnEngine, ColumnEngine.Documented
-/
import Csgdb.Collection.Crud

namespace Csgdb

open Derive

/-! ## Numbers -/

/-- The two formats of reals.  Widening is exact. -/
structure FloatFormats where
  F64 : Type
  F32 : Type
  isNaN : F64 → Bool
  isFinite : F64 → Bool
  isNaN32 : F32 → Bool
  isFinite32 : F32 → Bool
  widen : F32 → F64
  /-- `as f32`, which rounds. -/
  narrow : F64 → F32
  isNaN_widen : ∀ value, isNaN (widen value) = isNaN32 value
  isFinite_widen : ∀ value, isFinite (widen value) = isFinite32 value
  narrow_widen : ∀ value, isNaN32 value = false → narrow (widen value) = value

/-- An integer type with its checked conversion. -/
structure IntegerType (T : Type) where
  toInt : T → Int
  tryFrom : Int → Option T
  tryFrom_eq_some : ∀ {number : Int} {value : T}, tryFrom number = some value ↔
    toInt value = number

/-- The integers of a range. -/
def IntegerType.ofRange {T : Type} (toInt : T → Int) (ofInt : Int → T) (low high : Int)
    (bounds : ∀ value, low ≤ toInt value ∧ toInt value < high)
    (ofInt_toInt : ∀ value, ofInt (toInt value) = value)
    (toInt_ofInt : ∀ number, low ≤ number → number < high → toInt (ofInt number) = number) :
    IntegerType T where
  toInt := toInt
  tryFrom number := if low ≤ number ∧ number < high then some (ofInt number) else none
  tryFrom_eq_some := by
    intro number value
    constructor
    · intro converted
      split at converted
      case isTrue inRange =>
        obtain rfl := Option.some.inj converted
        exact toInt_ofInt number inRange.1 inRange.2
      case isFalse => cases converted
    · rintro rfl
      rw [if_pos (bounds value), ofInt_toInt]

namespace IntegerType

def i8 : IntegerType Int8 :=
  .ofRange Int8.toInt Int8.ofInt (-128) 128
    (fun value => ⟨value.le_toInt, value.toInt_lt⟩) Int8.ofInt_toInt
    fun _ low high => Int8.toInt_ofInt_of_le low high

def i16 : IntegerType Int16 :=
  .ofRange Int16.toInt Int16.ofInt (-32768) 32768
    (fun value => ⟨value.le_toInt, value.toInt_lt⟩) Int16.ofInt_toInt
    fun _ low high => Int16.toInt_ofInt_of_le low high

def i32 : IntegerType Int32 :=
  .ofRange Int32.toInt Int32.ofInt (-2147483648) 2147483648
    (fun value => ⟨value.le_toInt, value.toInt_lt⟩) Int32.ofInt_toInt
    fun _ low high => Int32.toInt_ofInt_of_le low high

def i64 : IntegerType Int64 :=
  .ofRange Int64.toInt Int64.ofInt (-9223372036854775808) 9223372036854775808
    (fun value => ⟨value.le_toInt, value.toInt_lt⟩) Int64.ofInt_toInt
    fun _ low high => Int64.toInt_ofInt_of_le low high

/-- The naturals below a bound. -/
def ofNatRange {T : Type} (toNat : T → Nat) (ofNat : Nat → T) (high : Nat)
    (bound : ∀ value, toNat value < high) (ofNat_toNat : ∀ value, ofNat (toNat value) = value)
    (toNat_ofNat : ∀ number, number < high → toNat (ofNat number) = number) :
    IntegerType T :=
  .ofRange (fun value => toNat value) (fun number => ofNat number.toNat) 0 high
    (fun value => ⟨Int.natCast_nonneg _, Int.ofNat_lt.mpr (bound value)⟩)
    (fun value => by rw [Int.toNat_natCast, ofNat_toNat])
    fun number low below => by
      obtain ⟨number, rfl⟩ := Int.eq_ofNat_of_zero_le low
      rw [Int.toNat_natCast, toNat_ofNat number (Int.ofNat_lt.mp below)]

def u8 : IntegerType UInt8 :=
  .ofNatRange UInt8.toNat UInt8.ofNat 256 (fun value => value.toNat_lt)
    (fun _ => UInt8.ofNat_toNat) fun _ => UInt8.toNat_ofNat_of_lt

def u16 : IntegerType UInt16 :=
  .ofNatRange UInt16.toNat UInt16.ofNat 65536 (fun value => value.toNat_lt)
    (fun _ => UInt16.ofNat_toNat) fun _ => UInt16.toNat_ofNat_of_lt

def u32 : IntegerType UInt32 :=
  .ofNatRange UInt32.toNat UInt32.ofNat 4294967296 (fun value => value.toNat_lt)
    (fun _ => UInt32.ofNat_toNat) fun _ => UInt32.toNat_ofNat_of_lt

def u64 : IntegerType UInt64 :=
  .ofNatRange UInt64.toNat UInt64.ofNat 18446744073709551616 (fun value => value.toNat_lt)
    (fun _ => UInt64.ofNat_toNat) fun _ => UInt64.toNat_ofNat_of_lt

end IntegerType

/-! ## Codecs -/

def invalidFieldType : Error :=
  { code := .invalidColumnType
    message := "collection field has an incompatible database storage class" }

def invalidFieldValue : Error :=
  { code := .invalidFieldValue
    message := "collection field value cannot be represented by its database type" }

section Codecs

variable {R T : Type}

/-- `from_value` of every integer type. -/
def integerFromValue (type : IntegerType T) : Value R → Result T
  | .integer value =>
      match type.tryFrom value.toInt with
      | some value => .ok value
      | none => .error invalidFieldValue
  | _ => .error invalidFieldType

def signedIntegerField (type : IntegerType T) (widen : T → Int64) : FieldCodec T (Value R) where
  toValue value := .ok (.integer (widen value))
  fromValue := integerFromValue type

def unsignedIntegerField (type : IntegerType T) : FieldCodec T (Value R) where
  toValue value :=
    match IntegerType.i64.tryFrom (type.toInt value) with
    | some value => .ok (.integer value)
    | none => .error invalidFieldValue
  fromValue := integerFromValue type

def boolField : FieldCodec Bool (Value R) where
  toValue value := .ok (.integer (if value then 1 else 0))
  fromValue
    | .integer value =>
        if value = 0 then .ok false
        else if value = 1 then .ok true
        else .error invalidFieldValue
    | _ => .error invalidFieldType

def f64Field (floats : FloatFormats) : FieldCodec floats.F64 (Value floats.F64) where
  toValue value := .ok (.real value)
  fromValue
    | .real value => .ok value
    | _ => .error invalidFieldType

def f32Field (floats : FloatFormats) : FieldCodec floats.F32 (Value floats.F64) where
  toValue value := .ok (.real (floats.widen value))
  fromValue
    | .real value =>
        let narrowed := floats.narrow value
        if floats.isFinite value && !floats.isFinite32 narrowed then .error invalidFieldValue
        else .ok narrowed
    | _ => .error invalidFieldType

def stringField : FieldCodec String (Value R) where
  toValue value := .ok (.text value)
  fromValue
    | .text value => .ok value
    | _ => .error invalidFieldType

def bytesField : FieldCodec (List UInt8) (Value R) where
  toValue value := .ok (.blob value)
  fromValue
    | .blob value => .ok value
    | _ => .error invalidFieldType

def optionField (codec : FieldCodec T (Value R)) : FieldCodec (Option T) (Value R) where
  toValue
    | none => .ok .null
    | some value => codec.toValue value
  fromValue
    | .null => .ok none
    | value => (codec.fromValue value).map some

end Codecs

/-! ## Field types -/

/-- The field types that are no `Option`. -/
inductive ScalarType where
  | i8
  | i16
  | i32
  | i64
  | u8
  | u16
  | u32
  | u64
  | bool
  | f32
  | f64
  | string
  | bytes
deriving Repr, DecidableEq

inductive FieldType where
  | plain (scalar : ScalarType)
  | option (scalar : ScalarType)
deriving Repr, DecidableEq

namespace ScalarType

/-- `COLUMN_TYPE`. -/
def columnType : ScalarType → ColumnType
  | .i8 | .i16 | .i32 | .i64 | .u8 | .u16 | .u32 | .u64 | .bool => .integer
  | .f32 | .f64 => .real
  | .string => .text
  | .bytes => .blob

/-- The type as it stands in a declaration. -/
def syn : ScalarType → SynType
  | .i8 => .path false "i8"
  | .i16 => .path false "i16"
  | .i32 => .path false "i32"
  | .i64 => .path false "i64"
  | .u8 => .path false "u8"
  | .u16 => .path false "u16"
  | .u32 => .path false "u32"
  | .u64 => .path false "u64"
  | .bool => .path false "bool"
  | .f32 => .path false "f32"
  | .f64 => .path false "f64"
  | .string => .path false "String"
  | .bytes => .generic false "Vec" (.path false "u8")

variable (floats : FloatFormats)

/-- The Rust values of the type. -/
abbrev Carrier : ScalarType → Type
  | .i8 => Int8
  | .i16 => Int16
  | .i32 => Int32
  | .i64 => Int64
  | .u8 => UInt8
  | .u16 => UInt16
  | .u32 => UInt32
  | .u64 => UInt64
  | .bool => Bool
  | .f32 => floats.F32
  | .f64 => floats.F64
  | .string => String
  | .bytes => List UInt8

def codec : (scalar : ScalarType) → FieldCodec (scalar.Carrier floats) (Value floats.F64)
  | .i8 => signedIntegerField .i8 Int8.toInt64
  | .i16 => signedIntegerField .i16 Int16.toInt64
  | .i32 => signedIntegerField .i32 Int32.toInt64
  | .i64 => signedIntegerField .i64 id
  | .u8 => unsignedIntegerField .u8
  | .u16 => unsignedIntegerField .u16
  | .u32 => unsignedIntegerField .u32
  | .u64 => unsignedIntegerField .u64
  | .bool => boolField
  | .f32 => f32Field floats
  | .f64 => f64Field floats
  | .string => stringField
  | .bytes => bytesField

/-- The value is a NaN. -/
def isNaN : (scalar : ScalarType) → scalar.Carrier floats → Bool
  | .f32, value => floats.isNaN32 value
  | .f64, value => floats.isNaN value
  | .i8, _ | .i16, _ | .i32, _ | .i64, _ | .u8, _ | .u16, _ | .u32, _ | .u64, _ | .bool, _
  | .string, _ | .bytes, _ => false

/-- The number that a value of an integer type or a truth value is. -/
def number : (scalar : ScalarType) → scalar.Carrier floats → Option Int
  | .i8, value => some (IntegerType.i8.toInt value)
  | .i16, value => some (IntegerType.i16.toInt value)
  | .i32, value => some (IntegerType.i32.toInt value)
  | .i64, value => some (IntegerType.i64.toInt value)
  | .u8, value => some (IntegerType.u8.toInt value)
  | .u16, value => some (IntegerType.u16.toInt value)
  | .u32, value => some (IntegerType.u32.toInt value)
  | .u64, value => some (IntegerType.u64.toInt value)
  | .bool, value => some (if value then 1 else 0)
  | .f32, _ | .f64, _ | .string, _ | .bytes, _ => none

end ScalarType

namespace FieldType

def columnType : FieldType → ColumnType
  | .plain scalar | .option scalar => scalar.columnType

/-- `NULLABLE`. -/
def nullable : FieldType → Bool
  | .plain _ => false
  | .option _ => true

def syn : FieldType → SynType
  | .plain scalar => scalar.syn
  | .option scalar => .generic false "Option" scalar.syn

/-- The macro reads the storage class and the nullability that the type has. -/
theorem classifyType_syn (type : FieldType) :
    classifyType type.syn = .ok (type.columnType, type.nullable) := by
  cases type with
  | plain scalar => cases scalar <;> rfl
  | option scalar => cases scalar <;> rfl

variable (floats : FloatFormats)

abbrev Carrier : FieldType → Type
  | .plain scalar => scalar.Carrier floats
  | .option scalar => Option (scalar.Carrier floats)

def codec : (type : FieldType) → FieldCodec (type.Carrier floats) (Value floats.F64)
  | .plain scalar => scalar.codec floats
  | .option scalar => optionField (scalar.codec floats)

end FieldType

/-! ## Columns -/

structure FieldColumn where
  type : ColumnType
  notNull : Bool
deriving Repr, DecidableEq

/-- The column that is created for a field of the type. -/
def FieldType.column (type : FieldType) : FieldColumn where
  type := type.columnType
  notNull := !type.nullable

/-- What a column holds when a cell was bound and stored. -/
structure ColumnEngine (R : Type) where
  store : FieldColumn → Value R → Result (Value R)

structure ColumnEngine.Documented {R : Type} (engine : ColumnEngine R) (isNaN : R → Bool) :
    Prop where
  null_kept : ∀ {column stored}, engine.store column .null = .ok stored →
    column.notNull = false ∧ stored = .null
  nan_null : ∀ {column real}, isNaN real = true →
    engine.store column (.real real) = engine.store column .null
  own_kept : ∀ {column cell stored}, cell.valueType = column.type.valueType →
    (∀ real, cell = .real real → isNaN real = false) →
    engine.store column cell = .ok stored → stored = cell

end Csgdb
