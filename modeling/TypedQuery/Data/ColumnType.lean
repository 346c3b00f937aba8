import TypedQuery.Data.Datum

/-!
The types a column can be read as. `ColumnType.decode` reads a value; `Datum.toValue` writes a
datum as the value of an argument.
-/

namespace TypedQuery

open Number

inductive IntegerType where
  | i8
  | i16
  | i32
  | i64
  | u8
  | u16
  | u32
  | u64
  | usize
  deriving DecidableEq, Repr

namespace IntegerType

def name : IntegerType → String
  | i8 => "i8"
  | i16 => "i16"
  | i32 => "i32"
  | i64 => "i64"
  | u8 => "u8"
  | u16 => "u16"
  | u32 => "u32"
  | u64 => "u64"
  | usize => "usize"

def least : IntegerType → Int
  | i8 => -128
  | i16 => -32768
  | i32 => -2147483648
  | i64 => -9223372036854775808
  | u8 | u16 | u32 | u64 | usize => 0

def greatest : IntegerType → Int
  | i8 => 127
  | i16 => 32767
  | i32 => 2147483647
  | i64 => 9223372036854775807
  | u8 => 255
  | u16 => 65535
  | u32 => 4294967295
  | u64 | usize => 18446744073709551615

def all : List IntegerType := [i8, i16, i32, i64, u8, u16, u32, u64, usize]

end IntegerType

inductive ColumnType where
  | integer (type : IntegerType)
  | bool
  | f64
  | f32
  | string
  | bytes
  | option (type : ColumnType)
  deriving DecidableEq, Repr

namespace ColumnType

/-- The name of a type in error messages; a nullable type fails as the type below it. -/
def name : ColumnType → String
  | integer type => type.name
  | bool => "bool"
  | f64 | f32 => "f64"
  | string => "String"
  | bytes => "Vec<u8>"
  | option type => type.name

def mismatch (type : ColumnType) (value : Value) : DataError :=
  .typeMismatch type.name value.typeName

/-- Reals also read integers, as the nearest double. -/
def decodeReal (type : ColumnType) : Value → Except DataError Nat
  | .real bits => .ok bits.toNat
  | .integer n => .ok (binary64.ofInt n.toInt)
  | value => .error (type.mismatch value)

/-- Read the value of a column. Integers must be in the range of the type, and NULL must be
allowed by it. -/
def decode : ColumnType → Value → Except DataError Datum
  | integer type, .integer n =>
    if type.least ≤ n.toInt ∧ n.toInt ≤ type.greatest then .ok (.integer n.toInt)
    else .error (.outOfRange type.name)
  | bool, .integer n => .ok (.bool (n != 0))
  | f64, value => do return .real (UInt64.ofNat (← decodeReal f64 value))
  | f32, value => do
    return .single (UInt32.ofNat (binary64.convert binary32 (← decodeReal f32 value)))
  | string, .text s => .ok (.text s)
  | bytes, .blob bs => .ok (.blob bs)
  | option _, .null => .ok .absent
  | option type, value => do return .present (← type.decode value)
  | type, value => .error (type.mismatch value)

end ColumnType

namespace Datum

/-- The value of an argument. Truth values become 1 and 0, single reals become doubles, and an
absent argument is NULL. Data that are no arguments become NULL too. -/
def toValue : Datum → Value
  | integer n => .integer (Int64.ofInt n)
  | bool b => .integer (if b then 1 else 0)
  | real bits => .real bits
  | single bits => .real (UInt64.ofNat (binary32.convert binary64 bits.toNat))
  | text s => .text s
  | blob bytes => .blob bytes
  | present d => d.toValue
  | absent | list _ | record _ | entries _ | count _ | raw _ => .null

end Datum

end TypedQuery
