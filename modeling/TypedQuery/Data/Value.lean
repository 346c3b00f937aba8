import TypedQuery.Number.Interchange

namespace TypedQuery

open Number

/-- One column of one row. Integers have 64 bits; reals are bit patterns, so that a value can be
told from every other one. -/
inductive Value where
  | null
  | integer (n : Int64)
  | real (bits : UInt64)
  | text (s : String)
  | blob (bytes : List UInt8)
  deriving DecidableEq, Inhabited

/-- A value that can match a parent row with related rows. -/
inductive Key where
  | integer (n : Int64)
  | text (s : String)
  | blob (bytes : List UInt8)
  deriving DecidableEq, Inhabited

namespace Value

def typeName : Value → String
  | null => "NULL"
  | integer _ => "INTEGER"
  | real _ => "REAL"
  | text _ => "TEXT"
  | blob _ => "BLOB"

def isNull : Value → Bool
  | null => true
  | _ => false

/-- The key of a value. NULL matches nothing, and reals are no keys. -/
def toKey : Value → Option Key
  | integer n => some (.integer n)
  | text s => some (.text s)
  | blob bytes => some (.blob bytes)
  | null => none
  | real _ => none

/-- Equality that compares reals as numbers. -/
def same : Value → Value → Bool
  | real a, real b => binary64.same a.toNat b.toNat
  | a, b => decide (a = b)

end Value

namespace Key

def toValue : Key → Value
  | integer n => .integer n
  | text s => .text s
  | blob bytes => .blob bytes

/-- Integers come before texts and texts before blobs; within a kind the order is numerical, by
code point, or by byte. -/
def compare : Key → Key → Ordering
  | integer a, integer b => Ord.compare a b
  | integer _, _ => .lt
  | text _, integer _ => .gt
  | text a, text b => Ord.compare a b
  | text _, blob _ => .lt
  | blob a, blob b => Ord.compare a b
  | blob _, _ => .gt

instance : Ord Key := ⟨compare⟩

theorem toKey_toValue (k : Key) : k.toValue.toKey = some k := by
  cases k <;> rfl

end Key

theorem Value.toValue_of_toKey {v : Value} {k : Key} (h : v.toKey = some k) : k.toValue = v := by
  cases v <;> simp_all [toKey, Key.toValue] <;> subst h <;> rfl

end TypedQuery
