import TypedQuery.Cursor.Rows

namespace TypedQuery

/-- A result of a query function, or a part of one. Reals are bit patterns. -/
inductive Datum where
  | integer (n : Int)
  | bool (b : Bool)
  | real (bits : UInt64)
  | single (bits : UInt32)
  | text (s : String)
  | blob (bytes : List UInt8)
  | absent
  | present (d : Datum)
  | list (ds : List Datum)
  /-- The fields of a struct, in the order in which it was built. -/
  | record (fields : List (String × Datum))
  /-- The entries of a map, with ascending keys. -/
  | entries (es : List (Datum × Datum))
  | count (n : Nat)
  | raw (rows : Snapshot)
  deriving Inhabited

namespace Datum

/-- Position of a kind of datum in the order of all data. -/
def rank : Datum → Nat
  | integer _ => 0
  | bool _ => 1
  | real _ => 2
  | single _ => 3
  | text _ => 4
  | blob _ => 5
  | absent => 6
  | present _ => 7
  | list _ => 8
  | record _ => 9
  | entries _ => 10
  | count _ => 11
  | raw _ => 12

mutual

/-- The order of the types that every module knows, and of structs that derive theirs: absent before
present, lists and records item by item. Data of different kinds never meet in one map. -/
def compare : Datum → Datum → Ordering
  | integer a, integer b => Ord.compare a b
  | bool a, bool b => Ord.compare a b
  | real a, real b => Ord.compare a b
  | single a, single b => Ord.compare a b
  | text a, text b => Ord.compare a b
  | blob a, blob b => Ord.compare a b
  | count a, count b => Ord.compare a b
  | present a, present b => compare a b
  | list a, list b => compareList a b
  | record a, record b => compareFields a b
  | a, b => Ord.compare a.rank b.rank

def compareList : List Datum → List Datum → Ordering
  | [], [] => .eq
  | [], _ :: _ => .lt
  | _ :: _, [] => .gt
  | a :: as, b :: bs => (compare a b).then (compareList as bs)

/-- Records of one struct have the same field names, so only the values decide. -/
def compareFields : List (String × Datum) → List (String × Datum) → Ordering
  | [], [] => .eq
  | [], _ :: _ => .lt
  | _ :: _, [] => .gt
  | (_, a) :: as, (_, b) :: bs => (compare a b).then (compareFields as bs)

end

end Datum

end TypedQuery
