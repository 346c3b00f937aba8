import TypedQuery.Text.Bounds

namespace TypedQuery.Text

/-- Bounds of White_Space. -/
def blankBounds : Array Nat := #[
  9, 14, 32, 33, 133, 134, 160, 161, 5760, 5761, 8192, 8203, 8232, 8234, 8239, 8240, 8287, 8288,
  12288, 12289]

def isBlank (c : Char) : Bool :=
  if c.toNat < 128 then c = ' ' || (9 ≤ c.toNat && c.toNat < 14) else within blankBounds c

end TypedQuery.Text
