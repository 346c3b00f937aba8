/-!
Binary interchange formats of floating-point numbers, as bit patterns. A finite pattern stands for
`significand * 2 ^ exponent`; `Format.round` goes back, to the nearest pattern, and a tie goes to
the even one. All arithmetic is exact.
-/

namespace TypedQuery.Number

/-- The weight of a binary place: a power of two. -/
def weight (place : Nat) : Nat := Nat.pow 2 place

/-- Widths in bits of the two fields below the sign. -/
structure Format where
  fraction : Nat
  exponent : Nat
  deriving DecidableEq, Repr

def binary32 : Format := ⟨23, 8⟩

def binary64 : Format := ⟨52, 11⟩

namespace Format

/-- The exponent of the unit in the last place of the smallest numbers. -/
def least (f : Format) : Int := 2 - weight (f.exponent - 1) - f.fraction

/-- The pattern of positive infinity; larger patterns without the sign are no numbers. -/
def infinity (f : Format) : Nat := (weight f.exponent - 1) * weight f.fraction

def signBit (f : Format) : Nat := weight (f.fraction + f.exponent)

def isNegative (f : Format) (bits : Nat) : Bool := bits ≥ f.signBit

def magnitude (f : Format) (bits : Nat) : Nat := bits % f.signBit

def isNaN (f : Format) (bits : Nat) : Bool := f.magnitude bits > f.infinity

/-- One pattern that is no number, for results whose payload does not matter. -/
def nan (f : Format) : Nat := f.infinity + weight (f.fraction - 1)

/-- Significand and exponent of a finite pattern without its sign. The lowest two exponent fields
share one exponent, and only the upper of them has the implicit leading bit. -/
def split (f : Format) (magnitude : Nat) : Nat × Int :=
  let field := magnitude / weight f.fraction
  let fraction := magnitude % weight f.fraction
  if field = 0 then (fraction, f.least) else (weight f.fraction + fraction, f.least + (field - 1))

/-- The nearest integer to `numerator / 2 ^ shift`, a tie to the even one. -/
def halfEven (numerator shift : Nat) : Nat :=
  let quotient := numerator / weight shift
  let twice := 2 * (numerator % weight shift)
  if twice > weight shift ∨ twice = weight shift ∧ quotient % 2 = 1 then quotient + 1 else quotient

/-- The pattern nearest to `significand * 2 ^ exponent`. A carry out of the rounded significand
moves into the exponent field by itself, and numbers past the largest one become infinite. -/
def round (f : Format) (negative : Bool) (significand : Nat) (exponent : Int) : Nat :=
  let sign := if negative then f.signBit else 0
  if significand = 0 then sign
  else
    let lead : Int := exponent + significand.log2
    let unit : Int := max (lead - f.fraction) f.least
    let rounded :=
      if unit ≤ exponent then significand * weight (exponent - unit).toNat
      else halfEven significand (unit - exponent).toNat
    let bits := (unit - f.least).toNat * weight f.fraction + rounded
    sign + min bits f.infinity

/-- The pattern of `target` nearest to a pattern of `source`. -/
def convert (source target : Format) (bits : Nat) : Nat :=
  let negative := source.isNegative bits
  let magnitude := source.magnitude bits
  if source.isNaN bits then target.nan
  else if magnitude = source.infinity then
    (if negative then target.signBit else 0) + target.infinity
  else
    let (significand, exponent) := source.split magnitude
    target.round negative significand exponent

/-- The pattern nearest to an integer. -/
def ofInt (f : Format) (n : Int) : Nat := f.round (n < 0) n.natAbs 0

/-- Numerical equality: nothing equals a pattern that is no number, and the two zeros are equal. -/
def same (f : Format) (a b : Nat) : Bool :=
  !f.isNaN a && !f.isNaN b && (a == b || f.magnitude a == 0 && f.magnitude b == 0)

end Format

end TypedQuery.Number
