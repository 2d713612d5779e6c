/-!
# Double precision numbers

The values of conditions are IEEE 754 double precision numbers, kept as their 64 bits,
so that equal numbers are equal values and nothing depends on machine arithmetic. All
arithmetic is exact arithmetic on naturals followed by one rounding.

The bits without the sign are the *magnitude*: it counts the numbers from zero up, so
the order of magnitudes is the order of absolute values, and the largest one that is no
number stands for infinity. Every finite absolute value is a multiple of `2 ^ -1074`;
`Binary64.units` says which.

Key definitions: `Binary64`, `Binary64.units`, `Binary64.magnitudeOfRatio`.
-/

namespace RequestSql

/-- A double precision number, given by its bits. -/
structure Binary64 where
  /-- Sign, exponent and fraction, from the highest bit to the lowest. -/
  bits : UInt64
deriving DecidableEq, Repr

namespace Binary64

/-- The magnitude of infinity; greater ones are no numbers. -/
def infiniteMagnitude : Nat := 0x7FF0000000000000

/-- The weight of the sign bit. -/
def signWeight : Nat := 0x8000000000000000

/-- The number with a sign and a magnitude. -/
def ofMagnitude (negative : Bool) (magnitude : Nat) : Binary64 :=
  ⟨UInt64.ofNat (if negative then signWeight + magnitude else magnitude)⟩

/-- Whether the sign bit is set. -/
def isNegative (x : Binary64) : Bool := signWeight ≤ x.bits.toNat

/-- The bits without the sign. -/
def magnitude (x : Binary64) : Nat := x.bits.toNat % signWeight

/-- Whether the number is finite. -/
def isFinite (x : Binary64) : Bool := x.magnitude < infiniteMagnitude

/-- Whether the number is positive or negative zero. -/
def isZero (x : Binary64) : Bool := x.magnitude == 0

/-- How many times `2 ^ -1074` goes into the absolute value of a finite number with this
magnitude: the fraction as it is when the exponent field is zero, else the fraction with
its leading bit, shifted by the exponent. -/
def unitsOfMagnitude (magnitude : Nat) : Nat :=
  if magnitude < Nat.pow 2 52 then magnitude
  else (Nat.pow 2 52 + magnitude % Nat.pow 2 52) * Nat.pow 2 (magnitude / Nat.pow 2 52 - 1)

/-- The absolute value of a finite number, as a multiple of `2 ^ -1074`. -/
def units (x : Binary64) : Nat := unitsOfMagnitude x.magnitude

/-- The quotient rounded to the nearest natural, a half to the even neighbour. -/
def roundQuotient (numerator denominator : Nat) : Nat :=
  let quotient := numerator / denominator
  let twice := 2 * (numerator % denominator)
  if twice < denominator then quotient
  else if denominator < twice then quotient + 1
  else quotient + quotient % 2

/-- The magnitude nearest to a ratio. The quotient in units of `2 ^ -1074` is cut to its
leading 53 bits and rounded there; a carry out of the fraction runs into the exponent,
as it should, and what exceeds every finite number is infinite. -/
def magnitudeOfRatio (numerator denominator : Nat) : Nat :=
  let scaled := numerator * Nat.pow 2 1074
  let shift := (scaled / denominator).log2 - 52
  min infiniteMagnitude
    (shift * Nat.pow 2 52 + roundQuotient scaled (denominator * Nat.pow 2 shift))

/-- The number nearest to a ratio, with the given sign. -/
def ofRatio (negative : Bool) (numerator denominator : Nat) : Binary64 :=
  ofMagnitude negative (magnitudeOfRatio numerator denominator)

/-- The number nearest to an integer; zero is positive. -/
def ofInt (n : Int) : Binary64 := ofRatio (n < 0) n.natAbs 1

/-- The number with the other sign. -/
def neg (x : Binary64) : Binary64 := ofMagnitude (!x.isNegative) x.magnitude

end Binary64

end RequestSql
