import RequestSql.Json.Value
import RequestSql.Number.Decimal

/-!
# Numerals of JSON text

A JSON numeral is a sign, whole digits, a fraction and a power of ten. An integer in
range is kept as it is. Any other numeral is read in two steps: its leading digits, as
many as 64 bits hold, are rounded to a double precision number, and this is multiplied
or divided by a power of ten, which rounds again. A value beyond the finite numbers is
refused.

Key definitions: `Numeral`, `Numeral.value?`.
-/

namespace RequestSql

namespace Binary64

/-- The nearest number to a product; the sign is that of the first factor. -/
def scaleUp (x factor : Binary64) : Binary64 :=
  ofRatio x.isNegative (x.units * factor.units) (Nat.pow 2 (2 * 1074))

/-- The nearest number to a quotient; the sign is that of the dividend. -/
def scaleDown (x divisor : Binary64) : Binary64 :=
  ofRatio x.isNegative x.units divisor.units

/-- The number nearest to a power of ten. -/
def powerOfTen (exponent : Nat) : Binary64 := ofRatio false (Nat.pow 10 exponent) 1

/-- The exponent of the greatest power of ten that is finite. -/
def maxPowerOfTen : Nat := 308

/-- A number divided by a power of ten, in as few steps as finite powers allow. -/
def divideByPower (x : Binary64) (exponent : Nat) : Binary64 :=
  if exponent ≤ maxPowerOfTen then x.scaleDown (powerOfTen exponent)
  else if x.isZero then x
  else divideByPower (x.scaleDown (powerOfTen maxPowerOfTen)) (exponent - maxPowerOfTen)
termination_by exponent
decreasing_by simp only [maxPowerOfTen] at *; omega

/-- A number times a power of ten, unless that is too great. -/
def timesPower? (x : Binary64) (exponent : Nat) : Option Binary64 :=
  if exponent ≤ maxPowerOfTen then
    let product := x.scaleUp (powerOfTen exponent)
    if product.isFinite then some product else none
  else if x.isZero then some x
  else none

end Binary64

/-- The parts of a numeral. -/
structure Numeral where
  negative : Bool
  whole : List Char
  /-- The digits after the point, if there is one. -/
  places : Option (List Char)
  /-- The sign and the digits of the power of ten, if there is one. -/
  power : Option (Bool × List Char)
deriving Repr

namespace Numeral

/-- One more than the greatest significand. -/
def significandLimit : Nat := Nat.pow 2 64

/-- Digits appended to a significand as long as it stays below the limit, and the digits
that are left. -/
def extend (significand : Nat) : List Char → Nat × List Char
  | [] => (significand, [])
  | c :: digits =>
    let longer := 10 * significand + (c.toNat - '0'.toNat)
    if longer < significandLimit then extend longer digits else (significand, c :: digits)

/-- The power of ten as an integer. -/
def powerValue (n : Numeral) : Int :=
  match n.power with
  | none => 0
  | some (negative, digits) =>
    if negative then -(digitsValue digits : Int) else digitsValue digits

/-- One more than the greatest power of ten that is read to its end. -/
def powerLimit : Nat := Nat.pow 2 31

/-- The digits after the one by which a power of ten reaches the limit, `value` being
what the digits before say. -/
def beyondLimit (value : Nat) : List Char → List Char
  | [] => []
  | c :: digits =>
    let longer := 10 * value + (c.toNat - '0'.toNat)
    if longer < powerLimit then beyondLimit longer digits else digits

/-- The digits that are left when a numeral is found to be too great: none, unless its
power of ten reaches the limit. -/
def unread (n : Numeral) : List Char :=
  match n.power with
  | some (false, digits) => beyondLimit 0 digits
  | _ => []

/-- The value in double precision, if it is in range. -/
def real? (n : Numeral) : Option Binary64 :=
  let places := n.places.getD []
  let (leading, uncounted) := extend 0 n.whole
  let (significand, dropped) := extend leading places
  let exponent : Int := uncounted.length - (places.length - dropped.length) + n.powerValue
  let x := Binary64.ofRatio false significand 1
  let scaled :=
    if 0 ≤ exponent then x.timesPower? exponent.toNat
    else some (x.divideByPower (-exponent).toNat)
  scaled.map fun y => if n.negative then y.neg else y

/-- The integer, if the numeral has neither point nor power and is in range; minus zero
is no integer. -/
def integer? (n : Numeral) : Option Int :=
  if n.places.isSome || n.power.isSome then none
  else
    let magnitude := digitsValue n.whole
    if n.negative then
      if 0 < magnitude ∧ magnitude ≤ Nat.pow 2 63 then some (-magnitude) else none
    else if magnitude < Nat.pow 2 64 then some magnitude
    else none

/-- The number that a numeral is, if it is in range. -/
def value? (n : Numeral) : Option JsonNumber :=
  match n.integer? with
  | some value => some (.integer value)
  | none => n.real?.map .real

end Numeral

end RequestSql
