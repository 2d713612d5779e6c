import RequestSql.Number.Binary64

/-!
# Decimal numerals

Decimal numerals of double precision numbers, both ways. A numeral is read to the
nearest number. The other way gives the shortest numeral that reads back: for one, two
and more digits the two neighbours of the value on that decimal grid are tried, and the
first grid with a hit decides; of two hits the nearer one is taken.

Key definitions: `Binary64.parse?`, `Decimal`, `Decimal.magnitude`, `Binary64.shortest`.
-/

namespace RequestSql

/-- The value of a list of decimal digits, the most significant first. -/
def digitsValue (digits : List Char) : Nat :=
  digits.foldl (fun value c => 10 * value + (c.toNat - '0'.toNat)) 0

namespace Binary64

/-- The number with this sign that is nearest to what digits say, with a point before, among
or behind them or none. -/
def parseDigits? (negative : Bool) (text : List Char) : Option Binary64 :=
  let whole := text.takeWhile (· != '.')
  let places := (text.dropWhile (· != '.')).drop 1
  let digits := whole ++ places
  if !digits.isEmpty && digits.all Char.isDigit then
    some (ofRatio negative (digitsValue digits) (Nat.pow 10 places.length))
  else none

/-- The number nearest to a numeral, which is digits with a sign before them or none. There
is none if the text is not of this form. Exponents and the names of infinity are left out:
no text that is read by this has letters. -/
def parse? : List Char → Option Binary64
  | '-' :: text => parseDigits? true text
  | '+' :: text => parseDigits? false text
  | text => parseDigits? false text

end Binary64

/-- A decimal numeral without sign: `digits` times ten to the `exponent`. -/
structure Decimal where
  /-- The digits as one number. -/
  digits : Nat
  /-- The power of ten that the last digit counts. -/
  exponent : Int
deriving DecidableEq, Repr

namespace Decimal

/-- The value as a quotient of naturals. -/
def ratio (d : Decimal) : Nat × Nat :=
  if 0 ≤ d.exponent then (d.digits * Nat.pow 10 d.exponent.toNat, 1)
  else (d.digits, Nat.pow 10 (-d.exponent).toNat)

/-- The magnitude of the double precision number nearest to the numeral. -/
def magnitude (d : Decimal) : Nat := Binary64.magnitudeOfRatio d.ratio.1 d.ratio.2

/-- The written digits, the most significant first. -/
def digitText (d : Decimal) : List Char := Nat.toDigits 10 d.digits

/-- The same value without zeros at the end of the digits; `fuel` bounds their number. -/
def dropZeros : (fuel : Nat) → Decimal → Decimal
  | 0, d => d
  | fuel + 1, d =>
    if d.digits ≠ 0 ∧ d.digits % 10 = 0 then dropZeros fuel ⟨d.digits / 10, d.exponent + 1⟩
    else d

/-- The power of ten that the first digit counts. -/
def scientificExponent (d : Decimal) : Int := d.exponent + d.digitText.length - 1

end Decimal

/-- What is taken when a value lies half-way between two shortest numerals. -/
inductive Tie where
  /-- The greater one. -/
  | up
  /-- The one whose last digit is even. -/
  | even
deriving DecidableEq, Repr

namespace Binary64

/-- How many decimal digits a natural has; zero has none. -/
def digitCount (n : Nat) : Nat := if n = 0 then 0 else (Nat.toDigits 10 n).length

/-- The power of ten that the first digit of a positive value counts, for `units` times
`2 ^ -1074`. -/
def leadingExponent (units : Nat) : Int :=
  if Nat.pow 2 1074 ≤ units then (digitCount (units / Nat.pow 2 1074) : Int) - 1
  else -(digitCount ((Nat.pow 2 1074 - 1) / units) : Int)

/-- The value on the grid of the multiples of `10 ^ exponent`, as a quotient of naturals
that counts grid steps. -/
def gridRatio (units : Nat) (exponent : Int) : Nat × Nat :=
  if 0 ≤ exponent then (units, Nat.pow 2 1074 * Nat.pow 10 exponent.toNat)
  else (units * Nat.pow 10 (-exponent).toNat, Nat.pow 2 1074)

/-- The neighbour on a decimal grid that reads back as this magnitude: the nearer one
where both do. -/
def nearestOnGrid (tie : Tie) (magnitude : Nat) (exponent : Int) : Option Decimal :=
  let (numerator, denominator) := gridRatio (unitsOfMagnitude magnitude) exponent
  let below : Decimal := ⟨numerator / denominator, exponent⟩
  let above : Decimal := ⟨numerator / denominator + 1, exponent⟩
  let twice := 2 * (numerator % denominator)
  let preferAbove :=
    denominator < twice ||
      (twice == denominator && (tie == .up || below.digits % 2 == 1))
  if below.magnitude = magnitude then
    if above.magnitude = magnitude && preferAbove then some above else some below
  else if above.magnitude = magnitude then some above
  else none

/-- The finest grid has every finite value on it. -/
def exactDecimal (magnitude : Nat) : Decimal :=
  ⟨unitsOfMagnitude magnitude * Nat.pow 5 1074, -1074⟩

/-- The first grid with a neighbour that reads back, from a digit count on, `fuel` counts
long; else the exact numeral. -/
def shortestFrom (tie : Tie) (magnitude : Nat) (digits : Nat) : (fuel : Nat) → Decimal
  | 0 => exactDecimal magnitude
  | fuel + 1 =>
    let exponent := leadingExponent (unitsOfMagnitude magnitude) + 1 - digits
    (nearestOnGrid tie magnitude exponent).getD (shortestFrom tie magnitude (digits + 1) fuel)

/-- The shortest numeral that reads back as the absolute value of a finite number.
Seventeen digits are always enough. -/
def shortest (tie : Tie) (x : Binary64) : Decimal :=
  if x.isZero then ⟨0, 0⟩
  else
    let d := shortestFrom tie x.magnitude 1 17
    d.dropZeros d.digitText.length

end Binary64

end RequestSql
