import RequestSql.Number.Decimal

/-!
# How a number is laid out

A number is written as its shortest numeral, in one of two notations: positional, or
one digit before the point and a power of ten. A `NumberLayout` says which exponents are
written positionally and how the marks look.

Key definitions: `NumberLayout`, `NumberLayout.write`.
-/

namespace RequestSql

/-- The choices of a way to write numbers. -/
structure NumberLayout where
  /-- The exponents of the first digit from which on notation is positional, and below
  which it is again not; always positional if there are none. -/
  positional : Option (Int × Int)
  /-- Whether an integral value in positional notation ends in `.0`. -/
  pointZero : Bool
  /-- Whether a positive power of ten carries a plus sign. -/
  plusSign : Bool
  /-- Which of two equally near shortest numerals is written. -/
  tie : Tie

namespace NumberLayout

/-- The layout of listings and messages. -/
def listing : NumberLayout := ⟨some (-4, 16), true, false, .up⟩

/-- The layout of JSON text. -/
def json : NumberLayout := ⟨some (-5, 16), true, true, .even⟩

/-- The layout of SQL literals: digits and a point, nothing else. -/
def literal : NumberLayout := ⟨none, false, false, .up⟩

/-- `n` zeros. -/
def zeros (n : Nat) : List Char := List.replicate n '0'

/-- Digits that count from `10 ^ exponent` up, with the point where it belongs. -/
def positionalText (l : NumberLayout) (digits : List Char) (exponent : Int) : List Char :=
  if 0 ≤ exponent then
    digits ++ zeros exponent.toNat ++ (if l.pointZero then ".0".toList else [])
  else
    let places := (-exponent).toNat
    if places < digits.length then
      digits.take (digits.length - places) ++ '.' :: digits.drop (digits.length - places)
    else "0.".toList ++ zeros (places - digits.length) ++ digits

/-- One digit, the others behind a point, and the power of ten of the first. -/
def scientificText (l : NumberLayout) (digits : List Char) (power : Int) : List Char :=
  digits.take 1 ++ (if digits.length ≤ 1 then [] else '.' :: digits.drop 1) ++
    'e' :: (if power < 0 then ['-'] else if l.plusSign then ['+'] else []) ++
    Nat.toDigits 10 power.natAbs

/-- Whether a value with this exponent of its first digit is written positionally. -/
def isPositional (l : NumberLayout) (d : Decimal) : Bool :=
  match l.positional with
  | none => true
  | some (low, high) =>
    d.digits == 0 || (low ≤ d.scientificExponent && d.scientificExponent < high)

/-- The text of a numeral. -/
def decimalText (l : NumberLayout) (d : Decimal) : List Char :=
  if l.isPositional d then l.positionalText d.digitText d.exponent
  else l.scientificText d.digitText d.scientificExponent

/-- The text of a number. -/
def write (l : NumberLayout) (x : Binary64) : String :=
  if Binary64.infiniteMagnitude < x.magnitude then "NaN"
  else
    String.ofList <|
      (if x.isNegative then ['-'] else []) ++
        if x.isFinite then l.decimalText (x.shortest l.tie) else "inf".toList

end NumberLayout

end RequestSql
