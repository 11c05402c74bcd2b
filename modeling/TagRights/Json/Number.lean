import TagRights.Json.Basic
import TagRights.Decimal

namespace TagRights.Json

/-- The parts of a number as written. -/
structure NumberText where
  negative : Bool
  whole : List Char
  fraction : Option (List Char)
  exponent : Option Int

namespace NumberText

def readSign : List Char → Bool × List Char
  | '-' :: cs => (true, cs)
  | cs => (false, cs)

def readFraction : List Char → Option (List Char) × List Char
  | '.' :: cs => (some (cs.takeWhile Char.isDigit), cs.dropWhile Char.isDigit)
  | cs => (none, cs)

/-- An exponent must reach to the end. -/
def readExponent? : List Char → Option (Option Int)
  | [] => some none
  | mark :: cs => do
    guard (mark == 'e' || mark == 'E')
    let (negative, digits) := match cs with
      | '-' :: ds => (true, ds)
      | '+' :: ds => (false, ds)
      | ds => (false, ds)
    guard (!digits.isEmpty && digits.all Char.isDigit)
    let n : Int := Nat.ofDigitChars 10 digits 0
    return some (if negative then -n else n)

/-- The whole part has no leading zero, and a point is followed by a digit. -/
def read? (word : List Char) : Option NumberText := do
  let (negative, cs) := readSign word
  let whole := cs.takeWhile Char.isDigit
  guard (!whole.isEmpty && (whole.length == 1 || whole.head? != some '0'))
  let (fraction, cs) := readFraction (cs.dropWhile Char.isDigit)
  guard (fraction != some [])
  return { negative, whole, fraction, exponent := ← readExponent? cs }

/-- Appends digits to a number while it fits 64 bits. The second part holds the digits left over. -/
def absorb (n : Nat) : List Char → Nat × List Char
  | [] => (n, [])
  | c :: cs =>
    let next := 10 * n + (c.toNat - '0'.toNat)
    if next < Decimal.twoPow 64 then absorb next cs else (n, c :: cs)

/-- `x / 10 ^ n` in steps of the greatest finite power of ten. -/
def shrink (x : Float) (n : Nat) : Float :=
  if n ≤ 308 then x / Decimal.nearestFloat 1 n
  else if x == 0 then x
  else shrink (x / Decimal.nearestFloat 1 308) (n - 308)
termination_by n
decreasing_by omega

/-- `x * 10 ^ n`, unless it is beyond the finite numbers. -/
def scale? (x : Float) (n : Int) : Option Float :=
  if n < 0 then some (shrink x n.natAbs)
  else if n ≤ 308 then
    let product := x * Decimal.nearestFloat 1 n
    if product.isInf then none else some product
  else if x == 0 then some x
  else none

def toFloat? (t : NumberText) : Option Float := do
  let (n, leftOver) := absorb 0 t.whole
  let fraction := t.fraction.getD []
  let (n, ignored) := absorb n fraction
  let exponent : Int := leftOver.length - (fraction.length - ignored.length) + t.exponent.getD 0
  let x ← scale? (Decimal.nearestFloat n 0) exponent
  return if t.negative then -x else x

/-- Whole numbers from -2^63 to 2^64-1 stay exact. Of the others the leading digits that fit 64 bits
are scaled by one power of ten in floating point, so the last bit may not be that of the nearest. -/
def toJson? (t : NumberText) : Option Json :=
  let n := Nat.ofDigitChars 10 t.whole 0
  if t.fraction.isNone && t.exponent.isNone && n < Decimal.twoPow 64 then
    if !t.negative then some (.int n)
    else if 0 < n && n ≤ Decimal.twoPow 63 then some (.int (-n))
    else some (.float (-Decimal.nearestFloat n 0))
  else t.toFloat?.map .float

end NumberText

def number? (word : List Char) : Option Json := do
  (← NumberText.read? word).toJson?

end TagRights.Json
