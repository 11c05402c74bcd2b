namespace TagRights.Decimal

abbrev twoPow (n : Nat) : Nat := Nat.pow 2 n

abbrev tenPow (n : Nat) : Nat := Nat.pow 10 n

/-- `num / den` to the nearest natural number; a half goes to the even one. -/
def roundHalfEven (num den : Nat) : Nat :=
  let quotient := num / den
  let twice := 2 * (num % den)
  if twice < den || (twice == den && quotient % 2 == 0) then quotient else quotient + 1

/-- The number `significand * 2 ^ (scale - 1074)`: the scale counts from the least positive
binary64 number. -/
structure Magnitude where
  significand : Nat
  scale : Nat
  deriving DecidableEq

namespace Magnitude

def ofFloat (x : Float) : Magnitude :=
  let bits := x.toBits.toNat
  match bits / twoPow 52 % twoPow 11 with
  | 0 => ⟨bits % twoPow 52, 0⟩
  | scale + 1 => ⟨twoPow 52 + bits % twoPow 52, scale⟩

/-- The magnitude nearest to `num / den`, with at most 53 bits or with 54 and all but the first
zero. -/
def nearest (num den : Nat) : Magnitude :=
  let units := num * twoPow 1074
  let scale := (units / den).log2 - 52
  ⟨roundHalfEven units (den * twoPow scale), scale⟩

/-- The leading bit of a significand of 53 bits adds one to the exponent field, which makes the
scale the exponent field less one. Beyond the greatest finite number lies infinity. -/
def toFloat (x : Magnitude) : Float :=
  Float.ofBits (UInt64.ofNat (min (x.significand + x.scale * twoPow 52) (2047 * twoPow 52)))

end Magnitude

/-- The binary64 number nearest to `digits * 10 ^ exponent`. Outside the bounds of the second
and third case every decimal overflows or rounds to zero. -/
def nearestFloat (digits : Nat) (exponent : Int) : Float :=
  let leading := (Nat.toDigits 10 digits).length + exponent
  if digits = 0 then 0
  else if 400 < leading then (Magnitude.mk 0 2047).toFloat
  else if leading < -400 then 0
  else (Magnitude.nearest (digits * tenPow exponent.toNat) (tenPow (-exponent).toNat)).toFloat

namespace Magnitude

/-- The magnitude in quarters of the least positive number. -/
def quarters (x : Magnitude) : Nat :=
  4 * x.significand * twoPow x.scale

/-- Half the distance to the next greater magnitude, in quarters. -/
def gapAbove (x : Magnitude) : Nat :=
  2 * twoPow x.scale

/-- Half the distance to the next smaller magnitude. Just above a power of two it is half as far. -/
def gapBelow (x : Magnitude) : Nat :=
  if x.significand = twoPow 52 ∧ 0 < x.scale then twoPow x.scale else 2 * twoPow x.scale

/-- Whether `digits * 10 ^ exponent` rounds to `x`. The ends of the interval do so when the
significand is even. -/
def readsBack (x : Magnitude) (digits : Nat) (exponent : Int) : Bool :=
  let point := digits * tenPow exponent.toNat * twoPow 1076
  let low := (x.quarters - x.gapBelow) * tenPow (-exponent).toNat
  let high := (x.quarters + x.gapAbove) * tenPow (-exponent).toNat
  if x.significand % 2 = 0 then low ≤ point && point ≤ high else low < point && point < high

/-- Of the two multiples of `10 ^ exponent` next to `x` the nearer that reads back as `x`. -/
def onGrid? (x : Magnitude) (exponent : Int) : Option Nat :=
  let exact := x.quarters * tenPow (-exponent).toNat
  let step := tenPow exponent.toNat * twoPow 1076
  let near := roundHalfEven exact step
  let far := 2 * (exact / step) + 1 - near
  if x.readsBack near exponent then some near
  else if x.readsBack far exponent then some far
  else none

/-- The first hit among the grids `10 ^ exponent`, `10 ^ (exponent - 1)` and so on. -/
def searchGrids (x : Magnitude) : Nat → Int → Nat × Int
  | 0, exponent => ((x.onGrid? exponent).getD 0, exponent)
  | tries + 1, exponent =>
    match x.onGrid? exponent with
    | some digits => (digits, exponent)
    | none => x.searchGrids tries (exponent - 1)

/-- The digits and the exponent of the shortest decimal that reads back as `x`. The first grid is
coarser than `x`, and with seventeen digits every magnitude reads back. -/
def shortest (x : Magnitude) : Nat × Int :=
  let bits : Int := x.significand.log2 + 1 + x.scale - 1074
  x.searchGrids 24 (bits * 30103 / 100000 + 2)

end Magnitude

/-- The exponents of the leading digit that are written without an exponent mark. -/
structure Layout where
  least : Int
  greatest : Int

/-- The decimal `digits * 10 ^ exponent` with at least one digit before and after the point, or with
an exponent of explicit sign. -/
def Layout.write (layout : Layout) (digits : Nat) (exponent : Int) : List Char :=
  let ds := Nat.toDigits 10 digits
  let leading := exponent + ds.length - 1
  if layout.least ≤ leading ∧ leading ≤ layout.greatest then
    if 0 ≤ exponent then ds ++ List.replicate exponent.toNat '0' ++ ['.', '0']
    else if 0 ≤ leading then ds.take (leading.toNat + 1) ++ '.' :: ds.drop (leading.toNat + 1)
    else '0' :: '.' :: List.replicate (-leading - 1).toNat '0' ++ ds
  else
    ds.take 1 ++ (if ds.length = 1 then [] else '.' :: ds.drop 1) ++
      'e' :: (if leading < 0 then '-' else '+') :: Nat.toDigits 10 leading.natAbs

/-- A finite number. Zero has no shortest digits other than its own, and keeps its sign. -/
def Layout.writeFloat (layout : Layout) (x : Float) : List Char :=
  let sign := if twoPow 63 ≤ x.toBits.toNat then ['-'] else []
  let magnitude := Magnitude.ofFloat x
  if magnitude.significand = 0 then sign ++ layout.write 0 0
  else sign ++ layout.write magnitude.shortest.1 magnitude.shortest.2

end TagRights.Decimal
