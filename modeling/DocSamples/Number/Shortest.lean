import DocSamples.Number.Double

namespace DocSamples.Double

open Text (ofNat ofInt)

/-- A decimal number: its digits as a whole number, times a power of ten. -/
structure Decimal where
  digits : Nat
  exponent : Int
  deriving DecidableEq, Repr

/-- The real numbers that round to a magnitude, in quarters of a unit; the ends belong to it when
the last of its 53 binary digits is even. -/
structure Basin where
  lower : Nat
  upper : Nat
  closed : Bool

/-- Below a power of two the doubles lie twice as dense as above it. -/
def basin (units : Nat) : Basin :=
  let shift := units.log2 - 52
  let gap := Nat.pow 2 shift
  let atPower := shift ≠ 0 && units = Nat.pow 2 units.log2
  { lower := 4 * units - if atPower then gap else 2 * gap
    upper := 4 * units + 2 * gap
    closed := units / gap % 2 = 0 }

/-- A decimal in quarters of a unit is the quotient of these two numbers. -/
def Decimal.quarters (d : Decimal) : Nat × Nat :=
  let base := d.digits * (4 * unitsPerOne)
  match d.exponent with
  | .ofNat e => (base * Nat.pow 10 e, 1)
  | .negSucc e => (base, Nat.pow 10 (e + 1))

def Basin.holds (b : Basin) (d : Decimal) : Bool :=
  let (num, den) := d.quarters
  if b.closed then b.lower * den ≤ num && num ≤ b.upper * den
  else b.lower * den < num && num < b.upper * den

/-- The distance of a decimal from a magnitude, in quarters of a unit over a denominator that
depends on the exponent only. -/
def Decimal.distance (d : Decimal) (units : Nat) : Nat :=
  let (num, den) := d.quarters
  let value := 4 * units * den
  if num ≤ value then value - num else num - value

/-- The power of ten at or below a positive magnitude. -/
def decimalExponent (units : Nat) : Int :=
  (Nat.toDigits 10 (units * Nat.pow 10 400 / unitsPerOne)).length - 1 - 400

/-- The whole part of a magnitude over a power of ten. -/
def floorAt (units : Nat) (exponent : Int) : Nat :=
  match exponent with
  | .ofNat e => units / (unitsPerOne * Nat.pow 10 e)
  | .negSucc e => units * Nat.pow 10 (e + 1) / unitsPerOne

/-- The decimal with `count` digits that is nearest to a magnitude, if one reads back as it; of two
equally near ones the even one. -/
def nearestWith? (units count : Nat) : Option Decimal :=
  let exponent := decimalExponent units - count + 1
  let below : Decimal := ⟨floorAt units exponent, exponent⟩
  let above : Decimal := ⟨below.digits + 1, exponent⟩
  match (basin units).holds below, (basin units).holds above with
  | true, true =>
    let toBelow := below.distance units
    let toAbove := above.distance units
    some (if toBelow < toAbove || toBelow = toAbove && below.digits % 2 = 0 then below else above)
  | true, false => some below
  | false, true => some above
  | false, false => none

/-- The decimal with the fewest digits that reads back as a magnitude, the nearest of those. -/
def shortest (units : Nat) : Decimal :=
  ((List.range 17).findSome? fun n => nearestWith? units (n + 1)).getD ⟨0, 0⟩

def significantDigits (n : Nat) : Text :=
  ((ofNat n).reverse.dropWhile (· == '0')).reverse

/-- Powers of ten from 10⁻⁴ to 10¹⁵ are written in place, others with an exponent of two digits
or more. -/
def positiveText (units : Nat) : Text :=
  let d := shortest units
  let ds := significantDigits d.digits
  let point : Int := (ofNat d.digits).length + d.exponent
  if point ≤ -4 || 16 < point then
    let e := point - 1
    let mantissa := match ds with
      | [] => []
      | [c] => [c]
      | c :: rest => c :: '.' :: rest
    let size := ofNat e.natAbs
    mantissa ++ 'e' :: (if e < 0 then '-' else '+') ::
      (List.replicate (2 - size.length) '0' ++ size)
  else if point ≤ 0 then
    '0' :: '.' :: (List.replicate (-point).toNat '0' ++ ds)
  else
    let whole := ds.take point.toNat
    let fraction := ds.drop point.toNat
    whole ++ List.replicate (point.toNat - whole.length) '0' ++
      '.' :: (if fraction.isEmpty then ['0'] else fraction)

/-- The fewest digits that read back as the number, always with a point or an exponent. -/
def text : Double → Text
  | .nan => "nan"
  | .infinite negative => if negative then "-inf" else "inf"
  | .finite negative units =>
    (if negative then ['-'] else []) ++ (if units = 0 then "0.0".toList else positiveText units)

end DocSamples.Double
