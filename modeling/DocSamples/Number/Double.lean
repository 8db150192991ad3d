import DocSamples.Text.Digit

namespace DocSamples

/-- A double-precision number; a finite magnitude is a count of the smallest positive one,
2⁻¹⁰⁷⁴. -/
inductive Double
  | nan
  | infinite (negative : Bool)
  | finite (negative : Bool) (units : Nat)
  deriving DecidableEq, Repr

namespace Double

def unitsPerOne : Nat := Nat.pow 2 1074

/-- The nearest whole number to a quotient; of two equally near ones the even one. -/
def roundQuotient (num den : Nat) : Nat :=
  let q := num / den
  let r := num % den
  if 2 * r < den then q
  else if den < 2 * r then q + 1
  else if q % 2 = 0 then q else q + 1

/-- The number of units to which a quotient of units rounds: 53 binary digits are kept. -/
def roundUnits (num den : Nat) : Nat :=
  let shift := (num / den).log2 - 52
  roundQuotient num (den * Nat.pow 2 shift) * Nat.pow 2 shift

/-- A magnitude that reaches 2¹⁰²⁴ is infinite. -/
def ofUnits (negative : Bool) (units : Nat) : Double :=
  if units < Nat.pow 2 2098 then .finite negative units else .infinite negative

def ofQuotient (negative : Bool) (num den : Nat) : Double :=
  ofUnits negative (roundUnits (num * unitsPerOne) den)

def zero : Double := .finite false 0

def ofInt (i : Int) : Double := ofQuotient (i < 0) i.natAbs 1

def isInfinite : Double → Bool
  | .infinite _ => true
  | _ => false

def neg : Double → Double
  | .nan => .nan
  | .infinite s => .infinite !s
  | .finite s m => .finite (!s) m

def signedUnits (negative : Bool) (units : Nat) : Int := if negative then -units else units

def add : Double → Double → Double
  | .nan, _ => .nan
  | _, .nan => .nan
  | .infinite s, .infinite t => if s = t then .infinite s else .nan
  | .infinite s, _ => .infinite s
  | _, .infinite t => .infinite t
  | .finite s m, .finite t n =>
    let sum := signedUnits s m + signedUnits t n
    if sum = 0 then .finite (s && t) 0 else ofUnits (sum < 0) (roundUnits sum.natAbs 1)

def mul : Double → Double → Double
  | .nan, _ => .nan
  | _, .nan => .nan
  | .infinite s, .infinite t => .infinite (s != t)
  | .infinite s, .finite t n => if n = 0 then .nan else .infinite (s != t)
  | .finite s m, .infinite t => if m = 0 then .nan else .infinite (s != t)
  | .finite s m, .finite t n => ofUnits (s != t) (roundUnits (m * n) unitsPerOne)

/-- At most zero; a number that is no number is not. -/
def isNonPositive : Double → Bool
  | .nan => false
  | .infinite negative => negative
  | .finite negative units => negative || units == 0

/-- Equality of numbers: the two zeros are equal, and what is no number equals nothing. -/
def sameNumber : Double → Double → Bool
  | .infinite s, .infinite t => s == t
  | .finite s m, .finite t n => m == n && (s == t || m == 0)
  | _, _ => false

/-- A finite number is a whole number when its magnitude is a multiple of one. -/
def whole? : Double → Option Int
  | .finite s m => if m % unitsPerOne = 0 then some (signedUnits s (m / unitsPerOne)) else none
  | _ => none

end Double

end DocSamples
