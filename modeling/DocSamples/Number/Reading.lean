import DocSamples.Number.Double
import DocSamples.Text.Blank
import DocSamples.Text.Points

namespace DocSamples

open Text (ofNat)

/-- A blank at the end of a number that is dropped even where only ASCII is looked at. -/
def isAsciiBlank (c : Char) : Bool := c == ' ' || 9 ≤ c.toNat && c.toNat ≤ 13

def isAsciiDigit (c : Char) : Bool := '0' ≤ c && c ≤ '9'

/-- Outside ASCII, a digit stands for the ASCII digit of its value and a blank for a space. -/
def plainChar (c : Char) : Char :=
  if c.toNat < 127 then c
  else if isBlank c then ' '
  else match digitValue? c with
    | some n => Char.ofNat (48 + n)
    | none => '?'

/-- The characters of a number, without blanks around it. -/
def numberText (t : Text) : Text :=
  let plain := t.map plainChar
  ((plain.dropWhile isAsciiBlank).reverse.dropWhile isAsciiBlank).reverse

/-- A text without its underscores, each of which has to stand between two digits. -/
def dropUnderscores? (digit : Char → Bool) : (afterDigit : Bool) → Text → Option Text
  | _, [] => some []
  | afterDigit, '_' :: t =>
    match t with
    | c :: _ => if afterDigit && digit c then dropUnderscores? digit false t else none
    | [] => none
  | _, c :: t => (dropUnderscores? digit (digit c) t).map (c :: ·)

def splitSign : Text → Bool × Text
  | '-' :: t => (true, t)
  | '+' :: t => (false, t)
  | t => (false, t)

namespace Double

/-- The number whose digits are `digits` with the point moved by `exponent` places. -/
def ofDecimal (negative : Bool) (digits : Text) (exponent : Int) : Double :=
  let n := digits.digitsValue
  let order : Int := (digits.dropWhile (· == '0')).length + exponent
  if n = 0 || order < -400 then .finite negative 0
  else if 400 < order then .infinite negative
  else match exponent with
    | .ofNat e => ofQuotient negative (n * Nat.pow 10 e) 1
    | .negSucc e => ofQuotient negative n (Nat.pow 10 (e + 1))

/-- The exponent of a decimal number: nothing, or a letter, a sign and digits. -/
def readExponent? : Text → Option Int
  | [] => some 0
  | c :: t =>
    let (negative, ds) := splitSign t
    if (c == 'e' || c == 'E') && !ds.isEmpty && ds.all isAsciiDigit then
      let n : Int := ds.digitsValue
      some (if negative then -n else n)
    else none

/-- A magnitude in decimal notation: digits with at most one point among or beside them. -/
def readMagnitude? (negative : Bool) (t : Text) : Option Double :=
  let whole := t.takeWhile isAsciiDigit
  let rest := t.dropWhile isAsciiDigit
  let (fraction, rest) := match rest with
    | '.' :: r => (r.takeWhile isAsciiDigit, r.dropWhile isAsciiDigit)
    | r => ([], r)
  if whole.isEmpty && fraction.isEmpty then none
  else
    (readExponent? rest).map fun e =>
      ofDecimal negative (whole ++ fraction) (e - fraction.length)

/-- Reads a number in decimal notation, an infinity or what is no number. -/
def read? (t : Text) : Option Double :=
  (dropUnderscores? isAsciiDigit false (numberText t)).bind fun t =>
    let (negative, body) := splitSign t
    let word := String.ofList (body.map Char.toLower)
    if word = "inf" || word = "infinity" then some (.infinite negative)
    else if word = "nan" then some .nan
    else readMagnitude? negative body

end Double

inductive NumeralError
  | tooLong (digits : Nat)
  | malformed (base : Nat) (t : Points)
  deriving DecidableEq, Repr

def NumeralError.message : NumeralError → Text
  | .tooLong digits =>
    "Exceeds the limit (" ++ ofNat digitLimit
      ++ " digits) for integer string conversion: value has "
      ++ ofNat digits ++ " digits; use sys.set_int_max_str_digits() to increase the limit"
  | .malformed base t =>
    "invalid literal for int() with base " ++ ofNat base ++ ": " ++ t.quoted.take 200

def baseDigit? (base : Nat) (c : Char) : Option Nat :=
  let n :=
    if isAsciiDigit c then some (c.toNat - 48)
    else if 'a' ≤ c && c ≤ 'f' then some (c.toNat - 87)
    else if 'A' ≤ c && c ≤ 'F' then some (c.toNat - 55)
    else none
  n.filter (· < base)

/-- The letter that may announce a base after a zero. -/
def baseLetter? (base : Nat) : Option Char :=
  if base = 16 then some 'x' else if base = 8 then some 'o' else if base = 2 then some 'b' else none

/-- A numeral without the announcement of its base. -/
def dropBaseMark (base : Nat) : Text → Text
  | '0' :: c :: t =>
    if baseLetter? base == some c.toLower then
      match t with
      | '_' :: t => t
      | t => t
    else '0' :: c :: t
  | t => t

/-- Reads a whole number; the length of the row of digits in front is limited unless its base is a
power of two. -/
def readInt (base : Nat) (t : Points) : Except NumeralError Int :=
  let isDigit (c : Char) : Bool := (baseDigit? base c).isSome
  let (negative, body) := splitSign (numberText t.readable)
  let ds := dropBaseMark base body
  let size := (ds.takeWhile isDigit).length
  if base = 10 && digitLimit < size then .error (.tooLong size)
  else
    match dropUnderscores? isDigit false ds with
    | none => .error (.malformed base t)
    | some ds =>
      if ds.isEmpty || !ds.all isDigit then .error (.malformed base t)
      else
        let n : Int := (ds.foldl (fun n c => base * n + (baseDigit? base c).getD 0) 0 : Nat)
        .ok (if negative then -n else n)

end DocSamples
