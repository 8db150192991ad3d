import DocSamples.Yaml.Problem

namespace DocSamples.Yaml

structure Date where
  year : Nat
  month : Nat
  day : Nat
  deriving DecidableEq, Repr

/-- A time of day, with its distance from universal time in minutes if that is known. -/
structure Clock where
  hour : Nat
  minute : Nat
  second : Nat
  micro : Nat
  offset : Option Int
  deriving DecidableEq, Repr

namespace Date

def isLeapYear (y : Nat) : Bool := y % 4 == 0 && (y % 100 != 0 || y % 400 == 0)

def daysIn (year month : Nat) : Nat :=
  if month = 2 then (if isLeapYear year then 29 else 28)
  else if [4, 6, 9, 11].contains month then 30
  else 31

/-- The first part of a date that is out of range. -/
def fault? (d : Date) : Option DateFault :=
  if d.year = 0 then some (.year d.year)
  else if d.month = 0 || 12 < d.month then some .month
  else if d.day = 0 || daysIn d.year d.month < d.day then some .day
  else none

def daysBefore (year : Nat) : Nat :=
  let y := year - 1
  365 * y + y / 4 - y / 100 + y / 400

def ordinal (d : Date) : Nat :=
  (List.range (d.month - 1)).foldl (fun n m => n + daysIn d.year (m + 1)) (daysBefore d.year)
    + d.day

def padded (width n : Nat) : Text :=
  let ds := Text.ofNat n
  List.replicate (width - ds.length) '0' ++ ds

def text (d : Date) : Text := padded 4 d.year ++ "-" ++ padded 2 d.month ++ "-" ++ padded 2 d.day

end Date

namespace Clock

def fault? (c : Clock) : Option DateFault :=
  if 23 < c.hour then some .hour
  else if 59 < c.minute then some .minute
  else if 59 < c.second then some .second
  else none

def offsetFault? (c : Clock) : Option DateFault :=
  (c.offset.filter (1440 ≤ ·.natAbs)).map .offset

/-- Hours, minutes and seconds with colons between them, and the rest where it is not zero. -/
def text (c : Clock) : Text :=
  let offset : Text := match c.offset with
    | none => []
    | some m =>
      (if m < 0 then '-' else '+') ::
        (Date.padded 2 (m.natAbs / 60) ++ ":" ++ Date.padded 2 (m.natAbs % 60))
  Date.padded 2 c.hour ++ ":" ++ Date.padded 2 c.minute ++ ":" ++ Date.padded 2 c.second
    ++ (if c.micro = 0 then [] else '.' :: Date.padded 6 c.micro) ++ offset

/-- The numbers of a time that a constructor takes: zeros at the end are left out. -/
def numbers (c : Clock) : List Nat :=
  [c.hour, c.minute] ++
    if c.micro ≠ 0 then [c.second, c.micro] else if c.second ≠ 0 then [c.second] else []

def zoneText : Option Int → List Text
  | none => []
  | some 0 => ["tzinfo=datetime.timezone.utc"]
  | some m => ["tzinfo=datetime.timezone(" ++ spanText m ++ ")"]

/-- The seconds since the first day of year one in universal time, if the distance from it is
known. -/
def instant? (c : Clock) (d : Date) : Option Int :=
  c.offset.map fun m =>
    86400 * (d.ordinal : Int) + 3600 * (c.hour : Int) + 60 * ((c.minute : Int) - m)
      + (c.second : Int)

/-- Whether two moments are the same. Where the distance from universal time is known, it counts
only as part of the moment. -/
def isSameMoment (c : Clock) (d : Date) (k : Clock) (e : Date) : Bool :=
  match c.instant? d, k.instant? e with
  | some m, some n => m == n && c.micro == k.micro
  | none, none => d == e && c == k
  | _, _ => false

end Clock

end DocSamples.Yaml
