import DocSamples.Number.Reading
import DocSamples.Text.Basic

namespace DocSamples.Yaml

/-- What kind of value a node is said to have. -/
inductive Tag
  | null
  | bool
  | int
  | float
  | text
  | binary
  | timestamp
  | merge
  | value
  | sequence
  | mapping
  | set
  /-- A sequence of pairs, be its keys unique or not. -/
  | pairs
  | other (name : Text)
  deriving DecidableEq, Repr

namespace Tag

/-- What the names of the known tags start with. -/
def family : Text := "tag:yaml.org,2002:"

def known : List (Text × Tag) :=
  [("null", .null), ("bool", .bool), ("int", .int), ("float", .float), ("str", .text),
   ("binary", .binary), ("timestamp", .timestamp), ("merge", .merge), ("value", .value),
   ("seq", .sequence), ("map", .mapping), ("set", .set), ("omap", .pairs), ("pairs", .pairs)]

def ofName (name : Text) : Tag :=
  ((name.rest? family).bind fun n => known.lookup n).getD (.other name)

def isBoolWord (t : Text) : Bool :=
  ["yes", "Yes", "YES", "no", "No", "NO", "true", "True", "TRUE", "false", "False", "FALSE",
    "on", "On", "ON", "off", "Off", "OFF"].contains (String.ofList t)

def isNullWord (t : Text) : Bool := ["", "~", "null", "Null", "NULL"].contains (String.ofList t)

def dropSign : Text → Text
  | '+' :: t => t
  | '-' :: t => t
  | t => t

def startsDigits (t : Text) : Bool := (t.head?).any isAsciiDigit

def isDigitOrLow (c : Char) : Bool := isAsciiDigit c || c == '_'

def isSign (c : Char) : Bool := c == '+' || c == '-'

/-- Digits of a base with underscores among them, at least one character. -/
def isNumeral (base : Nat) (t : Text) : Bool :=
  !t.isEmpty && t.all fun c => (baseDigit? base c).isSome || c == '_'

/-- The number of groups of one or two digits below sixty, each after a colon; and what follows. -/
def sixtieths : (fuel : Nat) → Text → Nat × Text
  | fuel + 1, ':' :: a :: b :: t =>
    if '0' ≤ a && a ≤ '5' && isAsciiDigit b then
      let (n, r) := sixtieths fuel t
      (n + 1, r)
    else if isAsciiDigit a then
      let (n, r) := sixtieths fuel (b :: t)
      (n + 1, r)
    else (0, ':' :: a :: b :: t)
  | _, [':', a] => if isAsciiDigit a then (1, []) else (0, [':', a])
  | _, t => (0, t)

/-- A whole number: in base ten, two, eight or sixteen, or in groups below sixty. -/
def isInt (t : Text) : Bool :=
  match dropSign t with
  | ['0'] => true
  | '0' :: 'b' :: ds => isNumeral 2 ds
  | '0' :: 'x' :: ds => isNumeral 16 ds
  | '0' :: ds => isNumeral 8 ds
  | d :: ds =>
    isAsciiDigit d &&
      match sixtieths ds.length (ds.dropWhile isDigitOrLow) with
      | (_, []) => true
      | _ => false
  | [] => false

def isExponent : Text → Bool
  | [] => true
  | e :: s :: ds => (e == 'e' || e == 'E') && isSign s && !ds.isEmpty && ds.all isAsciiDigit
  | _ => false

/-- A number with a point, an infinity or what is no number. -/
def isFloat (t : Text) : Bool :=
  let unsigned := dropSign t
  [".inf", ".Inf", ".INF"].contains (String.ofList unsigned)
    || [".nan", ".NaN", ".NAN"].contains (String.ofList t)
    || match t with
      | '.' :: ds => startsDigits ds && isExponent (ds.dropWhile isDigitOrLow)
      | _ =>
        startsDigits unsigned &&
          match sixtieths unsigned.length (unsigned.dropWhile isDigitOrLow) with
          | (0, '.' :: ds) => isExponent (ds.dropWhile isDigitOrLow)
          | (_, '.' :: ds) => (ds.dropWhile isDigitOrLow).isEmpty
          | _ => false

def digits? (least most : Nat) (t : Text) : Option (Text × Text) :=
  let ds := (t.take most).takeWhile isAsciiDigit
  if least ≤ ds.length then some (ds, t.drop ds.length) else none

def expect? (c : Char) (t : Text) : Option Text := t.rest? [c]

/-- A calendar date and perhaps a time of day, as rows of digits. -/
structure Timestamp where
  year : Text
  month : Text
  day : Text
  time : Option (Text × Text × Text) := none
  fraction : Text := []
  /-- The sign, the hours and the minutes of the distance from universal time. -/
  offset : Option (Bool × Text × Text) := none
  universal : Bool := false
  deriving DecidableEq, Repr

def zone? (stamp : Timestamp) (t : Text) : Option Timestamp :=
  match t.dropWhile (fun c => c == ' ' || c == '\t') with
  | [] => if t.isEmpty then some stamp else none
  | ['Z'] => some { stamp with universal := true }
  | s :: r => do
    if !isSign s then failure
    let (hours, r) ← digits? 1 2 r
    match r with
    | [] => return { stamp with offset := some (s == '-', hours, []) }
    | ':' :: r =>
      let (minutes, r) ← digits? 2 2 r
      if !r.isEmpty then failure
      return { stamp with offset := some (s == '-', hours, minutes) }
    | _ => failure

def clock? (stamp : Timestamp) (t : Text) : Option Timestamp := do
  let (hour, t) ← digits? 1 2 t
  let (minute, t) ← digits? 2 2 (← expect? ':' t)
  let (second, t) ← digits? 2 2 (← expect? ':' t)
  let stamp := { stamp with time := some (hour, minute, second) }
  match t with
  | '.' :: r => zone? { stamp with fraction := r.takeWhile isAsciiDigit } (r.dropWhile isAsciiDigit)
  | t => zone? stamp t

/-- Reads a date, or a date and a time with a letter T or blanks between them. -/
def timestamp? (t : Text) : Option Timestamp := do
  let (year, t) ← digits? 4 4 t
  let (month, t) ← digits? 1 2 (← expect? '-' t)
  let (day, t) ← digits? 1 2 (← expect? '-' t)
  let stamp : Timestamp := { year, month, day }
  match t with
  | [] => return stamp
  | 'T' :: t => clock? stamp t
  | 't' :: t => clock? stamp t
  | t =>
    let rest := t.dropWhile fun c => c == ' ' || c == '\t'
    if rest.length = t.length then failure
    clock? stamp rest

/-- A date by itself has two digits for the month and for the day. -/
def isTimestamp (t : Text) : Bool :=
  (timestamp? t).any fun s => s.time.isSome || s.month.length == 2 && s.day.length == 2

/-- Marks of the language by themselves, for which there is no value. -/
def isMark (t : Text) : Bool := ["!", "&", "*"].contains (String.ofList t)

def dropFinalBreak (t : Text) : Text :=
  if 1 < t.length && t.getLast? == some '\n' then t.dropLast else t

def ofText (t : Text) : Tag :=
  if isBoolWord t then .bool
  else if isFloat t then .float
  else if isInt t then .int
  else if t = ['<', '<'] then .merge
  else if isNullWord t then .null
  else if isTimestamp t then .timestamp
  else if t = ['='] then .value
  else if isMark t then .ofName (family ++ "yaml")
  else .text

def ofPlain (ps : Points) : Tag :=
  match ps.text? with
  | some t => ofText (dropFinalBreak t)
  | none => .text

end Tag

end DocSamples.Yaml
