import DocSamples.Text.Blank
import DocSamples.Number.Reading

namespace DocSamples

/-- What a rejected text is told: a line of the text, if one is named, and a message. -/
structure Diagnostic where
  line : Option Nat
  message : Text
  deriving DecidableEq, Repr

/-- A line number with more digits than are read. -/
structure LongNumeral where
  digits : Nat
  deriving DecidableEq, Repr

def LongNumeral.message (e : LongNumeral) : Text := (NumeralError.tooLong e.digits).message

namespace Diagnostic

/-- A row of digits, at least one, that ends at a colon; and what follows the colon. -/
def number? (t : Text) : Option (Text × Text) :=
  match t.takeWhile isDigit, t.dropWhile isDigit with
  | [], _ => none
  | d :: ds, ':' :: r => some (d :: ds, r)
  | _, _ => none

/-- The message after a location: the rest of the line on which it starts. There is none where
only line breaks follow. -/
def messageText? (t : Text) : Option Text :=
  if t.all (· == '\n') then none
  else some (Text.trim ((Text.trimLeft t).takeWhile (· != '\n')))

/-- The digits of the line and the message, where a line and a column stand after a colon. -/
def located? (t : Text) : Option (Text × Text) := do
  let (line, r) ← number? (Text.trimLeft t)
  let (_, r) ← number? r
  let message ← messageText? r
  return (line, message)

def location? (t : Text) : Option (Text × Text) :=
  (t.suffixesAfter (· == ':')).findSome? located?

/-- What follows an announcement of an error and the colon after the file it names. -/
def afterErrorName? (t : Text) : Option Text := do
  let r ← t.rest? "error:"
  match r.takeWhile (· != ':'), r.dropWhile (· != ':') with
  | _ :: _, ':' :: r => some r
  | _, _ => none

def wholeMessage (t : Text) : Text :=
  let cleaned := Text.trim ((afterErrorName? t).getD t)
  if cleaned.isEmpty then Text.trim t else cleaned

def parse (t : Text) : Except LongNumeral Diagnostic :=
  match location? t with
  | some (line, message) =>
    if digitLimit < line.length then .error ⟨line.length⟩
    else .ok ⟨some line.digitsValue, message⟩
  | none => .ok ⟨none, wholeMessage t⟩

end Diagnostic

end DocSamples
