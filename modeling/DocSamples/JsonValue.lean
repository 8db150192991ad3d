import DocSamples.Number.Writing
import DocSamples.Text.Quoted

namespace DocSamples

/-- The values that a report is made of; an object keeps the order of its members. -/
inductive JsonValue
  | null
  | bool (b : Bool)
  | int (i : Int)
  | text (t : Text)
  | array (items : List JsonValue)
  | object (members : List (Text × JsonValue))

namespace JsonValue

def ofOption {α : Type} (f : α → JsonValue) : Option α → JsonValue
  | some a => f a
  | none => null

def escapeUnit (n : Nat) : Text := '\\' :: 'u' :: Text.hex 4 n

def escapeChar (c : Char) : Text :=
  if c = '"' then ['\\', '"']
  else if c = '\\' then ['\\', '\\']
  else if c = '\n' then ['\\', 'n']
  else if c = '\r' then ['\\', 'r']
  else if c = '\t' then ['\\', 't']
  else if c = '\x08' then ['\\', 'b']
  else if c = '\x0c' then ['\\', 'f']
  else if 32 ≤ c.toNat && c.toNat < 127 then [c]
  else if c.toNat < 0x10000 then escapeUnit c.toNat
  else
    let n := c.toNat - 0x10000
    escapeUnit (0xD800 + n / 1024) ++ escapeUnit (0xDC00 + n % 1024)

def renderText (t : Text) : Text := '"' :: t.flatMap escapeChar ++ ['"']

/-- The start of a new line at a depth of two spaces each. -/
def newLine (depth : Nat) : Text := '\n' :: List.replicate (2 * depth) ' '

mutual

def renderAt (depth : Nat) : JsonValue → Text
  | null => "null"
  | bool true => "true"
  | bool false => "false"
  | int i => Text.ofInt i
  | text t => renderText t
  | array [] => "[]"
  | array (j :: js) =>
    '[' :: newLine (depth + 1) ++ renderAt (depth + 1) j ++ renderItems (depth + 1) js
      ++ newLine depth ++ [']']
  | object [] => "\x7b\x7d"
  | object ((k, j) :: ms) =>
    '\x7b' :: newLine (depth + 1) ++ renderText k ++ ": " ++ renderAt (depth + 1) j
      ++ renderMembers (depth + 1) ms ++ newLine depth ++ ['\x7d']

def renderItems (depth : Nat) : List JsonValue → Text
  | [] => []
  | j :: js => ',' :: newLine depth ++ renderAt depth j ++ renderItems depth js

def renderMembers (depth : Nat) : List (Text × JsonValue) → Text
  | [] => []
  | (k, j) :: ms =>
    ',' :: newLine depth ++ renderText k ++ ": " ++ renderAt depth j ++ renderMembers depth ms

end

mutual

/-- The numbers in a value, in order. -/
def numbers : JsonValue → List Int
  | null | bool _ | text _ => []
  | int i => [i]
  | array js => numbersOfItems js
  | object ms => numbersOfMembers ms

def numbersOfItems : List JsonValue → List Int
  | [] => []
  | j :: js => numbers j ++ numbersOfItems js

def numbersOfMembers : List (Text × JsonValue) → List Int
  | [] => []
  | (_, j) :: ms => numbers j ++ numbersOfMembers ms

end

/-- A value in lines that are indented by two spaces at each level, if all its numbers can be
written. -/
def render (j : JsonValue) : Except LongNumber Text :=
  match j.numbers.find? (!isWritable ·) with
  | some i => .error ⟨i⟩
  | none => .ok (renderAt 0 j)

end JsonValue

end DocSamples
