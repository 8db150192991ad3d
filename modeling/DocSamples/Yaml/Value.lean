import DocSamples.Text.Utf8
import DocSamples.Yaml.Date

namespace DocSamples.Yaml

/-- A place in a document. Several places of a text may lead to the same one. -/
abbrev Ref := Nat

/-- What a place of a text in YAML stands for. A collection is told by its place, since it may stand
at several places and inside itself. -/
inductive Value
  | null
  | bool (b : Bool)
  | int (i : Int)
  | float (x : Double)
  /-- A result that is no number, from a place of its own. -/
  | notNumber (origin : Ref)
  | text (t : Points)
  | bytes (bs : Bytes)
  | date (d : Date)
  | moment (d : Date) (c : Clock)
  | collection (r : Ref)
  deriving DecidableEq, Repr

/-- What a collection holds. A mapping and a set keep the order in which their keys came first. -/
inductive Collection
  | list (items : List Value)
  | pairs (entries : List (Value × Value))
  | map (entries : List (Value × Value))
  | set (members : List Value)
  deriving DecidableEq, Repr

namespace Value

/-- The number that a value is, exactly where it is a whole one. -/
def number? : Value → Option (Int ⊕ Double)
  | bool b => some (.inl (if b then 1 else 0))
  | int i => some (.inl i)
  | float x => some (match x.whole? with
    | some i => .inl i
    | none => .inr x)
  | _ => none

/-- Whether two values are the same key of a mapping: numbers are compared by value, and a result
that is no number is only the same as itself. -/
def isSameKey (v w : Value) : Bool :=
  match number? v, number? w with
  | some x, some y => decide (x = y)
  | none, none =>
    match v, w with
    | moment d c, moment e k => c.isSameMoment d k e
    | v, w => decide (v = w)
  | _, _ => false

def isKey : Value → Bool
  | collection _ => false
  | _ => true

/-- Gives a key a value, in the place of the key if it is there already. -/
def insert (entries : List (Value × Value)) (k v : Value) : List (Value × Value) :=
  match entries with
  | [] => [(k, v)]
  | (l, w) :: es => if isSameKey l k then (l, v) :: es else (l, w) :: insert es k v

def lookup? (entries : List (Value × Value)) (key : Text) : Option Value :=
  (entries.find? fun e => isSameKey e.1 (text (.ofText key))).map (·.2)

end Value

namespace Collection

def ellipsis : Collection → Text
  | list _ | pairs _ => "[...]"
  | map _ => "\x7b...\x7d"
  | set _ => "set(...)"

end Collection

end DocSamples.Yaml
