import DocSamples.Number.Shortest
import DocSamples.Number.Writing
import DocSamples.Text.Base64
import DocSamples.Yaml.Slots

namespace DocSamples.Yaml

/-- What a text in YAML stands for: a value, and the collections by their places. -/
structure Data where
  root : Value
  collections : Array Collection
  deriving DecidableEq, Repr

inductive Unshowable
  | longNumber (e : LongNumber)
  | tooDeep
  deriving DecidableEq, Repr

def Unshowable.message : Unshowable → Text
  | longNumber e => e.message
  | tooDeep => []

namespace Data

def collection (data : Data) (r : Ref) : Collection := data.collections[r]?.getD (.list [])

/-- How deep collections may be nested in what is shown. -/
def showLimit : Nat := 980

/-- A value as it is shown inside a message or a list, within the collections `outer`. -/
def showWithin (data : Data) :
    (fuel : Nat) → (outer : List Ref) → Value → Except Unshowable Text
  | 0, _, _ => .error .tooDeep
  | fuel + 1, outer, v =>
    match v with
    | .null => .ok "None"
    | .bool b => .ok (if b then "True" else "False")
    | .int i => (writeInt i).mapError .longNumber
    | .float x => .ok x.text
    | .notNumber _ => .ok (Double.text .nan)
    | .text t => .ok t.quoted
    | .bytes bs => .ok bs.quoted
    | .date d =>
      .ok ("datetime.date(" ++ Text.join ", " ([d.year, d.month, d.day].map Text.ofNat) ++ ")")
    | .moment d c =>
      .ok ("datetime.datetime(" ++ Text.join ", "
        (([d.year, d.month, d.day] ++ c.numbers).map Text.ofNat ++ Clock.zoneText c.offset) ++ ")")
    | .collection r =>
      if outer.contains r then .ok (data.collection r).ellipsis
      else
        let part := showWithin data fuel (r :: outer)
        match data.collection r with
        | .list vs => do return "[" ++ Text.join ", " (← vs.mapM part) ++ "]"
        | .pairs es => do
          let shown ← es.mapM fun (k, v) => do
            return "(" ++ (← part k) ++ ", " ++ (← part v) ++ ")"
          return "[" ++ Text.join ", " shown ++ "]"
        | .map es => do
          let shown ← es.mapM fun (k, v) => do return (← part k) ++ ": " ++ (← part v)
          return "\x7b" ++ Text.join ", " shown ++ "\x7d"
        | .set [] => .ok "set()"
        | .set vs => do
          let shown ← (Collection.shownOrder vs).mapM part
          return "\x7b" ++ Text.join ", " shown ++ "\x7d"

def show? (data : Data) (v : Value) : Except Unshowable Text := data.showWithin showLimit [] v

/-- A value as text: a text is itself, a date has its digits, and others are as they are shown. -/
def toText? (data : Data) : Value → Except Unshowable Text
  | .text t => .ok t.toText
  | .date d => .ok d.text
  | .moment d c => .ok (d.text ++ " " ++ c.text)
  | v => data.show? v

end Data

end DocSamples.Yaml
