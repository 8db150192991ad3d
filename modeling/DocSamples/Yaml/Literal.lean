import DocSamples.Text.Base64
import DocSamples.Yaml.Scalar
import DocSamples.Yaml.Tag
import DocSamples.Yaml.Value

namespace DocSamples.Yaml.Literal

open Scalar (fail)

def splitSign : Points → Bool × Points
  | .char '-' :: ps => (true, ps)
  | .char '+' :: ps => (false, ps)
  | ps => (false, ps)

def dropUnderscores (ps : Points) : Points := ps.filter (· != .char '_')

/-- A number in groups of sixty, the last group first. -/
def ofGroups {α : Type} (add : α → α → α) (scaled : α → Nat → α) (zero : α) (groups : List α) : α :=
  (groups.zipIdx.foldl (fun sum (g, i) => add sum (scaled g i)) zero)

def int (ps : Points) : Except Problem Int := do
  let ps := dropUnderscores ps
  if ps.isEmpty then throw .emptyNumber
  let (negative, body) := splitSign ps
  let read (base : Nat) (ds : Points) : Except Problem Int := (readInt base ds).mapError .numeral
  let n ← match body with
    | [] => throw .emptyNumber
    | [.char '0'] => pure 0
    | .char '0' :: .char 'b' :: ds => read 2 ds
    | .char '0' :: .char 'x' :: ds => read 16 ds
    | .char '0' :: ds => read 8 (.char '0' :: ds)
    | ds =>
      if ds.contains (.char ':') then
        let groups ← (ds.split ':').mapM (read 10)
        pure (ofGroups (· + ·) (fun g i => g * Nat.pow 60 i) 0 groups.reverse)
      else read 10 ds
  return if negative then -n else n

def magnitude (body : Points) : Except Problem Double := do
  let read (ds : Points) : Except Problem Double :=
    match Double.read? ds.readable with
    | some x => .ok x
    | none => .error (.notFloat ds)
  if body.contains (.char ':') then
    let groups ← (body.split ':').mapM read
    if (Double.ofInt (Nat.pow 60 (groups.length - 1))).isInfinite then throw .tooLarge
    return ofGroups .add (fun g i => g.mul (.ofInt (Nat.pow 60 i))) .zero groups.reverse
  else read body

/-- A number, an infinity or what is no number. Only the literal for the last stands for the same
value at each place. -/
def float (origin : Ref) (ps : Points) : Except Problem Value := do
  let ps := (dropUnderscores ps).lower
  if ps.isEmpty then throw .emptyNumber
  let (negative, body) := splitSign ps
  let signed (x : Double) : Double := if negative then x.neg else x
  if body == .ofText ".inf" then return .float (signed (.infinite false))
  else if body == .ofText ".nan" then return .float .nan
  else
    let x ← magnitude body
    return if x = .nan then .notNumber origin else .float (signed x)

def bool (ps : Points) : Except Problem Bool :=
  let small := ps.lower
  match small.text?.map String.ofList with
  | some "yes" | some "true" | some "on" => .ok true
  | some "no" | some "false" | some "off" => .ok false
  | _ => .error (.notBool small)

/-- The parts of a second after its point: six digits count. -/
def microseconds (ds : Text) : Nat :=
  Text.digitsValue ((ds ++ List.replicate 6 '0').take 6)

def orDateFault (f : Option DateFault) : Except Problem Unit :=
  match f with
  | some f => .error (.date f)
  | none => .ok ()

def offset? (s : Tag.Timestamp) : Option Int :=
  match s.offset with
  | some (negative, hours, minutes) =>
    let m : Int := hours.digitsValue * 60 + minutes.digitsValue
    some (if negative then -m else m)
  | none => if s.universal then some 0 else none

def timestamp (ps : Points) : Except Problem Value := do
  let some s := (ps.text?.map Tag.dropFinalBreak).bind Tag.timestamp? | throw .notTimestamp
  let d : Date := ⟨s.year.digitsValue, s.month.digitsValue, s.day.digitsValue⟩
  match s.time with
  | none =>
    orDateFault d.fault?
    return .date d
  | some (hour, minute, second) =>
    let c : Clock :=
      ⟨hour.digitsValue, minute.digitsValue, second.digitsValue, microseconds s.fraction, offset? s⟩
    orDateFault c.offsetFault?
    orDateFault d.fault?
    orDateFault c.fault?
    return .moment d c

/-- Bytes in Base64, which is ASCII. -/
def binary (ps : Points) : Except Problem Bytes :=
  match (ps.text?.filter fun t => t.all (·.toNat < 0x80)).bind Base64.decode with
  | some bs => .ok bs
  | none => fail .base64

def ofScalar (r : Ref) (tag : Tag) (ps : Points) : Except Problem Value :=
  match tag with
  | .null => .ok .null
  | .bool => Value.bool <$> bool ps
  | .int => Value.int <$> int ps
  | .float => float r ps
  | .text => .ok (.text ps)
  | .binary => Value.bytes <$> binary ps
  | .timestamp => timestamp ps
  | .merge | .value | .sequence | .mapping | .set | .pairs | .other _ => fail .unknownTag

end DocSamples.Yaml.Literal
