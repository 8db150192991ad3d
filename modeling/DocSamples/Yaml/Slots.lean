import DocSamples.Yaml.Value

namespace DocSamples.Yaml

/-- The number that tells where a number is put among the members of a set: equal numbers have the
same, and it is below 2⁶¹ in magnitude. -/
def Value.residue? (v : Value) : Option Int :=
  let modulus : Nat := Nat.pow 2 61 - 1
  let residue : Option Int := match v.number? with
    | some (.inl i) => some (i.tmod modulus)
    | some (.inr (.infinite negative)) => some (Double.signedUnits negative 314159)
    | some (.inr (.finite negative units)) =>
      -- 2⁶¹ is 1 for this modulus, and so a unit of 2⁻¹⁰⁷⁴ is 2²⁴.
      some (Double.signedUnits negative (units * Nat.pow 2 24 % modulus))
    | some (.inr .nan) | none => none
  residue.map fun n => if n = -1 then -2 else n

/-- Members of a set, each in a slot of its own. -/
abbrev Slots := Array (Option Value)

namespace Slots

/-- The number of slots for so many members: eight, or the power of two above twice their number. -/
def sizeFor (count : Nat) : Nat := if count < 5 then 8 else Nat.pow 2 ((2 * count).log2 + 1)

/-- The slots that are tried from one on: ten in a row, or one alone near the end. -/
def row (slots : Slots) (start : Nat) : List Nat :=
  if start + 9 < slots.size then List.range' start 10 else [start]

/-- The first free slot on the way from a slot on. The way jumps from row to row; the bits of `rest`
bend it, five at a time, until it comes to every slot. -/
def free? (slots : Slots) : (fuel : Nat) → (start rest : Nat) → Option Nat
  | 0, _, _ => none
  | fuel + 1, start, rest =>
    match (slots.row start).find? fun i => slots[i]?.join.isNone with
    | some i => some i
    | none =>
      let rest := rest / 32
      free? slots fuel ((5 * start + 1 + rest) % slots.size) rest

/-- Puts a member in its slot; a negative number counts from 2⁶⁴ down. -/
def put (slots : Slots) (member : Value × Int) : Slots :=
  let n := (member.2 % (Nat.pow 2 64 : Nat)).toNat
  match slots.free? (slots.size + 13) (n % slots.size) n with
  | some i => slots.setIfInBounds i (some member.1)
  | none => slots

end Slots

/-- The order in which the members of a set are shown: numbers by their slots, other members as they
came. -/
def Collection.shownOrder (members : List Value) : List Value :=
  match members.mapM fun v => v.residue?.map (v, ·) with
  | some numbers =>
    let slots : Slots := .replicate (Slots.sizeFor members.length) none
    (numbers.foldl Slots.put slots).toList.filterMap id
  | none => members

end DocSamples.Yaml
