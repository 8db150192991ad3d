import DocSamples.Text.Lines
import DocSamples.Yaml.Problem

namespace DocSamples.Yaml

/-- A text in YAML as far as it can be read, and what is wrong with the rest of it. -/
structure Input where
  text : Text
  defect : Option Problem := none
  deriving DecidableEq, Repr

namespace Input

def isAdmitted (c : Char) : Bool :=
  let n := c.toNat
  n == 9 || n == 10 || n == 13 || 0x20 ≤ n && n ≤ 0x7E || n == 0x85 || 0xA0 ≤ n && n ≤ 0xFFFD
    || 0x10000 ≤ n

/-- The number of characters that are read at a time; the first two portions are read at once. -/
def portion : Nat := 4096

def portionStart (position : Nat) : Nat :=
  let start := position / portion * portion
  if start < 2 * portion then 0 else start

/-- The text in front of the portion of a character that is at fault. -/
def cutAt (t : Text) (position : Nat) (p : Problem) : Input :=
  ⟨t.take (portionStart position), some p⟩

/-- A text that may end in front of bytes that are none. What is wrong with a portion is found when
it is read, and bytes are decoded before their characters are looked at. -/
def ofText (t : Text) (defect : Option Utf8.Defect) : Input :=
  let sound := (t.takeWhile isAdmitted).length
  match defect with
  | none => if sound < t.length then cutAt t sound (.malformed .unprintable) else ⟨t, none⟩
  | some d =>
    if portionStart sound < portionStart t.length then cutAt t sound (.malformed .unprintable)
    else cutAt t t.length (.undecodable d)

def blockSize : Nat := 8192

def ofBytes (bytes : Bytes) : Input :=
  let (t, defect) := Utf8.decodeBlocks blockSize bytes
  ofText t.unifyBreaks defect

end Input

end DocSamples.Yaml
