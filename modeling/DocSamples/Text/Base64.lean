import DocSamples.Text.Quoted
import DocSamples.Text.Utf8

namespace DocSamples

namespace Base64

def value? (c : Char) : Option Nat :=
  if 'A' ≤ c && c ≤ 'Z' then some (c.toNat - 65)
  else if 'a' ≤ c && c ≤ 'z' then some (c.toNat - 71)
  else if '0' ≤ c && c ≤ '9' then some (c.toNat + 4)
  else if c = '+' then some 62
  else if c = '/' then some 63
  else none

/-- Decodes from a place within a group of four characters on, where the bits `left` of the last
character wait, and after some pads. The pads that complete a group end the text; other pads and
characters without a value mean nothing. -/
def decodeFrom : (place left pads : Nat) → Text → Option Bytes
  | place, _, _, [] => if place = 0 then some [] else none
  | place, left, pads, c :: t =>
    if c = '=' then
      if place < 2 then decodeFrom place left pads t
      else if place + pads < 3 then decodeFrom place left (pads + 1) t
      else some []
    else
      match value? c, place with
      | none, _ => decodeFrom place left pads t
      | some v, 0 => decodeFrom 1 v 0 t
      | some v, 1 => (decodeFrom 2 (v % 16) 0 t).map ((4 * left + v / 16).toUInt8 :: ·)
      | some v, 2 => (decodeFrom 3 (v % 4) 0 t).map ((16 * left + v / 4).toUInt8 :: ·)
      | some v, _ => (decodeFrom 0 0 0 t).map ((64 * left + v).toUInt8 :: ·)

/-- The bytes that a text in Base64 stands for, if its last group is complete. -/
def decode (t : Text) : Option Bytes := decodeFrom 0 0 0 t

end Base64

namespace Bytes

def latin (bs : Bytes) : Text := bs.map fun b => Char.ofNat b.toNat

/-- In a quoted row of bytes, only printable ASCII is shown as it is. -/
def quoteByte (mark c : Char) : Text :=
  if c.toNat < 0x7F then Text.quoteChar mark c else '\\' :: 'x' :: Text.hex 2 c.toNat

def quoted (bs : Bytes) : Text :=
  let mark := Text.quoteMark bs.latin
  'b' :: mark :: bs.latin.flatMap (quoteByte mark) ++ [mark]

def readable (bs : Bytes) : Text := bs.latin.map fun c => if c.toNat < 0x80 then c else '?'

end Bytes

end DocSamples
