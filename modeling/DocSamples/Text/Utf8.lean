import DocSamples.Text.Basic

namespace DocSamples

/-- The content of a file. -/
abbrev Bytes := List UInt8

open Text (ofNat)

namespace Utf8

inductive Reason
  | invalidStart
  | invalidContinuation
  | unexpectedEnd
  deriving DecidableEq, Repr

/-- The first sequence of bytes that cannot be decoded: where it starts, its bytes, and why. -/
structure Defect where
  start : Nat
  bytes : Bytes
  reason : Reason
  deriving DecidableEq, Repr

/-- The code of a character: one to four bytes. -/
def encodeChar (c : Char) : Bytes :=
  let n := c.toNat
  if n < 0x80 then [n.toUInt8]
  else if n < 0x800 then [(0xC0 + n / 64).toUInt8, (0x80 + n % 64).toUInt8]
  else if n < 0x10000 then
    [(0xE0 + n / 4096).toUInt8, (0x80 + n / 64 % 64).toUInt8, (0x80 + n % 64).toUInt8]
  else
    [(0xF0 + n / 262144).toUInt8, (0x80 + n / 4096 % 64).toUInt8, (0x80 + n / 64 % 64).toUInt8,
      (0x80 + n % 64).toUInt8]

def encode (t : Text) : Bytes := t.flatMap encodeChar

instance : Coe Text Bytes := ⟨encode⟩

/-- The last six bits of a byte that continues a character. -/
def continuation? (b : UInt8) : Option Nat :=
  if 0x80 ≤ b.toNat && b.toNat < 0xC0 then some (b.toNat - 0x80) else none

/-- The second byte of a character is limited further by the first: no character has two codes,
none is a surrogate and none lies beyond U+10FFFF. -/
def second? (first second : UInt8) : Option Nat :=
  let n := second.toNat
  if first = 0xE0 && n < 0xA0 || first = 0xED && 0xA0 ≤ n
      || first = 0xF0 && n < 0x90 || first = 0xF4 && 0x90 ≤ n then none
  else continuation? second

/-- What stands at the front of bytes: a character, its number of bytes and what follows it, or the
number of bytes that are no character. -/
inductive Front
  | char (c : Char) (size : Nat) (rest : Bytes)
  | broken (size : Nat) (reason : Reason)

/-- Reads the remaining bytes of a character after its first `size`. -/
def continueChar (code size : Nat) : (missing : Nat) → Bytes → Front
  | 0, rest => .char (Char.ofNat code) size rest
  | _ + 1, [] => .broken size .unexpectedEnd
  | missing + 1, b :: rest =>
    match continuation? b with
    | some n => continueChar (code * 64 + n) (size + 1) missing rest
    | none => .broken size .invalidContinuation

/-- Reads the character that starts with `first`. -/
def front (first : UInt8) (rest : Bytes) : Front :=
  let n := first.toNat
  let multi (code missing : Nat) : Front :=
    match rest with
    | [] => .broken 1 .unexpectedEnd
    | b :: rest =>
      match second? first b with
      | some m => continueChar (code * 64 + m) 2 missing rest
      | none => .broken 1 .invalidContinuation
  if n < 0x80 then .char (Char.ofNat n) 1 rest
  else if n < 0xC2 then .broken 1 .invalidStart
  else if n < 0xE0 then multi (n - 0xC0) 0
  else if n < 0xF0 then multi (n - 0xE0) 1
  else if n < 0xF5 then multi (n - 0xF0) 2
  else .broken 1 .invalidStart

/-- Decodes from position `at` on, with one step of fuel for each byte. -/
def decodeFrom : (fuel position : Nat) → Bytes → Except Defect Text
  | 0, _, _ => .ok []
  | _ + 1, _, [] => .ok []
  | fuel + 1, position, b :: bs =>
    match front b bs with
    | .char c size rest =>
      match decodeFrom fuel (position + size) rest with
      | .ok t => .ok (c :: t)
      | .error d => .error d
    | .broken size reason => .error ⟨position, (b :: bs).take size, reason⟩

/-- The text of a sequence of bytes, or the first defect of it. -/
def decode (bytes : Bytes) : Except Defect Text := decodeFrom bytes.length 0 bytes

/-- Whether bytes at the end of a block could be completed by the next block. The two first bytes
of a surrogate are held back too, although no third byte completes them. -/
def isHeldBack (d : Defect) (tail : Bytes) : Bool :=
  d.reason == .unexpectedEnd
    || tail.length == 2 && tail.head? == some 0xED && d.reason == .invalidContinuation
      && tail.getLast?.any fun b => (continuation? b).isSome

/-- The text of bytes, or none of it and their first defect. -/
def decodeAll (bytes : Bytes) : Text × Option Defect :=
  match decode bytes with
  | .ok t => (t, none)
  | .error d => ([], some d)

/-- Decodes block by block with one step of fuel for each block: a character that a block cuts off
waits for the next one, and a defect is placed within what waits and its block. -/
def decodeBlocksFrom (size : Nat) : (fuel : Nat) → (waiting bytes : Bytes) → Text × Option Defect
  | 0, waiting, _ => decodeAll waiting
  | _ + 1, waiting, [] => decodeAll waiting
  | fuel + 1, waiting, bytes =>
    let block := waiting ++ bytes.take size
    let waiting := match decode block with
      | .ok _ => []
      | .error d => if isHeldBack d (block.drop d.start) then block.drop d.start else []
    match decodeAll (block.take (block.length - waiting.length)) with
    | (_, some d) => ([], some d)
    | (t, none) =>
      let (more, defect) := decodeBlocksFrom size fuel waiting (bytes.drop size)
      (t ++ more, defect)

/-- The text of bytes that are read in blocks of a positive size, up to the first block that cannot
be decoded, and the defect of that block. -/
def decodeBlocks (size : Nat) (bytes : Bytes) : Text × Option Defect :=
  decodeBlocksFrom size (bytes.length + 1) [] bytes

def Reason.text : Reason → Text
  | .invalidStart => "invalid start byte"
  | .invalidContinuation => "invalid continuation byte"
  | .unexpectedEnd => "unexpected end of data"

/-- One byte is shown by its value, several by their first and last position. -/
def Defect.message (d : Defect) : Text :=
  let place : Text :=
    match d.bytes with
    | [b] =>
      let ds := Nat.toDigits 16 b.toNat
      "byte 0x" ++ List.replicate (2 - ds.length) '0' ++ ds ++ " in position " ++ ofNat d.start
    | bs => "bytes in position " ++ ofNat d.start ++ "-" ++ ofNat (d.start + bs.length - 1)
  "'utf-8' codec can't decode " ++ place ++ ": " ++ d.reason.text

end Utf8

end DocSamples
