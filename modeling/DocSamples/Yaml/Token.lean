import DocSamples.Yaml.Input
import DocSamples.Yaml.Scalar

namespace DocSamples.Yaml

/-- A line in front of a document that starts with a percent sign. -/
inductive Directive
  | version (major minor : Nat)
  | tag (handle start : Text)
  | reserved
  deriving DecidableEq, Repr

inductive Token
  | directive (d : Directive)
  | documentStart
  | documentEnd
  | textEnd
  | blockSequence
  | blockMapping
  | blockEnd
  | flowSequence
  | flowSequenceEnd
  | flowMapping
  | flowMappingEnd
  | blockEntry
  | flowEntry
  | key
  | value
  | alias (name : Text)
  | anchor (name : Text)
  | tag (handle : Option Text) (suffix : Text)
  | scalar (content : Points) (plain : Bool)
  /-- The text cannot be split further. -/
  | fault (p : Problem)
  deriving DecidableEq, Repr

namespace Token

open Scalar (fail)

/-- A place where a key of a mapping may have started. -/
structure KeyStart where
  position : Nat
  required : Bool
  cursor : Cursor

/-- How far a text has been split: the tokens so far, the indentations of the open block
collections, the depth of flow collections, and where keys may start. -/
structure State where
  cursor : Cursor
  tokens : Array Token := #[]
  indent : Int := -1
  outer : List Int := []
  flow : Nat := 0
  keyAllowed : Bool := true
  keys : List (Nat × KeyStart) := []

namespace State

def inFlow (s : State) : Bool := s.flow != 0

def push (s : State) (t : Token) : State := { s with tokens := s.tokens.push t }

def take (s : State) (size : Nat) (t : Token) : State :=
  { s.push t with cursor := s.cursor.advance size }

def closeBlocks (column : Int) : (fuel : Nat) → State → State
  | 0, s => s
  | fuel + 1, s =>
    if s.inFlow || s.indent ≤ column then s
    else
      closeBlocks column fuel
        { s.push .blockEnd with indent := s.outer.headD (-1), outer := s.outer.drop 1 }

def unwind (s : State) (column : Int) : State := s.closeBlocks column (s.outer.length + 1)

/-- Opens a block collection at a column, unless one is open there. -/
def openBlock (s : State) (column position : Nat) (t : Token) : State :=
  if s.indent < column then
    { s with
      indent := column
      outer := s.indent :: s.outer
      tokens := s.tokens.insertIdxIfInBounds position t }
  else s

/-- A key ends on its line and takes at most 1024 characters. -/
def isStale (s : State) (k : KeyStart) : Bool :=
  k.cursor.line != s.cursor.line || 1024 < s.cursor.index - k.cursor.index

/-- Forgets the places where a key can no longer have started. -/
def dropStale (s : State) : Except Problem State :=
  if s.keys.any fun (_, k) => s.isStale k && k.required then fail .lostKey
  else .ok { s with keys := s.keys.filter fun (_, k) => !s.isStale k }

/-- The tokens in front of which no key can be put any more. -/
def settled (s : State) : List Token :=
  let waiting := (s.keys.filter fun (_, k) => !s.isStale k).map (·.2.position)
  s.tokens.toList.take (waiting.foldl min s.tokens.size)

def dropKey (s : State) : Except Problem State :=
  if (s.keys.lookup s.flow).any (·.required) then fail .lostKey
  else .ok { s with keys := s.keys.filter (·.1 != s.flow) }

def saveKey (s : State) : Except Problem State := do
  if s.keyAllowed then
    let k : KeyStart := {
      position := s.tokens.size
      required := !s.inFlow && s.indent == s.cursor.column
      cursor := s.cursor }
    let s ← s.dropKey
    return { s with keys := (s.flow, k) :: s.keys }
  else return s

def skipGap : (fuel : Nat) → State → State
  | 0, s => s
  | fuel + 1, s =>
    let c := s.cursor.skipComment
    if isBreak c.peek then
      skipGap fuel { s with cursor := c.lineBreak.2, keyAllowed := s.keyAllowed || !s.inFlow }
    else { s with cursor := c }

end State

def orFail {α : Type} (f : SyntaxFault) : Option α → Except Problem α
  | some a => .ok a
  | none => fail f

def versionNumber (c : Cursor) : Except Problem (Nat × Cursor) :=
  let (ds, c) := c.run isAsciiDigit
  if ds.isEmpty then fail .directive
  else if digitLimit < ds.length then .error (.numeral (.tooLong ds.length))
  else .ok (ds.digitsValue, c)

def tagHandle? (c : Cursor) : Option (Text × Cursor) :=
  if c.peek != '!' then none
  else
    let (name, next) := c.advance.run isNameChar
    if next.peek = '!' then some ('!' :: name ++ ['!'], next.advance)
    else if c.peek 1 = ' ' then some (['!'], c.advance)
    else none

/-- The bytes that escapes with a percent sign stand for. -/
def tagBytes? : (fuel : Nat) → Cursor → Option (Bytes × Cursor)
  | 0, c => some ([], c)
  | fuel + 1, c =>
    if c.peek != '%' then some ([], c)
    else do
      let high ← baseDigit? 16 (c.peek 1)
      let low ← baseDigit? 16 (c.peek 2)
      let (more, c) ← tagBytes? fuel (c.advance 3)
      return ((16 * high + low).toUInt8 :: more, c)

def isTagChar (c : Char) : Bool := c.isAlphanum || "-;/?:@&=+$,_.!~*'()[]".toList.contains c

def tagSuffix? : (fuel : Nat) → Cursor → Option (Text × Cursor)
  | 0, c => some ([], c)
  | fuel + 1, c => do
    let (t, c) := c.run isTagChar
    if c.peek = '%' then
      let (bytes, c) ← tagBytes? (c.rest.length + 1) c
      let escaped ← (Utf8.decode bytes).toOption
      let (more, c) ← tagSuffix? fuel c
      return (t ++ escaped ++ more, c)
    else return (t, c)

def tagPart? (c : Cursor) : Option (Text × Cursor) :=
  (tagSuffix? (c.rest.length + 1) c).filter (!·.1.isEmpty)

def versionDirective (c : Cursor) : Except Problem (Directive × Cursor) := do
  let (major, c) ← versionNumber (c.skip (· == ' '))
  if c.peek != '.' then fail .directive
  else
    let (minor, c) ← versionNumber c.advance
    if isSpaceOrEnd c.peek then return (.version major minor, c) else fail .directive

/-- The handle that a directive names, and what it stands for. -/
def tagDirective? (c : Cursor) : Option (Directive × Cursor) := do
  let (handle, c) ← tagHandle? (c.skip (· == ' '))
  if c.peek != ' ' then failure
  let (start, c) ← tagPart? (c.skip (· == ' '))
  if isSpaceOrEnd c.peek then return (.tag handle start, c) else failure

def directiveBody (name : Text) (c : Cursor) : Except Problem (Directive × Cursor) :=
  if name == "YAML".toList then versionDirective c
  else if name == "TAG".toList then orFail .directive (tagDirective? c)
  else .ok (.reserved, c.skip (!isBreakOrEnd ·))

def readDirective (c : Cursor) : Except Problem (Directive × Cursor) := do
  let (name, c) := c.advance.run isNameChar
  if name.isEmpty || !isSpaceOrEnd c.peek then fail .directive
  else
    let (d, c) ← directiveBody name c
    return (d, ← orFail .directive c.endLine?)

def anchorName? (c : Cursor) : Option (Text × Cursor) :=
  let (name, c) := c.advance.run isNameChar
  let ends := isGapOrEnd c.peek || ['?', ':', ',', ']', '\x7d', '%', '@', '\u0060'].contains c.peek
  if name.isEmpty || !ends then none else some (name, c)

/-- A tag, whose exclamation mark stands at the cursor: its handle and its suffix. -/
def tag? (c : Cursor) : Option (Option Text × Text × Cursor) := do
  let (handle, suffix, c) ←
    if c.peek 1 = '<' then do
      let (suffix, c) ← tagPart? (c.advance 2)
      if c.peek != '>' then failure
      pure (none, suffix, c.advance)
    else if isGapOrEnd (c.peek 1) then pure (none, ['!'], c.advance)
    else if (c.advance.rest.takeWhile (!isSpaceOrEnd ·)).contains '!' then do
      let (handle, c) ← tagHandle? c
      let (suffix, c) ← tagPart? c
      pure (some handle, suffix, c)
    else do
      let (suffix, c) ← tagPart? c.advance
      pure (some ['!'], suffix, c)
  if isSpaceOrEnd c.peek then return (handle, suffix, c) else failure

def startsPlain (flow : Bool) (c : Cursor) : Bool :=
  let x := c.peek
  let reserved := "-?:,[]\x7b\x7d#&*!|>'\"%@\u0060".toList
  !(isGapOrEnd x || reserved.contains x)
    || !isGapOrEnd (c.peek 1) && (x == '-' || !flow && (x == '?' || x == ':'))

namespace State

def outermost (s : State) : Except Problem State := do
  let s ← (s.unwind (-1)).dropKey
  return { s with keyAllowed := false }

/-- An item of a sequence or a key of a mapping, with a mark in front. -/
def marked (s : State) (start t : Token) (f : SyntaxFault) : Except Problem State := do
  let s ←
    if s.inFlow then pure s
    else if s.keyAllowed then pure (s.openBlock s.cursor.column s.tokens.size start)
    else fail f
  let s ← s.dropKey
  return s.take 1 t

/-- The colon after a key. Where a key can have started, it is marked there. -/
def valueMark (s : State) : Except Problem State := do
  match s.keys.lookup s.flow with
  | some k =>
    let s := { s with
      keys := s.keys.filter (·.1 != s.flow)
      keyAllowed := false
      tokens := s.tokens.insertIdxIfInBounds k.position .key }
    let s := if s.inFlow then s else s.openBlock k.cursor.column k.position .blockMapping
    return s.take 1 .value
  | none =>
    let s ← s.marked .blockMapping .value .lostKey
    return { s with keyAllowed := !s.inFlow }

/-- A token that may be the start of a key. -/
def keyLike (s : State) (read : Cursor → Except Problem (Token × Cursor)) :
    Except Problem State := do
  let s ← s.saveKey
  let (t, c) ← read s.cursor
  return { s.push t with keyAllowed := false, cursor := c }

def openFlow (s : State) (t : Token) : Except Problem State := do
  let s ← s.saveKey
  return { s.take 1 t with flow := s.flow + 1, keyAllowed := true }

/-- The bracket that closes a flow collection. Where none is open, it stands where no token of its
kind may. -/
def closeFlow (s : State) (t : Token) : Except Problem State := do
  let s ← s.dropKey
  return { s.take 1 t with flow := s.flow - 1, keyAllowed := false }

def plainScalar (s : State) : Except Problem State := do
  let s ← s.saveKey
  let (t, c, broken) := Scalar.plain s.inFlow s.indent s.cursor
  return { s.push (.scalar (.ofText t) true) with keyAllowed := broken, cursor := c }

def blockScalar (s : State) : Except Problem State := do
  let s ← s.dropKey
  let (t, c) ← Scalar.block s.indent s.cursor
  return { s.push (.scalar (.ofText t) false) with keyAllowed := true, cursor := c }

def next (s : State) : Except Problem State := do
  let c := s.cursor
  let x := c.peek
  let alone := isGapOrEnd (c.peek 1)
  if x = '%' && c.column = 0 then
    let s ← s.outermost
    let (d, c) ← readDirective c
    return { s.push (.directive d) with cursor := c }
  else if c.column = 0 && c.isMarker '-' then return (← s.outermost).take 3 .documentStart
  else if c.column = 0 && c.isMarker '.' then return (← s.outermost).take 3 .documentEnd
  else if x = '[' then s.openFlow .flowSequence
  else if x = '\x7b' then s.openFlow .flowMapping
  else if x = ']' then s.closeFlow .flowSequenceEnd
  else if x = '\x7d' then s.closeFlow .flowMappingEnd
  else if x = ',' then
    let s ← s.dropKey
    return { s.take 1 .flowEntry with keyAllowed := true }
  else if x = '-' && alone then
    let s ← s.marked .blockSequence .blockEntry .indentation
    return { s with keyAllowed := true }
  else if x = '?' && (s.inFlow || alone) then
    let s ← s.marked .blockMapping .key .indentation
    return { s with keyAllowed := !s.inFlow }
  else if x = ':' && (s.inFlow || alone) then s.valueMark
  else if x = '*' then
    s.keyLike fun c => do
      let (name, c) ← orFail .anchor (anchorName? c)
      return (.alias name, c)
  else if x = '&' then
    s.keyLike fun c => do
      let (name, c) ← orFail .anchor (anchorName? c)
      return (.anchor name, c)
  else if x = '!' then
    s.keyLike fun c => do
      let (handle, suffix, c) ← orFail .tag (tag? c)
      return (.tag handle suffix, c)
  else if (x = '|' || x = '>') && !s.inFlow then s.blockScalar
  else if x = '\'' || x = '"' then
    s.keyLike fun c => do
      let (t, c) ← Scalar.quoted c
      return (.scalar t false, c)
  else if startsPlain s.inFlow c then s.plainScalar
  else fail .strayCharacter

/-- A defect of the text shows once its end is reached. -/
def checkEnd (defect : Option Problem) (s : State) : Except Problem State :=
  match defect with
  | some p => if s.cursor.rest.isEmpty then .error p else .ok s
  | none => .ok s

/-- The next token; where it goes on after the end of a text with a defect, that is what is wrong
with it. -/
def nextBefore (defect : Option Problem) (s : State) : Except Problem State :=
  match defect, s.next with
  | some p, .error (.malformed .textEnd) => .error p
  | _, .error q => .error q
  | _, .ok s => s.checkEnd defect

/-- One step from a state: the next token, and whether it is the last one. -/
def step (defect : Option Problem) (s : State) : Except Problem (State × Bool) := do
  let s ← s.dropStale
  let s ← (s.skipGap (s.cursor.rest.length + 1)).checkEnd defect
  let s ← s.dropStale
  let s := s.unwind s.cursor.column
  if s.cursor.peek = endMark then return ((← s.outermost).push .textEnd, true)
  else return (← s.nextBefore defect, false)

/-- Splits the text from a state on. What cannot be split is the last token; it is met before the
tokens in front of which a key may be put. -/
def tokensFrom (defect : Option Problem) : (fuel : Nat) → State → List Token
  | 0, s => s.tokens.toList
  | fuel + 1, s =>
    match s.step defect with
    | .error p => s.settled ++ [.fault p]
    | .ok (s, true) => s.tokens.toList
    | .ok (s, false) => tokensFrom defect fuel s

end State

def ofInput (input : Input) : List Token :=
  let cursor : Cursor := { rest := input.text }
  let cursor := if cursor.peek = '\ufeff' then cursor.advance else cursor
  State.tokensFrom input.defect (input.text.length + 1) { cursor }

end Token

end DocSamples.Yaml
