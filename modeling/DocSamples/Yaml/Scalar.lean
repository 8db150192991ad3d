import DocSamples.Number.Reading
import DocSamples.Text.Utf8
import DocSamples.Yaml.Cursor
import DocSamples.Yaml.Problem

namespace DocSamples.Yaml.Scalar

/-- The text that stands at a place, and the place after it. -/
abbrev Scan := Except Problem (Text × Cursor)

abbrev PointScan := Except Problem (Points × Cursor)

def fail {α : Type} (f : SyntaxFault) : Except Problem α := .error (.malformed f)

/-- Whether a plain scalar ends before `x`, which `next` follows. -/
def endsPlain (flow : Bool) (x next : Char) : Bool :=
  isGapOrEnd x
    || x == ':' && (isGapOrEnd next || flow && [',', '[', ']', '\x7b', '\x7d'].contains next)
    || flow && [',', '?', '[', ']', '\x7b', '\x7d'].contains x

def plainPiece (flow : Bool) : Text → Text
  | [] => []
  | x :: t => if endsPlain flow x (t.headD endMark) then [] else x :: plainPiece flow t

/-- The line breaks after the first one inside a plain scalar; none where a document ends. -/
def plainBreaks : (fuel : Nat) → Cursor → Option Text × Cursor
  | 0, c => (some [], c)
  | fuel + 1, c =>
    if c.peek = ' ' then plainBreaks fuel c.advance
    else if isBreak c.peek then
      let (b, c) := c.lineBreak
      if c.isDocumentMarker then (none, c)
      else
        let (more, c) := plainBreaks fuel c
        (more.map (b ++ ·), c)
    else (some [], c)

/-- A line break and the further ones after it: a single line feed is folded into a space. -/
def fold (first : Text) (more : Text) : Text :=
  if first != ['\n'] then first ++ more
  else if more.isEmpty then [' ']
  else more

/-- What stands between two pieces of a plain scalar, the place after it, and whether a line
ended. -/
def plainGap (c : Cursor) : Text × Cursor × Bool :=
  let (spaces, c) := c.run (· == ' ')
  if isBreak c.peek then
    let (b, c) := c.lineBreak
    if c.isDocumentMarker then ([], c, true)
    else
      let (more, c) := plainBreaks (c.rest.length + 1) c
      ((more.map (fold b)).getD [], c, true)
  else (spaces, c, false)

/-- A plain scalar from some place on, after the gap `before`; and whether a line ended after its
last piece. -/
def plainFrom (flow : Bool) (indent : Int) :
    (fuel : Nat) → (before : Text) → (broken : Bool) → Cursor → Text × Cursor × Bool
  | 0, _, broken, c => ([], c, broken)
  | fuel + 1, before, broken, c =>
    let piece := if c.peek = '#' then [] else plainPiece flow c.rest
    if piece.isEmpty then ([], c, broken)
    else
      let (gap, next, ended) := plainGap (c.advance piece.length)
      if gap.isEmpty || next.peek = '#' || !flow && next.column < indent then
        (before ++ piece, next, ended)
      else
        let (more, last, ended) := plainFrom flow indent fuel gap ended next
        (before ++ piece ++ more, last, ended)

def plain (flow : Bool) (indent : Int) (c : Cursor) : Text × Cursor × Bool :=
  plainFrom flow (indent + 1) (c.rest.length + 1) [] false c

/-- The line breaks inside a quoted scalar after the first one. -/
def quotedBreaks : (fuel : Nat) → Cursor → Scan
  | 0, c => .ok ([], c)
  | fuel + 1, c => do
    if c.isDocumentMarker then fail .quotation
    else
      let c := c.skip isSpaceOrTab
      if isBreak c.peek then
        let (b, c) := c.lineBreak
        let (more, c) ← quotedBreaks fuel c
        return (b ++ more, c)
      else return ([], c)

def escapes : List (Char × Char) :=
  [('0', '\x00'), ('a', '\x07'), ('b', '\x08'), ('t', '\t'), ('\t', '\t'), ('n', '\n'),
   ('v', '\x0b'), ('f', '\x0c'), ('r', '\r'), ('e', '\x1b'), (' ', ' '), ('"', '"'), ('/', '/'),
   ('\\', '\\'), ('N', '\u0085'), ('_', '\u00a0'), ('L', '\u2028'), ('P', '\u2029')]

def escapeSize? (x : Char) : Option Nat :=
  if x = 'x' then some 2 else if x = 'u' then some 4 else if x = 'U' then some 8 else none

def codePoint (code : Nat) : Except Problem Point :=
  if 0x7FFFFFFF < code then .error .codePointSize
  else if 0x10FFFF < code then .error .codePoint
  else .ok (.ofCode code)

def escape (c : Cursor) : PointScan := do
  let x := c.peek
  if let some y := escapes.lookup x then return ([.char y], c.advance)
  if let some size := escapeSize? x then
    let ds := c.advance.rest.take size
    let values := ds.filterMap (baseDigit? 16)
    if values.length < size then fail .quotation
    else
      let point ← codePoint (values.foldl (fun n d => 16 * n + d) 0)
      return ([point], c.advance (size + 1))
  else if isBreak x then
    let (breaks, c) ← quotedBreaks (c.rest.length + 1) c.lineBreak.2
    return (.ofText breaks, c)
  else fail .quotation

/-- Spaces inside a quoted scalar, with the line breaks among them folded. -/
def quotedGap (c : Cursor) : Scan := do
  let (spaces, c) := c.run isSpaceOrTab
  if c.peek = endMark then fail .textEnd
  else if isBreak c.peek then
    let (b, c) := c.lineBreak
    let (more, c) ← quotedBreaks (c.rest.length + 1) c
    return (fold b more, c)
  else return (spaces, c)

def quotedFrom (double : Bool) : (fuel : Nat) → Cursor → PointScan
  | 0, _ => fail .quotation
  | fuel + 1, c => do
    let x := c.peek
    let literal (size : Nat) : PointScan := do
      let (more, c) ← quotedFrom double fuel (c.advance size)
      return (.char x :: more, c)
    if isGapOrEnd x then
      let (gap, c) ← quotedGap c
      let (more, c) ← quotedFrom double fuel c
      return (.ofText gap ++ more, c)
    else if double then
      if x = '"' then return ([], c.advance)
      else if x = '\\' then
        let (ps, c) ← escape c.advance
        let (more, c) ← quotedFrom double fuel c
        return (ps ++ more, c)
      else literal 1
    else if x = '\'' then
      if c.peek 1 = '\'' then literal 2 else return ([], c.advance)
    else literal 1

def quoted (c : Cursor) : PointScan :=
  quotedFrom (c.peek == '"') (c.rest.length + 1) c.advance

/-- What becomes of the line breaks at the end of a block scalar. -/
inductive Chomping
  | strip
  | clip
  | keep
  deriving DecidableEq, Repr

def chomping? (x : Char) : Option Chomping :=
  if x = '+' then some .keep else if x = '-' then some .strip else none

def increment? (x : Char) : Option Nat := if isAsciiDigit x then some (x.toNat - 48) else none

/-- How a block scalar says that it ends and how far it is indented, in either order. -/
def blockHeader (c : Cursor) : Except Problem (Chomping × Option Nat × Cursor) := do
  let (chomping, c) := match chomping? c.peek with
    | some k => (some k, c.advance)
    | none => (none, c)
  let (increment, c) := match increment? c.peek with
    | some n => (some n, c.advance)
    | none => (none, c)
  let (chomping, c) := match chomping, increment, chomping? c.peek with
    | none, some _, some k => (some k, c.advance)
    | k, _, _ => (k, c)
  if increment = some 0 || !isSpaceOrEnd c.peek then fail .blockScalar
  else
    match c.endLine? with
    | some c => return (chomping.getD .clip, increment, c)
    | none => fail .blockScalar

/-- The empty lines at the start of a block scalar, and the widest indentation of them. -/
def blockIndent : (fuel : Nat) → (widest : Nat) → Cursor → Text × Nat × Cursor
  | 0, widest, c => ([], widest, c)
  | fuel + 1, widest, c =>
    if c.peek = ' ' then
      let c := c.advance
      blockIndent fuel (max widest c.column) c
    else if isBreak c.peek then
      let (b, c) := c.lineBreak
      let (more, widest, c) := blockIndent fuel widest c
      (b ++ more, widest, c)
    else ([], widest, c)

def skipIndent (indent : Nat) (c : Cursor) : Cursor :=
  c.advance ((c.rest.take (indent - c.column)).takeWhile (· == ' ')).length

def blockBreaks (indent : Nat) : (fuel : Nat) → Cursor → Text × Cursor
  | 0, c => ([], c)
  | fuel + 1, c =>
    let c := skipIndent indent c
    if isBreak c.peek then
      let (b, c) := c.lineBreak
      let (more, c) := blockBreaks indent fuel c
      (b ++ more, c)
    else ([], c)

/-- The lines of a block scalar from some place on, after the empty lines `breaks`. Two lines that
start with no blank are folded into one. -/
def blockLines (folded : Bool) (chomping : Chomping) (indent : Nat) :
    (fuel : Nat) → (breaks : Text) → (ending : Text) → Cursor → Text × Cursor
  | 0, _, _, c => ([], c)
  | fuel + 1, breaks, ending, c =>
    let tail := match chomping with
      | .strip => []
      | .clip => ending
      | .keep => ending ++ breaks
    if c.column != indent || c.peek = endMark then (tail, c)
    else
      let solid := !isSpaceOrTab c.peek
      let (line, c) := c.run (!isBreakOrEnd ·)
      let (ending, c) := c.lineBreak
      let (next, c) := blockBreaks indent (c.rest.length + 1) c
      let joint :=
        if c.column != indent || c.peek = endMark then []
        else if folded && ending == ['\n'] && solid && !isSpaceOrTab c.peek then
          (if next.isEmpty then [' '] else [])
        else ending
      let (more, c) := blockLines folded chomping indent fuel next ending c
      (breaks ++ line ++ joint ++ more, c)

def block (indent : Int) (c : Cursor) : Scan := do
  let folded := c.peek == '>'
  let (chomping, increment, c) ← blockHeader c.advance
  let least := (max 1 (indent + 1)).toNat
  let (breaks, column, c) := match increment with
    | some n =>
      let column := least + n - 1
      let (breaks, c) := blockBreaks column (c.rest.length + 1) c
      (breaks, column, c)
    | none =>
      let (breaks, widest, c) := blockIndent (c.rest.length + 1) 0 c
      (breaks, max least widest, c)
  return blockLines folded chomping column (c.rest.length + 1) breaks [] c

end DocSamples.Yaml.Scalar
