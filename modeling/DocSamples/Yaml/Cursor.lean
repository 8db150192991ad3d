import DocSamples.Text.Basic

namespace DocSamples.Yaml

/-- A place in a text: what is left of it, how much came before, and the line and column. -/
structure Cursor where
  rest : Text
  index : Nat := 0
  line : Nat := 0
  column : Nat := 0

/-- Next line, line separator or paragraph separator besides the line feed. -/
def isBreak (c : Char) : Bool :=
  c == '\n' || c == '\u0085' || c == '\u2028' || c == '\u2029'

def isSpaceOrTab (c : Char) : Bool := c == ' ' || c == '\t'

/-- The character that stands for the end of the text, which may not hold it. -/
def endMark : Char := '\x00'

def isBreakOrEnd (c : Char) : Bool := c == endMark || isBreak c

def isSpaceOrEnd (c : Char) : Bool := c == ' ' || isBreakOrEnd c

def isGapOrEnd (c : Char) : Bool := isSpaceOrTab c || isBreakOrEnd c

/-- A character of the names of anchors, directives and tag handles. -/
def isNameChar (c : Char) : Bool := c.isAlphanum || c == '-' || c == '_'

namespace Cursor

def peek (c : Cursor) (n : Nat := 0) : Char := (c.rest[n]?).getD endMark

/-- A byte order mark takes no column. -/
def passChar (c : Cursor) (x : Char) : Cursor :=
  let c := { c with rest := c.rest.drop 1, index := c.index + 1 }
  if isBreak x then { c with line := c.line + 1, column := 0 }
  else if x = '\ufeff' then c
  else { c with column := c.column + 1 }

def advance (c : Cursor) (n : Nat := 1) : Cursor := (c.rest.take n).foldl passChar c

/-- The longest run of a class of characters, and the place after it. -/
def run (c : Cursor) (p : Char → Bool) : Text × Cursor :=
  let t := c.rest.takeWhile p
  (t, c.advance t.length)

def skip (c : Cursor) (p : Char → Bool) : Cursor := (c.run p).2

/-- A line break as it counts in a text, and the place after it; nothing where there is none. -/
def lineBreak (c : Cursor) : Text × Cursor :=
  let x := c.peek
  if x = '\n' || x = '\u0085' then (['\n'], c.advance)
  else if isBreak x then ([x], c.advance)
  else ([], c)

def isMarker (c : Cursor) (x : Char) : Bool :=
  c.peek == x && c.peek 1 == x && c.peek 2 == x && isGapOrEnd (c.peek 3)

def isDocumentMarker (c : Cursor) : Bool := c.isMarker '-' || c.isMarker '.'

def skipComment (c : Cursor) : Cursor :=
  let c := c.skip (· == ' ')
  if c.peek = '#' then c.skip (!isBreakOrEnd ·) else c

/-- The place after the last line break of a line that holds nothing more. -/
def endLine? (c : Cursor) : Option Cursor :=
  let c := c.skipComment
  if isBreakOrEnd c.peek then some c.lineBreak.2 else none

end Cursor

end DocSamples.Yaml
