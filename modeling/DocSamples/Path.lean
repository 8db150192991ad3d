import DocSamples.Text.Basic

namespace DocSamples

/-- A path is its parts in order; one that does not start at the root starts with no slash. A root
written with two slashes is kept apart from one written with one. -/
structure Path where
  slashes : Nat
  parts : List Text
  deriving DecidableEq, Repr

namespace Path

/-- Reads a path: empty parts and parts of a single dot mean nothing. -/
def ofText (t : Text) : Path :=
  let slashes := (t.takeWhile (· == '/')).length
  { slashes := if slashes ≤ 2 then slashes else 1
    parts := (t.splitWhere (· == '/')).filter fun p => !p.isEmpty && p != ['.'] }

/-- A path without parts is written as a dot. -/
def text (p : Path) : Text :=
  let t := List.replicate p.slashes '/' ++ Text.join ['/'] p.parts
  if t.isEmpty then ['.'] else t

def isAbsolute (p : Path) : Bool := p.slashes != 0

def join (p q : Path) : Path := if q.isAbsolute then q else { p with parts := p.parts ++ q.parts }

def child (p : Path) (name : Text) : Path := { p with parts := p.parts ++ [name] }

/-- The path of what these names lead to from `p`. -/
def descend (p : Path) (names : List Text) : Path := { p with parts := p.parts ++ names }

/-- The last part of a path. -/
def name (p : Path) : Text := p.parts.getLast?.getD []

/-- The suffix of a name starts with its last dot, which may be neither its first character nor its
last. -/
def suffixOf (name : Text) : Text :=
  let tail := (name.reverse.takeWhile (· != '.')).reverse
  if !tail.isEmpty && tail.length + 1 < name.length then '.' :: tail else []

def suffix (p : Path) : Text := suffixOf p.name

end Path

end DocSamples
