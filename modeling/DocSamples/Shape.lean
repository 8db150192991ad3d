import DocSamples.Text.Blank
import DocSamples.Text.Word

namespace DocSamples

inductive Shape
  /-- It is checked as it is written. -/
  | fullProgram
  /-- It holds tests or groups, which need a scope around them. -/
  | scopeBody
  /-- It is a list of assertions, which need a test around them. -/
  | assertionFragment
  /-- It only illustrates and is never checked. -/
  | pseudoCode
  deriving DecidableEq, Repr

namespace Shape

def name : Shape → Text
  | fullProgram => "full_program"
  | scopeBody => "scope_body"
  | assertionFragment => "assertion_fragment"
  | pseudoCode => "pseudo_code"

def lineStarts (t : Text) : List Text := t.startsAfter (· == '\n')

def wordStarts (t : Text) : List Text := t.startsAfter (!isWordChar ·)

def afterBlanks? : Text → Option Text
  | [] => none
  | c :: t => if isBlank c then some (Text.trimLeft t) else none

def afterName? : Text → Option Text
  | [] => none
  | c :: t => if isCapital c then some (t.dropWhile isWordChar) else none

/-- Three dots, or the one character for them. -/
def hasEllipsis : Text → Bool
  | [] => false
  | c :: t => c == '…' || Text.startsWith (c :: t) ['.', '.', '.'] || hasEllipsis t

/-- Whether only blanks follow up to the end of a line. -/
def endsLine (t : Text) : Bool :=
  (Text.trimLeft t).isEmpty || (t.takeWhile isBlank).contains '\n'

/-- A function that is named and has neither parameters nor a body. -/
def startsStub (t : Text) : Bool :=
  (((t.rest? "fn").bind afterBlanks?).bind afterName?).any endsLine

def startsDeclaration (t : Text) : Bool :=
  (((Text.trimLeft t).rest? "fn").bind afterBlanks?).isSome

/-- The name of a scope and the brace that opens it. -/
def startsInvocation (t : Text) : Bool :=
  (afterName? (Text.trimLeft t)).any fun r => Text.startsWith (Text.trimLeft r) ['\x7b']

/-- A test or a group and the quote that opens its name. -/
def startsBlock (t : Text) : Bool :=
  let opens (word : Text) := ((t.rest? word).bind afterBlanks?).any (Text.startsWith · ['"'])
  opens "test" || opens "group"

/-- An assertion and the bracket that opens it. -/
def startsAssertion (t : Text) : Bool :=
  ((Text.trimLeft t).rest? "assert").any fun r =>
    match Text.trimLeft r with
    | c :: _ => c == '(' || c == '\x7b'
    | [] => false

/-- Placeholders, function stubs, and a scope that is invoked where no function is declared. -/
def isPseudoCode (t : Text) : Bool :=
  hasEllipsis t || (lineStarts t).any startsStub
    || startsInvocation t && !(lineStarts t).any startsDeclaration

def looksLikeScope (t : Text) : Bool := (wordStarts t).any startsBlock

def looksLikeAssert (t : Text) : Bool := (lineStarts t).any startsAssertion

/-- The shape of a sample: pseudo-code goes before a scope, and a scope before assertions. -/
def classify (t : Text) : Shape :=
  if isPseudoCode t then pseudoCode
  else if looksLikeScope t then scopeBody
  else if looksLikeAssert t then assertionFragment
  else fullProgram

end Shape

end DocSamples
