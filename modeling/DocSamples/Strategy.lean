import DocSamples.Text.Quoted

namespace DocSamples

/-- A way of embedding a sample in a program: what stands before and after it, and the number of
lines that come before its first line. -/
structure Strategy where
  name : Text
  header : Text
  footer : Text
  lineOffset : Int
  deriving DecidableEq, Repr

structure UnknownStrategy where
  name : Text
  deriving DecidableEq, Repr

namespace Strategy

def scopeHeader : Text := "fn __s__() `q`\n__s__ \x7b\n"

def identity : Strategy := ⟨"identity", [], [], 0⟩

def scopeWrap : Strategy := ⟨"scope-wrap", scopeHeader, "\n\x7d", 2⟩

def testWrap : Strategy := ⟨"test-wrap", scopeHeader ++ "test \"t\" \x7b\n", "\n\x7d\n\x7d", 3⟩

/-- The strategies, in the order in which they are tried. -/
def all : List Strategy := [identity, scopeWrap, testWrap]

/-- The program that embeds a sample. -/
def apply (s : Strategy) (t : Text) : Text := s.header ++ t ++ s.footer

def named (name : Text) : Except UnknownStrategy Strategy :=
  match all.find? (·.name == name) with
  | some s => .ok s
  | none => .error ⟨name⟩

end Strategy

/-- The message lists the names that exist. -/
def UnknownStrategy.message (e : UnknownStrategy) : Text :=
  "Unknown wrap strategy '" ++ e.name ++ "'. Available: ["
    ++ Text.join ", " (Strategy.all.map (·.name.quoted)) ++ "]"

end DocSamples
