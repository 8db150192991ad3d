import DocSamples.Number.Writing

namespace DocSamples

inductive OutcomeKind
  | ok
  | syntaxError
  | toolUnavailable
  | timeout
  deriving DecidableEq, Repr

namespace OutcomeKind

def name : OutcomeKind → Text
  | ok => "ok"
  | syntaxError => "syntax"
  | toolUnavailable => "tool_unavailable"
  | timeout => "timeout"

/-- A kind of outcome that does not depend on the text, so that no other text can change it. -/
def isTerminal : OutcomeKind → Bool
  | toolUnavailable | timeout => true
  | ok | syntaxError => false

end OutcomeKind

/-- The result of one check; the line is that of the checked text. -/
structure Outcome where
  kind : OutcomeKind
  message : Text := []
  line : Option Int := none
  deriving DecidableEq, Repr

namespace Outcome

def accepted : Outcome := ⟨.ok, [], none⟩

def isSuccess (o : Outcome) : Bool := o.kind == .ok

/-- The line of a sample that a line of the program around it belongs to; lines of the header count
as the first one. -/
def remap (offset : Int) (o : Outcome) : Outcome :=
  { o with line := o.line.map fun l => max 1 (l - offset) }

theorem remap_of_line_eq_none {offset : Int} {o : Outcome} (h : o.line = none) :
    o.remap offset = o := by
  cases o; simp_all [remap]

def text (o : Outcome) : Except LongNumber Text := do
  if o.isSuccess then return "ok"
  let place : Text ← match o.line with
    | some l => do pure (" (line " ++ (← writeInt l) ++ ")")
    | none => pure []
  return "[" ++ o.kind.name ++ "] " ++ o.message ++ place

end Outcome

end DocSamples
