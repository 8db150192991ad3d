import DocSamples.Session
import DocSamples.Shape
import DocSamples.Strategy

namespace DocSamples

/-- What is said about a sample in the end. A failure keeps the outcome of its last attempt. -/
inductive Verdict
  | skipped
  | succeeded (strategy : Strategy) (shape : Shape) (attempts : Nat)
  | failed (strategy : Strategy) (shape : Shape) (attempts : Nat) (outcome : Outcome)
  deriving DecidableEq, Repr

namespace Verdict

def isSkipped : Verdict → Bool
  | skipped => true
  | _ => false

def isSuccess : Verdict → Bool
  | succeeded .. => true
  | _ => false

def isFailure : Verdict → Bool
  | failed .. => true
  | _ => false

def status : Verdict → Text
  | skipped => "skipped"
  | succeeded .. => "succeeded"
  | failed .. => "failed"

def message : Verdict → Text
  | failed _ _ _ o => o.message
  | _ => []

def line : Verdict → Option Int
  | failed _ _ _ o => o.line
  | _ => none

def kind? : Verdict → Option OutcomeKind
  | failed _ _ _ o => some o.kind
  | _ => none

def strategyName : Verdict → Text
  | skipped => []
  | succeeded s _ _ => s.name
  | failed s _ _ _ => s.name

def shape : Verdict → Shape
  | skipped => .pseudoCode
  | succeeded _ shape _ => shape
  | failed _ shape _ _ => shape

def attempts : Verdict → Nat
  | skipped => 0
  | succeeded _ _ n => n
  | failed _ _ n _ => n

end Verdict

variable {σ : Type}

namespace Strategy

/-- The strategies that are tried after the sample itself, each where its test holds. -/
def fallbacks : List ((Text → Bool) × Strategy) :=
  [(Shape.looksLikeScope, scopeWrap), (Shape.looksLikeAssert, testWrap)]

def fallback? (t : Text) : Option Strategy := (fallbacks.find? (·.1 t)).map (·.2)

/-- Checks the program that embeds a sample; the line of a failure is that of the sample. -/
def attempt (s : Strategy) (check : Checker σ) (t : Text) : Run σ Outcome := do
  let o ← Run.ask check (s.apply t)
  Run.noteWritten .debug .validator (o.text.map (s.name ++ " attempt: " ++ ·))
  return if o.isSuccess then o else o.remap s.lineOffset

end Strategy

/-- Checks a sample: pseudo-code is skipped, other samples are checked as they are, and a rejected
one once more with the first fallback whose test holds. -/
def validate (check : Checker σ) (t : Text) : Run σ Verdict := do
  let shape := Shape.classify t
  if shape = .pseudoCode then
    Run.note .debug .validator "Skipping pseudo-code snippet"
    return .skipped
  let direct ← Strategy.identity.attempt check t
  if direct.isSuccess then
    return .succeeded .identity shape 1
  if direct.kind.isTerminal then
    return .failed .identity shape 1 direct
  match Strategy.fallback? t with
  | none => return .failed .identity shape 1 direct
  | some s =>
    let o ← s.attempt check t
    return if o.isSuccess then .succeeded s shape 2 else .failed s shape 2 o

end DocSamples
