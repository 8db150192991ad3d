import DocSamples.Fence
import DocSamples.Selection
import DocSamples.Settings
import DocSamples.Verdict

namespace DocSamples

structure Document where
  path : Option Path
  flavor : Flavor
  text : Text
  deriving DecidableEq, Repr

/-- A sample that failed, at a line of its document. -/
structure Failure where
  path : Option Path
  line : Int
  message : Text
  verdict : Verdict
  deriving DecidableEq, Repr

/-- How many samples of a document were checked and skipped, and the failure that ended it. -/
structure Report where
  path : Option Path
  checked : Nat := 0
  skipped : Nat := 0
  failure : Option Failure := none
  deriving DecidableEq, Repr

/-- How a document is called that may have no path. -/
def Path.label : Option Path → Text
  | some p => p.text
  | none => "<document>"

namespace Failure

def column : Nat := 1

def location (f : Failure) : Except LongNumber Text := do
  return Path.label f.path ++ ":" ++ (← writeInt f.line) ++ ":" ++ Text.ofNat column

def text (f : Failure) : Except LongNumber Text := do
  return (← f.location) ++ ": " ++ f.message

end Failure

namespace Report

def isOk (r : Report) : Bool := r.failure.isNone

end Report

namespace Document

variable {σ : Type}

/-- Documents whose name ends in `.mdx` are MDX, all others Markdown. -/
def flavorOf (path : Option Path) : Flavor :=
  if path.any fun p => p.suffix.lower == (".mdx" : Text) then .mdx else .markdown

/-- The failure of a sample. Its first line is the one after the first line of the fence. -/
def failureOf (settings : Settings) (path : Option Path) (f : Fence) (v : Verdict) : Failure where
  path := path
  line := f.startLine + v.line.getD 1
  message := settings.language ++ " syntax error: " ++ v.message
  verdict := v

/-- Validates the fences of the language in order, up to the first that fails. -/
def walk (check : Checker σ) (settings : Settings) : List Fence → Report → Run σ Report
  | [], r => return r
  | f :: fs, r => do
    if f.language ≠ settings.language then
      walk check settings fs r
    else if f.isSkipped settings.skipToken then
      Run.note .debug .walker
        (Path.label r.path ++ ":" ++ Text.ofNat f.startLine ++ ": skip directive")
      walk check settings fs { r with skipped := r.skipped + 1 }
    else
      let v ← DocSamples.validate check f.text
      if v.isSkipped then
        walk check settings fs { r with skipped := r.skipped + 1 }
      else if v.isFailure then
        return { r with
          checked := r.checked + 1
          failure := some (failureOf settings r.path f v) }
      else
        walk check settings fs { r with checked := r.checked + 1 }

def report (check : Checker σ) (settings : Settings) (d : Document) : Run σ Report :=
  walk check settings (Fence.scan d.flavor d.text) { path := d.path }

/-- Validates a document; a failure takes the place of the report. -/
def validate (check : Checker σ) (settings : Settings) (d : Document) :
    Run σ (Except Failure Report) := do
  let r ← d.report check settings
  return match r.failure with
    | some f => .error f
    | none => .ok r

/-- The text of a file, with every line break as `\n`. -/
def readText (files : FileTree) (path : Path) : Except Fault Text :=
  match files.read path with
  | .error e => .error (.file e)
  | .ok bytes =>
    match Utf8.decode bytes with
    | .error d => .error (.undecodable d)
    | .ok t => .ok t.unifyBreaks

def ofFile (files : FileTree) (path : Path) : Except Fault Document :=
  (readText files path).map fun text => ⟨some path, flavorOf (some path), text⟩

def validateFile (check : Checker σ) (settings : Settings) (files : FileTree) (path : Path) :
    Run σ (Except Failure Report) := do
  let d ← ExceptT.mk (pure (ofFile files path))
  d.validate check settings

def reportAll (check : Checker σ) (settings : Settings) (files : FileTree) :
    List Path → Run σ (List Report)
  | [] => return []
  | path :: paths => do
    let d ← ExceptT.mk (pure (ofFile files path))
    let r ← d.report check settings
    if let some f := r.failure then
      Run.noteWritten .info .walker f.text
    return r :: (← reportAll check settings files paths)

end Document

end DocSamples
