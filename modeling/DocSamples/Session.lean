import DocSamples.Diagnostic
import DocSamples.FileTree
import DocSamples.Note
import DocSamples.Outcome
import DocSamples.Text.Points

namespace DocSamples

/-- What ends a run before it has an answer. -/
inductive Fault
  /-- A file cannot be opened or written. -/
  | file (e : FileError)
  /-- A file does not hold text. -/
  | undecodable (d : Utf8.Defect)
  /-- Points hold a surrogate, which has no bytes. -/
  | unencodable (ps : Points)
  /-- The disk takes no more of a file. -/
  | noSpace
  /-- The number of a line has too many digits. -/
  | longNumeral (e : LongNumeral)
  /-- A command came to an end that no outcome stands for. -/
  | command (reason : Text)
  deriving DecidableEq, Repr

/-- What a checker answers: an outcome or a fault, what it remembers from now on, and its notes. -/
structure Reply (σ : Type) where
  result : Except Fault Outcome
  memory : σ
  notes : List Note

/-- A checker answers a text; what it remembers of earlier texts may change its answer. -/
abbrev Checker (σ : Type) := Text → σ → Reply σ

/-- The state of a run: what the checker remembers, the texts it was asked about, and the notes. -/
structure Session (σ : Type) where
  memory : σ
  asked : List Text := []
  journal : List Note := []

/-- A computation that asks a checker and makes notes; a fault ends it and keeps its state. -/
abbrev Run (σ α : Type) := ExceptT Fault (StateM (Session σ)) α

namespace Run

variable {σ : Type}

def start (memory : σ) : Session σ := { memory }

def note (level : Level) (author : Author) (text : Text) : Run σ Unit :=
  modify fun s => { s with journal := s.journal ++ [⟨level, author, text⟩] }

/-- Makes a note, unless it tells a number that is too long to be written. What the log writes to
the errors instead of such a note, where it was raised and why, is left out. -/
def noteWritten (level : Level) (author : Author) : Except LongNumber Text → Run σ Unit
  | .ok text => note level author text
  | .error _ => return ()

def ask (check : Checker σ) (text : Text) : Run σ Outcome :=
  ExceptT.mk fun s =>
    let reply := check text s.memory
    (reply.result, ⟨reply.memory, s.asked ++ [text], s.journal ++ reply.notes⟩)

/-- The result of a run from its start, and its last state. -/
def perform {α : Type} (memory : σ) (run : Run σ α) : Except Fault α × Session σ :=
  StateT.run (ExceptT.run run) (start memory)

end Run

end DocSamples
