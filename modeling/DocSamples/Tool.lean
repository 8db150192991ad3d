import DocSamples.Number.Shortest
import DocSamples.Session

namespace DocSamples

/-- The program of a command; a command line may leave it without a name. -/
inductive Program
  | named (name : Text)
  | unnamed
  deriving DecidableEq, Repr

namespace Program

def text : Program → Text
  | named name => name
  | unnamed => "[]"

def quoted : Program → Text
  | named name => name.quoted
  | unnamed => "[]"

end Program

/-- A checker that is a command: it is given the text in a file of the scratch directory. -/
structure Tool where
  program : Program
  subcommand : Text
  timeout : Option Double
  scratch : Path
  /-- The name of the file for the `n`-th text. -/
  scratchName : Nat → Text

/-- A command that was started: its program and the further words, the time it may take, and the
files at that moment. -/
structure Command where
  program : Program
  arguments : List Text
  timeout : Option Double
  file : Path
  files : FileTree

inductive Ending
  | exited (status : Int) (output errors : Text)
  | notFound
  | notPermitted
  | timedOut
  | failed (reason : Text)
  deriving DecidableEq, Repr

/-- What a command does: it may delete the file it was given, and it ends. -/
structure Reaction where
  ending : Ending
  removesFile : Bool := false
  deriving DecidableEq, Repr

/-- How commands behave, in the light of the earlier ones. -/
abbrev Runner := List Command → Command → Reaction

/-- What a tool works with: the files, the commands so far and the number of texts so far. -/
structure Workspace where
  files : FileTree
  commands : List Command := []
  count : Nat := 0

/-- How many bytes a disk takes of the file for the `n`-th text, if there is a bound. -/
abbrev Disk := Nat → Option Nat

def Disk.ample : Disk := fun _ => none

/-- What gets into an open file, and what goes wrong. Points are encoded before the first byte is
written, and a disk without room keeps the bytes that it took. -/
def Points.written (room : Option Nat) (ps : Points) : Bytes × Option Fault :=
  match ps.text? with
  | none => ([], some (.unencodable ps))
  | some t =>
    let content := Utf8.encode t
    match room with
    | none => (content, none)
    | some n =>
      if content.length ≤ n then (content, none) else (content.take n, some .noSpace)

/-- Opens a file, which creates or empties it, and writes points. A file that was opened stays,
whatever goes wrong after that. -/
def FileTree.store (tree : FileTree) (path : Path) (room : Option Nat) (ps : Points) :
    FileTree × Option Fault :=
  match tree.write path (ps.written room).1 with
  | .error e => (tree, some (.file e))
  | .ok after => (after, (ps.written room).2)

namespace Tool

def scratchFileName (time token : Text) : Text :=
  "scaf-validate-" ++ time ++ "-" ++ token ++ ".scaf"

def timeoutText : Option Double → Text
  | some d => d.text
  | none => "None"

def notFoundMessage (tool : Tool) : Text := tool.program.text ++ " CLI not found in PATH"

def notExecutableMessage (tool : Tool) : Text := tool.program.text ++ " CLI is not executable"

def arguments (tool : Tool) (file : Path) : List Text := [tool.subcommand, file.text]

/-- What a rejecting command wrote: its errors, else its output, else its exit status. -/
def stream (tool : Tool) (status : Int) (output errors : Text) : Text :=
  let written := if errors.trim.isEmpty then output.trim else errors.trim
  if written.isEmpty then
    tool.program.text ++ " " ++ tool.subcommand ++ " exited with status " ++ Text.ofInt status
  else written

def note (level : Level) (text : Text) : Note := ⟨level, .checker, text⟩

def judge (tool : Tool) (file : Path) : Ending → Except Fault Outcome × List Note
  | .exited 0 _ errors =>
    (.ok .accepted,
      if errors.trim.isEmpty then []
      else [note .debug (tool.program.text ++ " exited 0 with output: " ++ errors.trim)])
  | .exited status output errors =>
    match Diagnostic.parse (tool.stream status output errors) with
    | .error e => (.error (.longNumeral e), [])
    | .ok d =>
      let line := match d.line with
        | some n => Text.ofNat n
        | none => "None"
      (.ok ⟨.syntaxError, d.message, d.line.map Int.ofNat⟩,
        [note .debug (tool.program.text ++ " rejected " ++ file.name ++ ": line=" ++ line
          ++ " message=" ++ d.message)])
  | .notFound =>
    (.ok ⟨.toolUnavailable, tool.notFoundMessage, none⟩,
      [note .warning ("Cannot run " ++ tool.program.text
        ++ ": [Errno 2] No such file or directory: " ++ tool.program.quoted)])
  | .notPermitted =>
    (.ok ⟨.toolUnavailable, tool.notExecutableMessage, none⟩,
      [note .warning ("Cannot run " ++ tool.program.text ++ ": [Errno 13] Permission denied: "
        ++ tool.program.quoted)])
  | .timedOut =>
    (.ok ⟨.timeout, tool.program.text ++ " " ++ tool.subcommand ++ " timed out after "
      ++ timeoutText tool.timeout ++ "s", none⟩, [])
  | .failed reason => (.error (.command reason), [])

/-- The files after the scratch file is deleted; a command may have deleted it before. -/
def cleanUp (files : FileTree) (file : Path) : FileTree × List Note :=
  match files.remove file with
  | .ok files => (files, [])
  | .error e =>
    (files,
      [note .debug ("Could not remove temp file " ++ file.text ++ ": " ++ e.message file.text)])

/-- Checks points: stores them in a new file, runs the command on it and deletes the file. The file
is deleted however the command ends, but not where the points could not be stored. -/
def checkPoints (tool : Tool) (disk : Disk) (runner : Runner) (ps : Points) (space : Workspace) :
    Reply Workspace :=
  let file := tool.scratch.child (tool.scratchName space.count)
  match space.files.store file (disk space.count) ps with
  | (left, some f) => ⟨.error f, { space with files := left, count := space.count + 1 }, []⟩
  | (during, none) =>
    let command : Command := ⟨tool.program, tool.arguments file, tool.timeout, file, during⟩
    let reaction := runner space.commands command
    let left := if reaction.removesFile then (cleanUp during file).1 else during
    let (result, notes) := tool.judge file reaction.ending
    let (files, more) := cleanUp left file
    ⟨result, ⟨files, space.commands ++ [command], space.count + 1⟩, notes ++ more⟩

def checkOn (tool : Tool) (disk : Disk) (runner : Runner) : Checker Workspace :=
  fun text => tool.checkPoints disk runner (.ofText text)

/-- Checks a text on a disk with room for it. -/
def check (tool : Tool) (runner : Runner) : Checker Workspace := tool.checkOn .ample runner

end Tool

end DocSamples
