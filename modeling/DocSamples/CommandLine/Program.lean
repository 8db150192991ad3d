import DocSamples.CommandLine.Usage
import DocSamples.Settings.Loading
import DocSamples.Summary
import DocSamples.Tool

namespace DocSamples

def Tool.ofSettings (s : Settings) (scratch : Path) (scratchName : Nat → Text) : Tool :=
  ⟨.named s.tool, s.subcommand, some s.timeout, scratch, scratchName⟩

namespace CommandLine

/-- What the program runs on: files, the project's directory, the tool that the environment names,
the standard input, the directory and names of scratch files, and how commands behave. -/
structure Host where
  files : FileTree
  project : Path
  environment : Option Text
  input : Bytes
  scratch : Path
  scratchName : Nat → Text
  runner : Runner

/-- How the program ends: with an exit status, or early. -/
inductive Exit
  | status (n : Nat)
  | unloadable (e : LoadError)
  | fault (f : Fault)
  | unknownStrategy (e : UnknownStrategy)
  | unwritable (e : LongNumber)
  /-- Nothing was given where something is needed. -/
  | nothingGiven
  deriving DecidableEq, Repr

def Exit.code : Exit → Nat
  | status n => n
  | unloadable _ | fault _ | unknownStrategy _ | unwritable _ | nothingGiven => 1

/-- What the program leaves: its end, what it wrote, and the commands and files of its tool. -/
structure Response where
  exit : Exit
  output : Text := []
  errors : Text := []
  workspace : Workspace

/-- Each line ends with a line feed. -/
def unlines (ls : List Text) : Text := ls.flatMap (· ++ ['\n'])

def logLines (verbose : Bool) (notes : List Note) : List Text :=
  (notes.filter (Note.isShown verbose)).map Note.line

/-- What a run in which nothing failed early has to write, and how the program ends. -/
structure Conclusion where
  exit : Exit
  output : List Text := []
  errors : List Text := []

/-- Ends with a status after one line of output, or early if that line cannot be written. -/
def Conclusion.ofLine (status : Nat) : Except LongNumber Text → Conclusion
  | .ok line => { exit := .status status, output := [line] }
  | .error e => { exit := .unwritable e }

/-- Runs a computation with the checker of a tool and writes its log, then its conclusion. -/
def conclude {α : Type} (host : Host) (verbose : Bool) (run : Run Workspace α)
    (conclusion : α → Conclusion) : Response :=
  let (result, s) := Run.perform { files := host.files } run
  let log := logLines verbose s.journal
  match result with
  | .error f => { exit := .fault f, errors := unlines log, workspace := s.memory }
  | .ok a =>
    let c := conclusion a
    { exit := c.exit
      output := unlines c.output
      errors := unlines (log ++ c.errors)
      workspace := s.memory }

def respond (host : Host) (exit : Exit) (output errors : Text) : Response :=
  { exit, output, errors, workspace := { files := host.files } }

inductive Source
  | text (t : Text)
  | missing
  | fault (f : Fault)

/-- The sample in a file; a dash stands for the standard input. -/
def readSource (host : Host) (source : Text) : Source :=
  if source = ['-'] then
    match Utf8.decode host.input with
    | .ok t => .text t.unifyBreaks
    | .error d => .fault (.undecodable d)
  else
    match host.files.look (.ofText source) with
    | .error e => .fault (.file e)
    | .ok none => .missing
    | .ok (some _) =>
      match Document.readText host.files (.ofText source) with
      | .ok t => .text t
      | .error f => .fault f

/-- A sample that was rejected at a line, the first one if none is named. -/
def rejection (source : Text) (line : Option Int) (message : Text) : Except LongNumber Text := do
  return source ++ ":" ++ (← writeInt (line.getD 1)) ++ ":1: scaf syntax error: " ++ message

def concludeVerdict (source : Text) (json : Bool) (v : Verdict) : Conclusion :=
  let said :=
    if json then v.toJson.render
    else if v.isFailure then rejection source v.line v.message
    else
      let strategy : Text := if v.strategyName.isEmpty then "no check" else v.strategyName
      .ok (source ++ ": " ++ v.status ++ " (" ++ v.shape.name ++ ", " ++ strategy ++ ")")
  .ofLine (if v.isFailure then 1 else 0) said

def concludeOutcome (source : Text) (s : Strategy) (json : Bool) (o : Outcome) : Conclusion :=
  let said :=
    if json then (o.toJson s).render
    else if o.isSuccess then .ok (source ++ ": succeeded (" ++ s.name ++ ")")
    else rejection source o.line (o.message ++ " (" ++ s.name ++ ")")
  .ofLine (if o.isSuccess then 0 else 1) said

/-- The name under which a strategy is looked up that was left out. -/
def noStrategy : UnknownStrategy := ⟨"[]"⟩

/-- Checks a single sample, with one strategy if one is given. -/
def runSnippet (host : Host) (check : Checker Workspace) (o : Options) (source : Text) : Response :=
  match readSource host source with
  | .missing =>
    respond host (.status 2) [] (unlines ["Error: snippet file not found: " ++ source])
  | .fault f => respond host (.fault f) [] []
  | .text t =>
    match o.strategy with
    | some (.value s) =>
      conclude host o.verbose (s.attempt check t) (concludeOutcome source s o.json)
    | some .nothing => respond host (.unknownStrategy noStrategy) [] []
    | none => conclude host o.verbose (validate check t) (concludeVerdict source o.json)

def reportLine (verbose : Bool) (r : Report) : Except LongNumber (List Text) :=
  match r.failure with
  | some f => f.text.map ([·])
  | none =>
    .ok (logLines verbose [⟨.info, .program,
      Path.label r.path ++ ": " ++ Text.ofNat r.checked ++ " checked, " ++ Text.ofNat r.skipped
        ++ " skipped"⟩])

/-- The lines about documents, up to the first that cannot be written, and why it cannot. -/
def reportLines (verbose : Bool) : List Report → List Text × Option LongNumber
  | [] => ([], none)
  | r :: rs =>
    match reportLine verbose r with
    | .error e => ([], some e)
    | .ok lines =>
      let (more, e) := reportLines verbose rs
      (lines ++ more, e)

def concludeReports (json verbose : Bool) (rs : List Report) : Conclusion :=
  let status := if (Report.failures rs).isEmpty then 0 else 1
  if json then .ofLine status (Report.allToJson rs).render
  else
    match reportLines verbose rs with
    | (errors, some e) => { exit := .unwritable e, errors }
    | (errors, none) => { exit := .status status, output := [Report.summary rs], errors }

/-- Validates the documents that the paths stand for, or those of the settings. -/
def runDocuments (host : Host) (check : Checker Workspace) (settings : Settings) (o : Options) :
    Response :=
  let roots := if o.paths.isEmpty then [settings.docsDir] else o.paths.map Path.ofText
  let named := if o.paths.isEmpty then [settings.docsDir.text] else o.paths
  match host.files.documents settings.suffixes roots with
  | .error e => respond host (.fault (.file e)) [] []
  | .ok [] =>
    respond host (.status 0)
      (unlines ["No documentation files found under: " ++ Text.join ", " named]) []
  | .ok files =>
    conclude host o.verbose (Document.reportAll check settings host.files files)
      (concludeReports o.json o.verbose)

/-- The tool of a run: the command line may name another program, or none. -/
def toolFor (host : Host) (settings : Settings) (o : Options) : Tool :=
  let tool := Tool.ofSettings settings host.scratch host.scratchName
  if o.tool = some .nothing then { tool with program := .unnamed } else tool

def runOptions (disk : Disk) (host : Host) (o : Options) : Response :=
  let config := o.config.bind Given.value?
  match Settings.load host.files host.project host.environment config with
  | .error e =>
    if e.isReported then respond host (.status 2) [] (unlines ["Error: " ++ e.message])
    else respond host (.unloadable e) [] []
  | .ok loaded =>
    let overrides : Overrides := { tool := o.tool.bind Given.value?, timeout := o.timeout }
    let settings := overrides.apply loaded
    let check := (toolFor host settings o).checkOn disk host.runner
    match o.snippet with
    | some (.value source) => runSnippet host check o source
    | some .nothing => respond host .nothingGiven [] []
    | none => runDocuments host check settings o

/-- The program, with its scratch files on a disk. -/
def runOn (disk : Disk) (host : Host) (words : List Text) : Response :=
  match Options.ofWords words with
  | .error .help => respond host (.status 0) help []
  | .error (.refused e) => respond host (.status 2) [] e.report
  | .error .noTimeout => respond host .nothingGiven [] []
  | .ok o => runOptions disk host o

/-- The program on a disk with room for every scratch file. -/
def run (host : Host) (words : List Text) : Response := runOn .ample host words

end CommandLine

end DocSamples
