import DocSamples.FileTree
import DocSamples.Settings
import DocSamples.Yaml.Building

namespace DocSamples

inductive LoadError
  /-- The file that was asked for does not exist. -/
  | notFound (path : Path)
  | file (path : Path) (e : FileError)
  | yaml (p : Yaml.Problem)
  | notMapping (path : Path)
  | sectionNotMapping (path : Path)
  | blankText (key : Text)
  | timeoutNotNumber (shown : Text)
  | timeoutNotPositive (timeout : Double)
  | timeoutTooLarge
  | suffixesNotTexts
  | unshowable (e : Yaml.Unshowable)
  deriving DecidableEq, Repr

namespace LoadError

def message : LoadError → Text
  | notFound path => "Docs config not found: " ++ path.text
  | file path e => e.message path.text
  | yaml p =>
    match p with
    | .malformed _ | .codePointSize | .tooDeep | .emptyNumber | .notTimestamp
    | .timestampMapping => []
    | .undecodable d => d.message
    | .tooLarge => "int too large to convert to float"
    | .codePoint => "chr() arg not in range(0x110000)"
    | .numeral e => e.message
    | .notFloat t => "could not convert string to float: " ++ t.quoted
    | .notBool t => t.toText
    | .date f => f.message
  | notMapping path => "Invalid docs config: expected a mapping in " ++ path.text
  | sectionNotMapping path =>
    "Invalid docs config: 'validate' must be a mapping in " ++ path.text
  | blankText key => "Invalid docs config: '" ++ key ++ "' must be a non-empty string"
  | timeoutNotNumber shown => "Invalid docs config: 'timeout_s' must be a number, got " ++ shown
  | timeoutNotPositive timeout =>
    "Invalid docs config: 'timeout_s' must be positive, got " ++ timeout.text
  | timeoutTooLarge => "int too large to convert to float"
  | suffixesNotTexts => "Invalid docs config: 'suffixes' must be a list of strings"
  | unshowable e => e.message

/-- Whether the error lies in what the file says, or in its absence. Such errors are reported, all
others end the program. -/
def isReported : LoadError → Bool
  | file _ _ => false
  | timeoutTooLarge => false
  | yaml p =>
    match p with
    | .malformed _ | .codePointSize | .tooDeep | .emptyNumber | .tooLarge | .notBool _
    | .notTimestamp | .timestampMapping => false
    | .undecodable _ | .codePoint | .numeral _ | .notFloat _ | .date _ => true
  | unshowable .tooDeep => false
  | _ => true

end LoadError

namespace Settings

open Yaml (Value)

abbrev Entries := List (Value × Value)

/-- A setting that is a text and not blank, trimmed. -/
def textEntry (entries : Entries) (key : Text) : Except LoadError (Option Text) :=
  match Value.lookup? entries key with
  | none => .ok none
  | some (.text t) =>
    if t.trim.isEmpty then .error (.blankText key) else .ok (some t.trim.toText)
  | some _ => .error (.blankText key)

/-- The number that a value is or is written as. -/
def number? : Value → Option Double
  | .bool b => some (.ofInt (if b then 1 else 0))
  | .int i => some (.ofInt i)
  | .float x => some x
  | .notNumber _ => some .nan
  | .text t => Double.read? t.readable
  | .bytes bs => Double.read? bs.readable
  | .null | .date _ | .moment _ _ | .collection _ => none

def number (data : Yaml.Data) (v : Value) : Except LoadError Double :=
  match v, number? v with
  | .int _, some (.infinite _) => .error .timeoutTooLarge
  | _, some x => .ok x
  | _, none =>
    match data.show? v with
    | .ok shown => .error (.timeoutNotNumber shown)
    | .error e => .error (.unshowable e)

/-- The timeout: a number that is not zero or less. -/
def timeoutEntry (data : Yaml.Data) (entries : Entries) : Except LoadError (Option Double) :=
  match Value.lookup? entries "timeout_s" with
  | none => .ok none
  | some v => do
    let x ← number data v
    if x.isNonPositive then throw (.timeoutNotPositive x)
    return some x

/-- The directory of the documents; one without a root lies in the project. -/
def docsDirEntry (data : Yaml.Data) (project : Path) (entries : Entries) :
    Except LoadError (Option Path) :=
  match Value.lookup? entries "docs_dir" with
  | none => .ok none
  | some v =>
    match data.toText? v with
    | .ok t => .ok (some (project.join (.ofText t)))
    | .error e => .error (.unshowable e)

def dotted (t : Text) : Text := if t.startsWith ['.'] then t else '.' :: t

/-- The texts in a list, if it holds nothing else. -/
def texts? (vs : List Value) : Option (List Text) :=
  vs.mapM fun v => match v with
    | .text t => some t.toText
    | _ => none

/-- The texts that a value holds as a list; an empty list of pairs is as good as any. -/
def listedTexts? (data : Yaml.Data) : Value → Option (List Text)
  | .collection r =>
    match data.collection r with
    | .list vs => texts? vs
    | .pairs [] => some []
    | _ => none
  | _ => none

def suffixesEntry (data : Yaml.Data) (entries : Entries) :
    Except LoadError (Option (List Text)) :=
  match Value.lookup? entries "suffixes" with
  | none => .ok none
  | some v =>
    match listedTexts? data v with
    | some ts => .ok (some (ts.map dotted))
    | none => .error .suffixesNotTexts

def overridesOf (data : Yaml.Data) (project : Path) (entries : Entries) :
    Except LoadError Overrides := do
  let language ← textEntry entries "language"
  let tool ← textEntry entries "tool"
  let subcommand ← textEntry entries "subcommand"
  let skipToken ← textEntry entries "skip_token"
  let timeout ← timeoutEntry data entries
  let docsDir ← docsDirEntry data project entries
  let suffixes ← suffixesEntry data entries
  return { language, tool, subcommand, timeout, skipToken, docsDir, suffixes }

def entries? (data : Yaml.Data) : Value → Option Entries
  | .collection r =>
    match data.collection r with
    | .map entries => some entries
    | _ => none
  | _ => none

/-- The mapping with the settings: the entry `validate`, or the whole where there is none. -/
def entriesOf (data : Yaml.Data) (path : Path) : Except LoadError Entries :=
  if data.root = .null then .ok []
  else
    match entries? data data.root with
    | none => .error (.notMapping path)
    | some entries =>
      match Value.lookup? entries "validate" with
      | none => .ok entries
      | some v =>
        match entries? data v with
        | some inner => .ok inner
        | none => .error (.sectionNotMapping path)

/-- The settings that data stands for; what it does not tell is as by default. -/
def ofData (project path : Path) (data : Yaml.Data) : Except LoadError Settings := do
  let overrides ← overridesOf data project (← entriesOf data path)
  return overrides.apply (default project)

def readData (files : FileTree) (path : Path) : Except LoadError Yaml.Data := do
  let bytes ← (files.read path).mapError (LoadError.file path)
  (Yaml.Data.ofInput (.ofBytes bytes)).mapError LoadError.yaml

/-- Loads the settings of a project. A file that is asked for has to exist, that of the project need
not; the environment may name another tool. -/
def load (files : FileTree) (project : Path) (environment : Option Text) (file : Option Text) :
    Except LoadError Settings := do
  let asked := file.filter (!·.isEmpty)
  let path := match asked with
    | some t => Path.ofText t
    | none => defaultFile project
  match ← (files.look path).mapError (LoadError.file path) with
  | some _ =>
    let s ← ofData project path (← readData files path)
    return s.withEnvironment environment
  | none =>
    if asked.isSome then throw (.notFound path)
    return (default project).withEnvironment environment

def describe (project : Path) (s : Settings) : List Text :=
  ["Loaded config from " ++ (defaultFile project).text,
    "  language=" ++ s.language ++ " tool=" ++ s.tool ++ " " ++ s.subcommand,
    "  timeout_s=" ++ s.timeout.text ++ " skip_token=" ++ s.skipToken,
    "  docs_dir=" ++ s.docsDir.text ++ " suffixes=["
      ++ Text.join ", " (s.suffixes.map Text.quoted) ++ "]"]

end Settings

end DocSamples
