import DocSamples.CommandLine.Program

namespace DocSamples.CommandLine

/-- The files that the words of a command line name; a dash is no file. -/
def namedFiles (o : Options) : List Text :=
  let given := (o.snippet.toList ++ o.config.toList).filterMap Given.value?
  o.paths ++ given.filter (· ≠ ['-'])

/-- The tree with the file of a name in it, if there is one that can be read. -/
def withFile (tree : FileTree) (name : Text) : IO FileTree := do
  let .ok content ← (IO.FS.readBinFile (String.ofList name)).toBaseIO | return tree
  let path := Path.ofText name
  let (tree, place) := path.parts.foldl
    (fun (tree, place) part => (tree.install place .directory, Place.next place part))
    (tree, tree.start path)
  return tree.install place (.file content.toList)

/-- The files that a command line is about: those it names, and the settings of the project. -/
def filesFor (project : Path) (o : Options) : IO FileTree := do
  let start : FileTree := { entries := [], current := project.parts }
  let start := start.install project.parts .directory
  (namedFiles o ++ [(Settings.defaultFile project).text]).foldlM withFile start

/-- The standard input, where it is the sample. -/
def inputFor (o : Options) : IO Bytes := do
  if o.snippet = some (.value ['-']) then return (← (← IO.getStdin).readBinToEnd).toList
  return []

end DocSamples.CommandLine

open DocSamples CommandLine in
/-- Runs the program in the current directory. It sees the files that are named, looks into no
directory and starts no command. -/
def main (arguments : List String) : IO UInt32 := do
  let words := arguments.map String.toList
  let options := (Options.ofWords words).toOption.getD {}
  let project := Path.ofText (toString (← IO.currentDir)).toList
  let scratch := Path.ofText "/tmp"
  let files := (← filesFor project options).install scratch.parts .directory
  let time ← IO.monoNanosNow
  let token ← IO.rand 0 0xffffffff
  let response := run
    { files, project, scratch
      environment := (← IO.getEnv "SCAF_BIN").map String.toList
      input := ← inputFor options
      scratchName := fun n => Tool.scratchFileName (Text.ofNat (time + n)) (Text.hex 16 token)
      runner := fun _ _ => ⟨.notFound, false⟩ } words
  IO.print (String.ofList response.output)
  IO.eprint (String.ofList response.errors)
  return response.exit.code.toUInt32
