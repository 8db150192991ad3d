import DocSamples.Number.Double
import DocSamples.Path
import DocSamples.Text.Blank

namespace DocSamples

/-- What one pass over the documents goes by. -/
structure Settings where
  language : Text
  tool : Text
  subcommand : Text
  timeout : Double
  skipToken : Text
  docsDir : Path
  suffixes : List Text
  deriving DecidableEq, Repr

namespace Settings

def defaultDocsDir (project : Path) : Path := project.join (.ofText "src/content/docs")

def defaultFile (project : Path) : Path := project.join (.ofText "configs/scaf_docs.yaml")

/-- The settings of a project that tells none. -/
def default (project : Path) : Settings where
  language := "scaf"
  tool := "scaf"
  subcommand := "fmt"
  timeout := .ofInt 5
  skipToken := "skip"
  docsDir := defaultDocsDir project
  suffixes := [".md", ".mdx"]

/-- The tool that the environment names, if it names one. -/
def withEnvironment (value : Option Text) (s : Settings) : Settings :=
  let tool := Text.trim (value.getD [])
  if tool.isEmpty then s else { s with tool }

end Settings

/-- Settings that replace others where they are given. -/
structure Overrides where
  language : Option Text := none
  tool : Option Text := none
  subcommand : Option Text := none
  timeout : Option Double := none
  skipToken : Option Text := none
  docsDir : Option Path := none
  suffixes : Option (List Text) := none
  deriving DecidableEq, Repr

namespace Overrides

def isEmpty (o : Overrides) : Bool := o == {}

def apply (o : Overrides) (s : Settings) : Settings where
  language := o.language.getD s.language
  tool := o.tool.getD s.tool
  subcommand := o.subcommand.getD s.subcommand
  timeout := o.timeout.getD s.timeout
  skipToken := o.skipToken.getD s.skipToken
  docsDir := o.docsDir.getD s.docsDir
  suffixes := o.suffixes.getD s.suffixes

/-- Whether the replacements leave every setting equal to what it was. A timeout that is replaced is
compared as a number, so that one that is no number differs from any other. -/
def changesNothing (o : Overrides) (s : Settings) : Bool :=
  { o.apply s with timeout := s.timeout } == s && o.timeout.all (·.sameNumber s.timeout)

end Overrides

end DocSamples
