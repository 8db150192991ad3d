import DocSamples.Text.Basic

namespace DocSamples

inductive Level
  | debug
  | info
  | warning
  deriving DecidableEq, Repr

inductive Author
  | checker
  | validator
  | walker
  | program
  deriving DecidableEq, Repr

/-- A line of the log. -/
structure Note where
  level : Level
  author : Author
  text : Text
  deriving DecidableEq, Repr

namespace Note

def levelName : Level → Text
  | .debug => "DEBUG"
  | .info => "INFO"
  | .warning => "WARNING"

def authorName : Author → Text
  | .checker => "scaf_checker"
  | .validator => "snippet_validator"
  | .walker => "doc_walker"
  | .program => "scaf_docs"

def line (n : Note) : Text := levelName n.level ++ " " ++ authorName n.author ++ ": " ++ n.text

/-- Warnings are always shown, other notes only on demand. -/
def isShown (verbose : Bool) (n : Note) : Bool := verbose || n.level == .warning

end Note

end DocSamples
