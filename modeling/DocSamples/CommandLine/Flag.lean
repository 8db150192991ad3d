import DocSamples.Text.Basic

namespace DocSamples.CommandLine

/-- What can be asked for on the command line besides paths. -/
inductive Flag
  | help
  | snippet
  | strategy
  | config
  | tool
  | timeout
  | json
  | verbose
  deriving DecidableEq, Repr

namespace Flag

/-- The flags in the order in which help lists them. -/
def all : List Flag := [help, snippet, strategy, config, tool, timeout, json, verbose]

def names : Flag → List Text
  | help => ["-h", "--help"]
  | snippet => ["--snippet"]
  | strategy => ["--strategy"]
  | config => ["--config"]
  | tool => ["--tool"]
  | timeout => ["--timeout"]
  | json => ["--json"]
  | verbose => ["-v", "--verbose"]

def takesValue : Flag → Bool
  | help | json | verbose => false
  | snippet | strategy | config | tool | timeout => true

/-- How a message calls a flag. -/
def label (f : Flag) : Text := Text.join ['/'] f.names

def byName : List (Text × Flag) := all.flatMap fun f => f.names.map (·, f)

def named? (name : Text) : Option Flag := byName.lookup name

end Flag

end DocSamples.CommandLine
