import DocSamples.Path
import DocSamples.Text.Lines
import DocSamples.Text.Quoted
import DocSamples.Text.Utf8

namespace DocSamples

inductive Node
  | directory
  | file (content : Bytes)
  deriving DecidableEq, Repr

/-- The names that lead from the root to a place. -/
abbrev Place := List Text

/-- Where a part of a path leads from a place: two dots lead to the directory above. -/
def Place.next (place : Place) (part : Text) : Place :=
  if part = ['.', '.'] then place.dropLast else place ++ [part]

/-- Everything that is stored, and the directory where paths without a root start. -/
structure FileTree where
  entries : List (Place × Node)
  current : Place
  deriving DecidableEq, Repr

inductive FileError
  | missing
  | notDirectory
  | isDirectory
  | nameTooLong
  | nulCharacter
  deriving DecidableEq, Repr

namespace FileError

def message (path : Text) : FileError → Text
  | missing => "[Errno 2] No such file or directory: " ++ path.quoted
  | notDirectory => "[Errno 20] Not a directory: " ++ path.quoted
  | isDirectory => "[Errno 21] Is a directory: " ++ path.quoted
  | nameTooLong => "[Errno 36] File name too long: " ++ path.quoted
  | nulCharacter => "embedded null byte"

end FileError

namespace FileTree

/-- The longest name, and the longest path with the byte that ends it, both in bytes. -/
def nameLimit : Nat := 255
def pathLimit : Nat := 4096

def node? (tree : FileTree) (place : Place) : Option Node :=
  if place.isEmpty then some .directory else tree.entries.lookup place

/-- Where a path starts: at the root, or in the current directory. -/
def start (tree : FileTree) (path : Path) : Place := if path.isAbsolute then [] else tree.current

def step (tree : FileTree) (place : Place) (part : Text) : Except FileError Place :=
  match tree.node? place with
  | none => .error .missing
  | some (.file _) => .error .notDirectory
  | some .directory =>
    if nameLimit < (Utf8.encode part).length then .error .nameTooLong
    else .ok (Place.next place part)

/-- The place that a path leads to; its last part need not exist. -/
def place? (tree : FileTree) (path : Path) : Except FileError Place :=
  if path.text.contains '\x00' then .error .nulCharacter
  else if pathLimit ≤ (Utf8.encode path.text).length then .error .nameTooLong
  else path.parts.foldlM tree.step (tree.start path)

def find (tree : FileTree) (path : Path) : Except FileError (Place × Node) := do
  let place ← tree.place? path
  match tree.node? place with
  | some node => return (place, node)
  | none => throw .missing

/-- What a path leads to, if anything; only a name that is too long is an error. -/
def look (tree : FileTree) (path : Path) : Except FileError (Option (Place × Node)) :=
  match tree.find path with
  | .ok found => .ok (some found)
  | .error .nameTooLong => .error .nameTooLong
  | .error _ => .ok none

def read (tree : FileTree) (path : Path) : Except FileError Bytes :=
  match tree.find path with
  | .ok (_, .file content) => .ok content
  | .ok (_, .directory) => .error .isDirectory
  | .error e => .error e

def put (tree : FileTree) (place : Place) (node : Node) : FileTree :=
  { tree with entries := (place, node) :: tree.entries.filter (·.1 != place) }

/-- The tree with a node put at a place and a directory at each place above it where nothing stands.
A directory takes the place of nothing. -/
def install (tree : FileTree) (place : Place) (node : Node) : FileTree :=
  let above := ((List.range place.length).map place.take).filter (!·.isEmpty)
  let tree := above.foldl (fun t p => if (t.node? p).isSome then t else t.put p .directory) tree
  if node = .directory && (tree.node? place).isSome then tree else tree.put place node

/-- The tree with a file that holds some bytes where a path leads, in a directory that exists. -/
def write (tree : FileTree) (path : Path) (content : Bytes) : Except FileError FileTree := do
  let place ← tree.place? path
  match tree.node? place with
  | some .directory => throw .isDirectory
  | _ => return tree.put place (.file content)

def remove (tree : FileTree) (path : Path) : Except FileError FileTree := do
  match ← tree.find path with
  | (_, .directory) => throw .isDirectory
  | (place, .file _) => return { tree with entries := tree.entries.filter (·.1 != place) }

/-- The names that lead from a place to all that stands there or below. -/
def below (tree : FileTree) (place : Place) : List Place :=
  (tree.entries.filter fun e => place.isPrefixOf e.1).map fun e => e.1.drop place.length

end FileTree

end DocSamples
