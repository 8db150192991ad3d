import DocSamples.FileTree
import DocSamples.Text.Lowercase

namespace DocSamples

namespace Path

/-- Whether the suffix of a path is one of those, in small letters or capitals. -/
def hasSuffix (suffixes : List Text) (p : Path) : Bool :=
  (suffixes.map Text.lower).contains (Text.lower p.suffix)

def le (p q : Path) : Bool := p.text.le q.text

end Path

namespace FileTree

def isDocument (tree : FileTree) (suffixes : List Text) (path : Path) : Except FileError Bool := do
  match ← tree.look path with
  | some (_, .file _) => return path.hasSuffix suffixes
  | _ => return false

/-- The paths among which a path selects: itself, or those of all that is below a directory. -/
def candidates (tree : FileTree) (root : Path) : Except FileError (List Path) := do
  match ← tree.look root with
  | some (place, .directory) => return (tree.below place).map root.descend
  | _ => return [root]

def documentsAt (tree : FileTree) (suffixes : List Text) (root : Path) :
    Except FileError (List Path) := do
  (← tree.candidates root).filterM (tree.isDocument suffixes)

/-- The documents that some paths stand for, each once, in the order of their texts. -/
def documents (tree : FileTree) (suffixes : List Text) (roots : List Path) :
    Except FileError (List Path) := do
  let found ← roots.mapM (tree.documentsAt suffixes)
  return found.flatten.eraseDups.mergeSort Path.le

end FileTree

end DocSamples
