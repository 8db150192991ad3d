import DocSamples.Text.Blank
import DocSamples.Text.Lines

namespace DocSamples

/-- The two kinds of documents: in MDX there are no indented code blocks. -/
inductive Flavor
  | markdown
  | mdx
  deriving DecidableEq, Repr

/-- A block of code between fences. The language and the metadata stand on its first line. -/
structure Fence where
  text : Text
  language : Text
  metadata : Option Text
  startLine : Nat
  deriving DecidableEq, Repr

/-- The first line of a fence: its indentation, its marker and what follows the marker. -/
structure Opening where
  indent : Nat
  mark : Char
  size : Nat
  info : Text
  deriving DecidableEq, Repr

namespace Fence

def isIndent (c : Char) : Bool := c == ' ' || c == '\t'

def indents : Flavor → Char → Bool
  | .markdown, c => c == ' '
  | .mdx, c => isIndent c

def admits : Flavor → (indent : Nat) → Bool
  | .markdown, n => n ≤ 3
  | .mdx, _ => true

/-- Reads the first line of a fence: three or more markers of one kind, and no backtick after
backticks. -/
def opening? (flavor : Flavor) (line : Text) : Option Opening :=
  let indent := (line.takeWhile (indents flavor)).length
  match line.dropWhile (indents flavor) with
  | [] => none
  | mark :: r =>
    let size := (r.takeWhile (· == mark)).length + 1
    let info := r.dropWhile (· == mark)
    if admits flavor indent && (mark == '\x60' || mark == '~') && 3 ≤ size
        && !(mark == '\x60' && info.contains '\x60') then
      some ⟨indent, mark, size, info⟩
    else none

/-- Whether a line ends the fence: a marker at least as long as the opening one, and blanks. -/
def closes (flavor : Flavor) (o : Opening) (line : Text) : Bool :=
  let r := line.dropWhile isIndent
  admits flavor (line.takeWhile isIndent).length
    && o.size ≤ (r.takeWhile (· == o.mark)).length
    && (r.dropWhile (· == o.mark)).all isBlank

/-- A line without its leading spaces and tabs, of which at most `n` are dropped. -/
def dropIndent : (n : Nat) → Text → Text
  | n + 1, c :: t => if isIndent c then dropIndent n t else c :: t
  | _, t => t

/-- The fence that is opened on a line and has these lines for its body. -/
def ofBody (o : Opening) (startLine : Nat) (body : List Text) : Fence where
  text := Text.joinLines (body.map (dropIndent o.indent))
  language := Text.firstWord o.info
  metadata := some (Text.afterFirstWord o.info) |>.filter (!·.isEmpty)
  startLine := startLine

/-- The fences among lines of which the first has the number `n`. A fence without an end takes all
lines that are left. -/
def scanFrom (flavor : Flavor) (n : Nat) : List Text → List Fence
  | [] => []
  | line :: lines =>
    match opening? flavor line with
    | none => scanFrom flavor (n + 1) lines
    | some o =>
      let body := lines.takeWhile (!closes flavor o ·)
      ofBody o n body :: scanFrom flavor (n + body.length + 2) (lines.drop (body.length + 1))
termination_by lines => lines.length
decreasing_by
  · simp
  · simp only [List.length_drop, List.length_cons]; omega

def scan (flavor : Flavor) (document : Text) : List Fence :=
  scanFrom flavor 1 (Text.lines document)

/-- Whether a word of the metadata is the token. -/
def isSkipped (token : Text) (f : Fence) : Bool :=
  f.metadata.any fun m => (Text.words m).contains token

end Fence

end DocSamples
