import DocSamples.Text.Blank
import DocSamples.Text.Lowercase
import DocSamples.Text.Quoted

namespace DocSamples

/-- A code point as an escape can name it: a character, or a surrogate, which by itself is none. -/
inductive Point
  | char (c : Char)
  | surrogate (code : Nat)
  deriving DecidableEq, Repr

/-- A text that may hold surrogates. -/
abbrev Points := List Point

namespace Point

def ofCode (n : Nat) : Point :=
  if 0xD800 ≤ n && n ≤ 0xDFFF then surrogate n else char (Char.ofNat n)

def char? : Point → Option Char
  | char c => some c
  | surrogate _ => none

def isBlank : Point → Bool
  | char c => DocSamples.isBlank c
  | surrogate _ => false

end Point

namespace Points

def ofText (t : Text) : Points := t.map Point.char

/-- The text, if there are no surrogates in it. -/
def text? (ps : Points) : Option Text := ps.mapM Point.char?

theorem text?_char_cons (c : Char) (ps : Points) :
    text? (.char c :: ps) = (text? ps).map (c :: ·) := by
  unfold text?
  rw [List.mapM_cons]
  cases ps.mapM Point.char? <;> rfl

theorem text?_ofText (t : Text) : text? (ofText t) = some t := by
  induction t with
  | nil => rfl
  | cons c t ih => exact (text?_char_cons c (ofText t)).trans (congrArg _ ih)

theorem text?_eq_some_iff {ps : Points} {t : Text} : text? ps = some t ↔ ps = ofText t := by
  constructor
  · intro h
    induction ps generalizing t with
    | nil =>
      cases h
      rfl
    | cons p ps ih =>
      cases p with
      | surrogate n => contradiction
      | char c =>
        rw [text?_char_cons] at h
        obtain ⟨u, hu, rfl⟩ := Option.map_eq_some_iff.1 h
        rw [ih hu]
        rfl
  · rintro rfl
    exact text?_ofText t

theorem ofText_injective {t u : Text} (h : ofText t = ofText u) : t = u :=
  Option.some.inj ((text?_ofText t).symm.trans (text?_eq_some_iff.2 h))

def trim (ps : Points) : Points :=
  ((ps.dropWhile Point.isBlank).reverse.dropWhile Point.isBlank).reverse

def split (c : Char) (ps : Points) : List Points :=
  ps.foldr
    (fun p pieces =>
      if p = .char c then [] :: pieces
      else match pieces with
        | [] => [[p]]
        | w :: ws => (p :: w) :: ws)
    [[]]

/-- The points in small letters, after the characters `run` since the last surrogate. A surrogate
separates words. -/
def lowerAfter (run : Text) : Points → Points
  | [] => ofText run.lower
  | .char c :: ps => lowerAfter (run ++ [c]) ps
  | .surrogate n :: ps => ofText run.lower ++ .surrogate n :: lowerAfter [] ps

def lower (ps : Points) : Points := lowerAfter [] ps

/-- A surrogate is shown by its code. -/
def quotePoint (mark : Char) : Point → Text
  | .char c => Text.quoteChar mark c
  | .surrogate n => '\\' :: 'u' :: Text.hex 4 n

def quoted (ps : Points) : Text :=
  let mark := Text.quoteMark (ps.filterMap Point.char?)
  mark :: ps.flatMap (quotePoint mark) ++ [mark]

/-- The points as a number is read from them: a surrogate is no part of any. -/
def readable (ps : Points) : Text := ps.map fun p => (p.char?).getD '?'

/-- What stands for the surrogates where only a text will do. No file has a null character in its
name and no line has a line feed in it, so that the text equals nothing that a document holds. -/
def standIn : Text := ['\x00', '\n', '\x00']

def toText (ps : Points) : Text := ps.flatMap fun p => (p.char?).elim standIn ([·])

end Points

end DocSamples
