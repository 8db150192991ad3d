import DocSamples.Text.Basic
import DocSamples.Text.Ranges

namespace DocSamples

/-- White space of Unicode, and the four information separators U+001C to U+001F. -/
def blankRanges : Ranges :=
  [(0x9, 0xD), (0x1C, 0x20), (0x85, 0x85), (0xA0, 0xA0), (0x1680, 0x1680), (0x2000, 0x200A),
   (0x2028, 0x2029), (0x202F, 0x202F), (0x205F, 0x205F), (0x3000, 0x3000)]

/-- A blank separates words and is trimmed from the ends of a text. -/
def isBlank (c : Char) : Bool := blankRanges.holds c.toNat

namespace Text

def trimLeft (t : Text) : Text := t.dropWhile isBlank

def trimRight (t : Text) : Text := (t.reverse.dropWhile isBlank).reverse

def trim (t : Text) : Text := trimRight (trimLeft t)

/-- The words of a text are its longest runs without a blank. -/
def words (t : Text) : List Text := (splitWhere isBlank t).filter (!·.isEmpty)

/-- The first word of a text, empty when there is none. -/
def firstWord (t : Text) : Text := (trimLeft t).takeWhile (!isBlank ·)

def afterFirstWord (t : Text) : Text := trim ((trimLeft t).dropWhile (!isBlank ·))

end Text

end DocSamples
