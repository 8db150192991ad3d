import DocSamples.Number.Reading
import DocSamples.Text.Utf8

namespace DocSamples.Yaml

inductive SyntaxFault
  | unprintable
  | textEnd
  | strayCharacter
  | indentation
  | lostKey
  | directive
  | anchor
  | tag
  | quotation
  | blockScalar
  | content
  | collectionEnd
  | documentCount
  | unknownAlias
  | unknownTag
  | kind
  | base64
  | merge
  | collectionKey
  deriving DecidableEq, Repr

inductive DateFault
  | year (n : Nat)
  | month
  | day
  | hour
  | minute
  | second
  | offset (minutes : Int)
  deriving DecidableEq, Repr

inductive Problem
  | malformed (f : SyntaxFault)
  | undecodable (d : Utf8.Defect)
  /-- An escape names a code point beyond U+10FFFF. -/
  | codePoint
  /-- An escape names a code point that takes more than 31 bits. -/
  | codePointSize
  /-- Collections are nested too deep, or without end. -/
  | tooDeep
  | numeral (e : NumeralError)
  | notFloat (t : Points)
  | emptyNumber
  /-- A group of a number counts more than the greatest finite number. -/
  | tooLarge
  | notBool (t : Points)
  | notTimestamp
  /-- A timestamp is read from a mapping. -/
  | timestampMapping
  | date (f : DateFault)
  deriving DecidableEq, Repr

/-- A span of time in days and seconds, of which only the days may be negative. -/
def spanText (minutes : Int) : Text :=
  let days := minutes.fdiv 1440
  let seconds := minutes.fmod 1440 * 60
  let parts :=
    (if days = 0 then [] else ["days=" ++ Text.ofInt days])
      ++ (if seconds = 0 then [] else ["seconds=" ++ Text.ofInt seconds])
  "datetime.timedelta(" ++ (if parts.isEmpty then ['0'] else Text.join ", " parts) ++ ")"

def DateFault.message : DateFault → Text
  | year n => "year " ++ Text.ofNat n ++ " is out of range"
  | month => "month must be in 1..12"
  | day => "day is out of range for month"
  | hour => "hour must be in 0..23"
  | minute => "minute must be in 0..59"
  | second => "second must be in 0..59"
  | offset m =>
    "offset must be a timedelta strictly between -timedelta(hours=24) and timedelta(hours=24), not "
      ++ spanText m ++ "."

end DocSamples.Yaml
