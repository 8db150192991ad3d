import DocSamples.Text.Digit

namespace DocSamples

/-- A whole number with more digits than are written. -/
structure LongNumber where
  number : Int
  deriving DecidableEq, Repr

/-- The message tells the limit, but not how far it is exceeded. -/
def LongNumber.message (_ : LongNumber) : Text :=
  "Exceeds the limit (" ++ Text.ofNat digitLimit
    ++ " digits) for integer string conversion; use sys.set_int_max_str_digits()"
    ++ " to increase the limit"

/-- Whether a number has few enough digits to be written; its sign does not count. -/
def isWritable (i : Int) : Bool := i.natAbs < Nat.pow 10 digitLimit

def writeInt (i : Int) : Except LongNumber Text :=
  if isWritable i then .ok (Text.ofInt i) else .error ⟨i⟩

theorem writeInt_eq_ok_iff {i : Int} {t : Text} :
    writeInt i = .ok t ↔ isWritable i = true ∧ Text.ofInt i = t := by
  by_cases h : isWritable i = true <;> simp [writeInt, h]

end DocSamples
