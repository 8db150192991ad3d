namespace DocSamples

/-- A class of characters, as the inclusive ranges of its code points in rising order. -/
abbrev Ranges := List (Nat × Nat)

def Ranges.holds (rs : Ranges) (n : Nat) : Bool := rs.any fun r => r.1 ≤ n && n ≤ r.2

end DocSamples
