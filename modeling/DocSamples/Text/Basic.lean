namespace DocSamples

/-- Text is a list of characters, so that scanning it is recursion on a list. -/
abbrev Text := List Char

instance : Coe String Text := ⟨String.toList⟩

namespace Text

def ofNat (n : Nat) : Text := Nat.toDigits 10 n

def ofInt : Int → Text
  | .ofNat n => ofNat n
  | .negSucc n => '-' :: ofNat (n + 1)

/-- What follows `w` in a text that begins with it. -/
def rest? : (t w : Text) → Option Text
  | t, [] => some t
  | [], _ :: _ => none
  | c :: t, a :: w => if a = c then rest? t w else none

theorem rest?_eq_some_iff {t w r : Text} : rest? t w = some r ↔ t = w ++ r := by
  induction w generalizing t with
  | nil => simp [rest?]
  | cons a w ih =>
    cases t with
    | nil => simp [rest?]
    | cons c t =>
      by_cases h : a = c
      · simp [rest?, h, ih]
      · simp [rest?, h, Ne.symm h]

def startsWith (t w : Text) : Bool := (rest? t w).isSome

theorem startsWith_iff {t w : Text} : startsWith t w = true ↔ ∃ r, t = w ++ r := by
  rw [startsWith, Option.isSome_iff_exists]
  exact exists_congr fun r => rest?_eq_some_iff

/-- The suffixes of a text that stand right after a character of the class `p`. -/
def suffixesAfter (p : Char → Bool) : Text → List Text
  | [] => []
  | c :: t => if p c then t :: suffixesAfter p t else suffixesAfter p t

/-- The suffixes that stand at the start of a text or right after a character of the class `p`. -/
def startsAfter (p : Char → Bool) (t : Text) : List Text := t :: suffixesAfter p t

theorem mem_suffixesAfter {p : Char → Bool} {t r : Text} :
    r ∈ suffixesAfter p t ↔ ∃ u c, p c = true ∧ t = u ++ c :: r := by
  induction t with
  | nil => simp [suffixesAfter]
  | cons d t ih =>
    have step : r ∈ suffixesAfter p (d :: t) ↔ (p d = true ∧ r = t) ∨ r ∈ suffixesAfter p t := by
      by_cases h : p d = true <;> simp [suffixesAfter, h]
    rw [step, ih]
    constructor
    · rintro (⟨h, rfl⟩ | ⟨u, c, h, rfl⟩)
      · exact ⟨[], d, h, rfl⟩
      · exact ⟨d :: u, c, h, rfl⟩
    · rintro ⟨u, c, h, e⟩
      cases u with
      | nil => cases e; exact .inl ⟨h, rfl⟩
      | cons a u => cases e; exact .inr ⟨u, c, h, rfl⟩

theorem mem_startsAfter {p : Char → Bool} {t r : Text} :
    r ∈ startsAfter p t ↔ ∃ u, t = u ++ r ∧ (u = [] ∨ ∃ c, u.getLast? = some c ∧ p c = true) := by
  rw [startsAfter, List.mem_cons, mem_suffixesAfter]
  constructor
  · rintro (rfl | ⟨u, c, hc, rfl⟩)
    · exact ⟨[], rfl, .inl rfl⟩
    · exact ⟨u ++ [c], by simp, .inr ⟨c, by simp, hc⟩⟩
  · rintro ⟨u, rfl, rfl | ⟨c, hlast, hc⟩⟩
    · exact .inl rfl
    · obtain ⟨u, rfl⟩ := List.getLast?_eq_some_iff.1 hlast
      exact .inr ⟨u, c, hc, by simp⟩

/-- The pieces of a text between the characters of the class `p`. -/
def splitWhere (p : Char → Bool) (t : Text) : List Text :=
  t.foldr
    (fun c pieces =>
      if p c then [] :: pieces
      else match pieces with
        | [] => [[c]]
        | w :: ws => (c :: w) :: ws)
    [[]]

/-- Pieces written one after another with a separator between them. -/
def join (sep : Text) : List Text → Text
  | [] => []
  | [w] => w
  | w :: ws => w ++ sep ++ join sep ws

def le : (a b : Text) → Bool
  | [], _ => true
  | _ :: _, [] => false
  | x :: a, y :: b => if x = y then le a b else x.toNat < y.toNat

end Text

end DocSamples
