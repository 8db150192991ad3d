import DocSamples.Diagnostic
import DocSamples.Proofs.Splitting

namespace DocSamples

theorem isBlank_of_isDigit {c : Char} (h : isDigit c = true) : isBlank c = false := by
  have happart : ∀ z ∈ digitZeros, ∀ r ∈ blankRanges, r.2 < z ∨ z + 10 ≤ r.1 := by decide
  obtain ⟨z, hz⟩ := Option.isSome_iff_exists.1 (Option.isSome_map.symm.trans h)
  have hin := List.find?_some hz
  have hmem := List.mem_of_find?_eq_some hz
  simp only [Bool.and_eq_true, decide_eq_true_eq] at hin
  rw [isBlank, Ranges.holds, List.any_eq_false]
  intro r hr
  have hapart := happart z hmem r hr
  simp only [Bool.and_eq_true, decide_eq_true_eq]
  omega

/-- A function finds its value at the first character of a class behind which it has one. -/
theorem Text.findSome?_suffixesAfter_eq_some_iff {α : Type} {p : Char → Bool}
    {f : Text → Option α} {t : Text} {a : α} :
    (suffixesAfter p t).findSome? f = some a ↔
      ∃ u c r, t = u ++ c :: r ∧ p c = true ∧ f r = some a ∧
        ∀ u' c' r', t = u' ++ c' :: r' → p c' = true → u'.length < u.length → f r' = none := by
  induction t with
  | nil => simp [suffixesAfter]
  | cons d t ih =>
    by_cases hfound : p d = true ∧ ∃ b, f t = some b
    · obtain ⟨hd, b, hb⟩ := hfound
      have hstep : (suffixesAfter p (d :: t)).findSome? f = some b := by
        rw [suffixesAfter, if_pos hd, List.findSome?_cons, hb]
      rw [hstep, ← hb]
      constructor
      · intro ha
        exact ⟨[], d, t, rfl, hd, ha, by simp⟩
      · rintro ⟨u, c, r, ht, -, ha, hfirst⟩
        cases u with
        | nil =>
          cases ht
          exact ha
        | cons e u =>
          have hnone := hfirst [] d t rfl hd (Nat.zero_lt_succ _)
          rw [hb] at hnone
          contradiction
    · have hnone : p d = true → f t = none := by
        intro hd
        rw [Option.eq_none_iff_forall_ne_some]
        intro b hb
        exact hfound ⟨hd, b, hb⟩
      have hstep : (suffixesAfter p (d :: t)).findSome? f = (suffixesAfter p t).findSome? f := by
        rw [suffixesAfter]
        split
        · rename_i hd
          rw [List.findSome?_cons, hnone hd]
        · rfl
      rw [hstep, ih]
      constructor
      · rintro ⟨u, c, r, rfl, hc, ha, hfirst⟩
        refine ⟨d :: u, c, r, rfl, hc, ha, ?_⟩
        intro u' c' r' ht hc' hlt
        cases u' with
        | nil =>
          cases ht
          exact hnone hc'
        | cons e u' =>
          exact hfirst u' c' r' (List.cons.inj ht).2 hc' (Nat.lt_of_succ_lt_succ hlt)
      · rintro ⟨u, c, r, ht, hc, ha, hfirst⟩
        cases u with
        | nil =>
          cases ht
          rw [hnone hc] at ha
          contradiction
        | cons e u =>
          refine ⟨u, c, r, (List.cons.inj ht).2, hc, ha, ?_⟩
          intro u' c' r' ht' hc' hlt
          exact hfirst (d :: u') c' r' (congrArg (d :: ·) ht') hc' (Nat.succ_lt_succ hlt)

namespace Diagnostic

variable {t r ds rest message : Text}

/-- The digits of a number are the longest row of them at the front, and a colon follows. -/
theorem number?_eq_some_iff :
    number? t = some (ds, r) ↔ ds ≠ [] ∧ (∀ c ∈ ds, isDigit c = true) ∧ t = ds ++ ':' :: r := by
  have hcolon : isDigit ':' = false := by decide
  constructor
  · intro h
    have ht := List.takeWhile_append_dropWhile (p := isDigit) (l := t)
    unfold number? at h
    split at h
    · contradiction
    · rename_i d ds' r' htake hdrop
      cases h
      rw [htake, hdrop] at ht
      refine ⟨by simp, ?_, ht.symm⟩
      rw [← htake]
      exact all_of_mem_takeWhile
    · contradiction
  · rintro ⟨hne, hds, rfl⟩
    have hstop : StopsAt isDigit (':' :: r) := .cons hcolon
    unfold number?
    rw [takeWhile_append_of_stopsAt hds hstop, dropWhile_append_of_stopsAt hds hstop]
    cases ds with
    | nil => contradiction
    | cons d ds => rfl

theorem exists_messageText? : (∃ message, messageText? t = some message) ↔ ∃ c ∈ t, c ≠ '\n' := by
  unfold messageText?
  split
  · rename_i hall
    simp only [List.all_eq_true, beq_iff_eq] at hall
    refine iff_of_false (by simp) ?_
    rintro ⟨c, hc, hne⟩
    exact hne (hall c hc)
  · rename_i hall
    rw [Bool.not_eq_true, List.all_eq_false] at hall
    obtain ⟨c, hc, hne⟩ := hall
    exact iff_of_true ⟨_, rfl⟩ ⟨c, hc, by simpa using hne⟩

/-- What follows the colon of a location: blanks, the digits of a line, a colon, the digits of a
column, a colon, and a rest that does not consist of line feeds. -/
structure Locates (r ds rest : Text) : Prop where
  digits : ds ≠ [] ∧ ∀ c ∈ ds, isDigit c = true
  form : ∃ blanks column, (∀ c ∈ blanks, isBlank c = true) ∧
    column ≠ [] ∧ (∀ c ∈ column, isDigit c = true) ∧
    r = blanks ++ (ds ++ ':' :: (column ++ ':' :: rest))
  tells : ∃ c ∈ rest, c ≠ '\n'

theorem located?_eq_some_iff :
    located? r = some (ds, message) ↔
      ∃ rest, Locates r ds rest ∧ messageText? rest = some message := by
  constructor
  · intro h
    simp only [located?, bind, Option.bind_eq_some_iff, Prod.exists] at h
    obtain ⟨line, r', hline, column, rest, hcolumn, message', hmessage, heq⟩ := h
    cases heq
    obtain ⟨hne, hds, hr⟩ := number?_eq_some_iff.1 hline
    obtain ⟨hne', hcolumn', rfl⟩ := number?_eq_some_iff.1 hcolumn
    refine ⟨rest, ⟨⟨hne, hds⟩, ?_, exists_messageText?.1 ⟨message, hmessage⟩⟩, hmessage⟩
    refine ⟨r.takeWhile isBlank, column, all_of_mem_takeWhile, hne', hcolumn', ?_⟩
    rw [← hr]
    exact List.takeWhile_append_dropWhile.symm
  · rintro ⟨rest, ⟨⟨hne, hds⟩, ⟨blanks, column, hblanks, hne', hcolumn, rfl⟩, -⟩, hmessage⟩
    have hstop : StopsAt isBlank (ds ++ ':' :: (column ++ ':' :: rest)) := by
      cases ds with
      | nil => contradiction
      | cons d ds => exact .cons (isBlank_of_isDigit (hds d List.mem_cons_self))
    have htrim : Text.trimLeft (blanks ++ (ds ++ ':' :: (column ++ ':' :: rest))) =
        ds ++ ':' :: (column ++ ':' :: rest) := dropWhile_append_of_stopsAt hblanks hstop
    simp [located?, htrim, number?_eq_some_iff.2 ⟨hne, hds, rfl⟩,
      number?_eq_some_iff.2 ⟨hne', hcolumn, rfl⟩, hmessage]

theorem located?_eq_none_iff : located? r = none ↔ ∀ ds rest, ¬ Locates r ds rest := by
  rw [Option.eq_none_iff_forall_ne_some]
  constructor
  · intro h ds rest hloc
    obtain ⟨message, hmessage⟩ := exists_messageText?.2 hloc.tells
    exact h (ds, message) (located?_eq_some_iff.2 ⟨rest, hloc, hmessage⟩)
  · rintro h ⟨ds, message⟩ hloc
    obtain ⟨rest, hloc, -⟩ := located?_eq_some_iff.1 hloc
    exact h ds rest hloc

/-- A text has a location after a colon, and none after a colon further left. -/
def LocatedFirst (t ds rest : Text) : Prop :=
  ∃ before r, t = before ++ ':' :: r ∧ Locates r ds rest ∧
    ∀ before' r', t = before' ++ ':' :: r' → before'.length < before.length →
      ∀ ds' rest', ¬ Locates r' ds' rest'

theorem location?_eq_some_iff :
    location? t = some (ds, message) ↔
      ∃ rest, LocatedFirst t ds rest ∧ messageText? rest = some message := by
  rw [location?, Text.findSome?_suffixesAfter_eq_some_iff]
  constructor
  · rintro ⟨before, c, r, ht, hc, hloc, hfirst⟩
    cases beq_iff_eq.1 hc
    obtain ⟨rest, hloc, hmessage⟩ := located?_eq_some_iff.1 hloc
    refine ⟨rest, ⟨before, r, ht, hloc, ?_⟩, hmessage⟩
    intro before' r' ht' hlt
    exact located?_eq_none_iff.1 (hfirst before' ':' r' ht' rfl hlt)
  · rintro ⟨rest, ⟨before, r, ht, hloc, hfirst⟩, hmessage⟩
    refine ⟨before, ':', r, ht, rfl, located?_eq_some_iff.2 ⟨rest, hloc, hmessage⟩, ?_⟩
    intro before' c' r' ht' hc' hlt
    cases beq_iff_eq.1 hc'
    exact located?_eq_none_iff.2 (hfirst before' r' ht' hlt)

theorem LocatedFirst.exists_location? (h : LocatedFirst t ds rest) :
    ∃ message, location? t = some (ds, message) := by
  have hfirst := h
  obtain ⟨before, r, -, hloc, -⟩ := h
  obtain ⟨message, hmessage⟩ := exists_messageText?.2 hloc.tells
  exact ⟨message, location?_eq_some_iff.2 ⟨rest, hfirst, hmessage⟩⟩

theorem LocatedFirst.unique {ds' rest' : Text} (h : LocatedFirst t ds rest)
    (h' : LocatedFirst t ds' rest') : ds = ds' := by
  obtain ⟨message, hloc⟩ := h.exists_location?
  obtain ⟨message', hloc'⟩ := h'.exists_location?
  rw [hloc] at hloc'
  cases hloc'
  rfl

/-- A text is not read exactly if the line of its first location has too many digits. -/
theorem parse_eq_error_iff {e : LongNumeral} :
    parse t = .error e ↔
      ∃ ds rest, LocatedFirst t ds rest ∧ digitLimit < ds.length ∧ e = ⟨ds.length⟩ := by
  constructor
  · intro h
    unfold parse at h
    split at h
    · rename_i ds message hloc
      obtain ⟨rest, hfirst, -⟩ := location?_eq_some_iff.1 hloc
      split at h
      · rename_i hlong
        cases h
        exact ⟨ds, rest, hfirst, hlong, rfl⟩
      · contradiction
    · contradiction
  · rintro ⟨ds, rest, hfirst, hlong, rfl⟩
    obtain ⟨message, hloc⟩ := hfirst.exists_location?
    rw [parse, hloc]
    exact if_pos hlong

/-- The first location in a text, if there is one, is in a line with no more digits than are
read. -/
def HasReadableLine (t : Text) : Prop :=
  ∀ ds rest, LocatedFirst t ds rest → ds.length ≤ digitLimit

theorem exists_parse_iff : (∃ d, parse t = .ok d) ↔ HasReadableLine t := by
  constructor
  · rintro ⟨d, hd⟩ ds rest hfirst
    apply Nat.le_of_not_lt
    intro hlong
    rw [parse_eq_error_iff.2 ⟨ds, rest, hfirst, hlong, rfl⟩] at hd
    contradiction
  · intro h
    cases hp : parse t with
    | ok d => exact ⟨d, rfl⟩
    | error e =>
      obtain ⟨ds, rest, hfirst, hlong, -⟩ := parse_eq_error_iff.1 hp
      exact absurd (h ds rest hfirst) (Nat.not_le_of_lt hlong)

end Diagnostic

end DocSamples
