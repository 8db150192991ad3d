import DocSamples.Proofs.DigitRuns
import DocSamples.Proofs.Lines
import DocSamples.Proofs.Trimming

namespace DocSamples

open Text (AtLineEnd Blank TrimsTo)

theorem Text.AtLineEnd.stopsAt_ne_break {t : Text} (h : AtLineEnd t) : StopsAt (· != '\n') t := by
  rcases h with rfl | h
  · exact .nil
  · intro c hc
    cases h.symm.trans hc
    rfl

theorem StopsAt.atLineEnd {t : Text} (h : StopsAt (· != '\n') t) : AtLineEnd t := by
  cases t with
  | nil => exact .inl rfl
  | cons c t =>
    have hc := h c rfl
    rw [bne_eq_false_iff_eq] at hc
    exact .inr (congrArg some hc)

namespace Diagnostic

variable {t r ds rest name message : Text} {d : Diagnostic}

/-- The message that stands in what follows a location: the first line behind the blanks, trimmed,
and nothing where there are only blanks. -/
inductive Tells : (rest message : Text) → Prop
  | nothing {rest : Text} (h : Blank rest) : Tells rest []
  | line {blanks run behind message : Text} (hblanks : Blank blanks)
      (hrun : run ≠ [] ∧ StopsAt isBlank run ∧ '\n' ∉ run) (hbehind : AtLineEnd behind)
      (hmessage : run.TrimsTo message) : Tells (blanks ++ (run ++ behind)) message

theorem Tells.eq_trim (h : Tells rest message) :
    Text.trim (rest.trimLeft.takeWhile (· != '\n')) = message := by
  cases h with
  | nothing h =>
    have hnil : rest.trimLeft = [] := Text.trimLeft_eq_iff.2 ⟨.nil, rest, by simp, h⟩
    rw [hnil]
    rfl
  | line hblanks hrun hbehind hmessage =>
    rename_i blanks run behind
    obtain ⟨hne, hfront, hbreak⟩ := hrun
    have hleft : (blanks ++ (run ++ behind)).trimLeft = run ++ behind :=
      Text.trimLeft_eq_iff.2 ⟨hfront.append_of_ne_nil hne behind, blanks, rfl, hblanks⟩
    rw [hleft, takeWhile_append_of_stopsAt (not_mem_iff_forall_bne.1 hbreak)
      hbehind.stopsAt_ne_break]
    exact Text.trim_eq_iff.2 hmessage

theorem tells_trim (rest : Text) :
    Tells rest (Text.trim (rest.trimLeft.takeWhile (· != '\n'))) := by
  generalize hs : rest.trimLeft = s
  obtain ⟨hfront, blanks, rfl, hblanks⟩ := Text.trimLeft_eq_iff.1 hs
  cases s with
  | nil => exact .nothing (by rwa [List.append_nil])
  | cons c s =>
    have hc : (c != '\n') = true := by
      rw [bne_iff_ne]
      rintro rfl
      exact absurd (hfront '\n' rfl) (by decide)
    have hne : (c :: s).takeWhile (· != '\n') ≠ [] := by
      rw [List.takeWhile_cons_of_pos (p := (· != '\n')) hc]
      exact List.cons_ne_nil _ _
    have hbreak : '\n' ∉ (c :: s).takeWhile (· != '\n') := by
      intro h
      exact absurd (all_of_mem_takeWhile _ h) (by decide)
    have hsplit := List.takeWhile_append_dropWhile (p := (· != '\n')) (l := c :: s)
    have hrun : StopsAt isBlank ((c :: s).takeWhile (· != '\n')) := by
      rw [← hsplit] at hfront
      exact hfront.of_append
    have hbehind : AtLineEnd ((c :: s).dropWhile (· != '\n')) :=
      (stopsAt_dropWhile _ _).atLineEnd
    have htells := Tells.line hblanks ⟨hne, hrun, hbreak⟩ hbehind (Text.trimsTo_trim _)
    rwa [hsplit] at htells

theorem messageText?_eq_some_iff :
    messageText? rest = some message ↔ (∃ c ∈ rest, c ≠ '\n') ∧ Tells rest message := by
  constructor
  · intro h
    refine ⟨exists_messageText?.1 ⟨message, h⟩, ?_⟩
    unfold messageText? at h
    split at h
    · contradiction
    · cases h
      exact tells_trim rest
  · rintro ⟨hsome, htells⟩
    obtain ⟨message', h⟩ := exists_messageText?.2 hsome
    rw [h]
    unfold messageText? at h
    split at h
    · contradiction
    · cases h
      rw [htells.eq_trim]

/-- No colon of the text is followed by a location. -/
def Unlocated (t : Text) : Prop :=
  ∀ before r, t = before ++ ':' :: r → ∀ ds rest, ¬ Locates r ds rest

theorem location?_eq_none_iff : location? t = none ↔ Unlocated t := by
  simp only [location?, List.findSome?_eq_none_iff, Text.mem_suffixesAfter, located?_eq_none_iff]
  constructor
  · intro h before r ht
    exact h r ⟨before, ':', rfl, ht⟩
  · rintro h r ⟨before, c, hc, ht⟩
    cases beq_iff_eq.1 hc
    exact h before r ht

theorem LocatedFirst.location?_eq (h : LocatedFirst t ds rest) (hm : Tells rest message) :
    location? t = some (ds, message) := by
  have hfirst := h
  obtain ⟨before, r, -, hloc, -⟩ := h
  exact location?_eq_some_iff.2 ⟨rest, hfirst, messageText?_eq_some_iff.2 ⟨hloc.tells, hm⟩⟩

/-- A text announces an error: it names something up to the next colon, and more follows. -/
structure Announces (t name r : Text) : Prop where
  form : t = ("error:" : Text) ++ (name ++ ':' :: r)
  ne_nil : name ≠ []
  plain : ':' ∉ name

theorem afterErrorName?_eq_some_iff : afterErrorName? t = some r ↔ ∃ name, Announces t name r := by
  simp only [afterErrorName?, bind, Option.bind_eq_some_iff, Text.rest?_eq_some_iff]
  constructor
  · rintro ⟨w, rfl, h⟩
    have hw := List.takeWhile_append_dropWhile (p := (· != ':')) (l := w)
    split at h
    · rename_i c name r' htake hdrop
      cases h
      refine ⟨c :: name, ⟨?_, List.cons_ne_nil c name, ?_⟩⟩
      · rw [← hw, htake, hdrop]
      · rw [not_mem_iff_forall_bne, ← htake]
        exact all_of_mem_takeWhile
    · contradiction
  · rintro ⟨name, rfl, hne, hcolon⟩
    refine ⟨_, rfl, ?_⟩
    have hstop : StopsAt (· != ':') (':' :: r) := .cons rfl
    have hplain := not_mem_iff_forall_bne.1 hcolon
    rw [takeWhile_append_of_stopsAt hplain hstop, dropWhile_append_of_stopsAt hplain hstop]
    cases name with
    | nil => contradiction
    | cons c name => rfl

theorem Announces.afterErrorName?_eq (h : Announces t name r) : afterErrorName? t = some r :=
  afterErrorName?_eq_some_iff.2 ⟨name, h⟩

theorem wholeMessage_of_announces (h : Announces t name r) (hr : r.NonBlank) :
    wholeMessage t = r.trim := by
  have hne := List.isEmpty_eq_false_iff.2 (Text.trim_ne_nil_iff.2 hr)
  rw [wholeMessage, h.afterErrorName?_eq]
  simp only [Option.getD_some, hne, Bool.false_eq_true, if_false]

theorem wholeMessage_of_blank (h : ∀ name r, Announces t name r → Blank r) :
    wholeMessage t = t.trim := by
  unfold wholeMessage
  cases ha : afterErrorName? t with
  | none => simp
  | some r =>
    obtain ⟨name, hname⟩ := afterErrorName?_eq_some_iff.1 ha
    have hnil := Text.trim_eq_nil_iff.2 (h name r hname)
    simp [hnil]

/-- What is read in a text: the line and the message of its first location, or, where it has none,
the text trimmed, without the announcement of an error if there is more than that. -/
inductive Reads (t : Text) : Diagnostic → Prop
  | located {ds rest message : Text} (h : LocatedFirst t ds rest) (hm : Tells rest message) :
      Reads t ⟨some ds.digitsValue, message⟩
  | announced {name r message : Text} (h : Unlocated t) (ha : Announces t name r)
      (hr : r.NonBlank) (hm : r.TrimsTo message) : Reads t ⟨none, message⟩
  | whole {message : Text} (h : Unlocated t) (ha : ∀ name r, Announces t name r → Blank r)
      (hm : t.TrimsTo message) : Reads t ⟨none, message⟩

theorem parse_of_unlocated (h : Unlocated t) : parse t = .ok ⟨none, wholeMessage t⟩ := by
  rw [parse, location?_eq_none_iff.2 h]

theorem LocatedFirst.parse_eq (h : LocatedFirst t ds rest) (hm : Tells rest message)
    (hds : ds.length ≤ digitLimit) : parse t = .ok ⟨some ds.digitsValue, message⟩ := by
  rw [parse, h.location?_eq hm]
  exact if_neg (Nat.not_lt_of_le hds)

theorem Reads.parse_eq (h : Reads t d) (ht : HasReadableLine t) : parse t = .ok d := by
  cases h with
  | located h hm => exact h.parse_eq hm (ht _ _ h)
  | announced h ha hr hm =>
    rw [parse_of_unlocated h, wholeMessage_of_announces ha hr, Text.trim_eq_iff.2 hm]
  | whole h ha hm => rw [parse_of_unlocated h, wholeMessage_of_blank ha, Text.trim_eq_iff.2 hm]

theorem reads_of_unlocated (h : Unlocated t) : Reads t ⟨none, wholeMessage t⟩ := by
  by_cases ha : ∀ name r, Announces t name r → Blank r
  · rw [wholeMessage_of_blank ha]
    exact .whole h ha (Text.trimsTo_trim t)
  · simp only [Classical.not_forall] at ha
    obtain ⟨name, r, ha, hr⟩ := ha
    rw [Text.not_blank_iff] at hr
    rw [wholeMessage_of_announces ha hr]
    exact .announced h ha hr (Text.trimsTo_trim r)

theorem exists_locatedFirst (h : ¬ Unlocated t) : ∃ ds rest, LocatedFirst t ds rest := by
  rw [← location?_eq_none_iff, ← ne_eq, Option.ne_none_iff_exists'] at h
  obtain ⟨⟨ds, message⟩, hloc⟩ := h
  obtain ⟨rest, hfirst, -⟩ := location?_eq_some_iff.1 hloc
  exact ⟨ds, rest, hfirst⟩

theorem exists_reads (t : Text) : ∃ d, Reads t d := by
  by_cases h : Unlocated t
  · exact ⟨_, reads_of_unlocated h⟩
  · obtain ⟨ds, rest, hfirst⟩ := exists_locatedFirst h
    exact ⟨_, .located hfirst (tells_trim rest)⟩

/-- A text without overlong rows of digits is parsed, and what is parsed is the one thing that is
read in it. -/
theorem parse_eq_reads (h : Readable t) : ∃ d, parse t = .ok d ∧ ∀ d', Reads t d' ↔ d' = d := by
  have hline := exists_parse_iff.1 (exists_parse h)
  obtain ⟨d, hd⟩ := exists_reads t
  have hparse := hd.parse_eq hline
  refine ⟨d, hparse, ?_⟩
  intro d'
  constructor
  · intro hd'
    have hparse' := hd'.parse_eq hline
    rw [hparse] at hparse'
    exact (Except.ok.inj hparse').symm
  · rintro rfl
    exact hd

/-- A text with an announcement, colons without a location, and a location over three lines. -/
def scatteredLocation : Text := "error: a.scaf: at 7: see\nb.scaf:\n 3:5:\n expected: name\n"

theorem readable_of_length_le (h : t.length ≤ digitLimit) : Readable t := by
  intro ds hds _
  exact Nat.le_trans hds.length_le h

theorem parse_eq_reads_scattered :
    parse scatteredLocation = .ok ⟨some 3, "expected: name"⟩ ∧
      ∀ d, Reads scatteredLocation d ↔ d = ⟨some 3, "expected: name"⟩ := by
  have hparse : parse scatteredLocation = .ok ⟨some 3, "expected: name"⟩ := by rfl
  obtain ⟨d, hd, hreads⟩ := parse_eq_reads (readable_of_length_le (t := scatteredLocation)
    (by decide))
  rw [hparse] at hd
  cases hd
  exact ⟨hparse, hreads⟩

end Diagnostic

end DocSamples
