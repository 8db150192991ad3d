import DocSamples.Proofs.ShapeGrammar

namespace DocSamples.Shape.Marker

variable {k : Marker} {t a b l : Text} {ls : List Text}

/-- A text that breaks off with the keyword of a marker, or with blanks behind it. -/
def BreaksOff (k : Marker) (t : Text) : Prop :=
  ∃ u v w, t = u ++ (v ++ (k.keyword ++ w)) ∧ Text.EndsLine u ∧ k.Indents v ∧ Text.Blank w

/-- A text that goes on, behind blanks, with what has to follow the keyword. -/
def Resumes (k : Marker) (t : Text) : Prop :=
  ∃ w r, t = w ++ r ∧ Text.Blank w ∧ k.Follows r

/-- A marker whose keyword is in one text, while what follows is in the next one. -/
def Straddles (k : Marker) (a b : Text) : Prop := k.BreaksOff a ∧ k.Resumes b

theorem Stands.append_break (h : k.Stands t) (b : Text) : k.Stands (t ++ '\n' :: b) := by
  obtain ⟨v, w, r, rfl, hv, hw, hr⟩ := h
  exact ⟨v, w, r ++ '\n' :: b, by simp, hv, hw, (k.follows_break_iff r b).2 hr⟩

/-- A line feed in a text takes from the occurrences of a marker those that straddle it. -/
theorem occurs_append_break_iff :
    k.Occurs (a ++ '\n' :: b) ↔ k.Occurs a ∨ k.Occurs b ∨ k.Straddles a b := by
  constructor
  · rintro ⟨u, s, ht, hu, v, w, r, rfl, hv, hw, hr⟩
    -- The line feed stands before the marker, in its indent, behind the keyword, or in the rest.
    rcases append_cons_eq_append_iff.1 ht with ⟨u, rfl, rfl⟩ | ⟨_, hmarker, rfl⟩
    · exact .inr (.inl ⟨u, _, rfl, Text.endsLine_append_break_iff.1 hu, v, w, r, rfl, hv, hw, hr⟩)
    rcases append_cons_eq_append_iff.1 hmarker.symm with ⟨v, rfl, rfl⟩ | ⟨_, hkeyword, rfl⟩
    · have hindents : k.Indents v :=
        ⟨(Text.blank_append_break_iff.1 hv.1).2, fun h => by simpa using hv.2 h⟩
      exact .inr (.inl ⟨[], _, rfl, .inl rfl, v, w, r, rfl, hindents, hw, hr⟩)
    rcases append_cons_eq_append_iff.1 hkeyword.symm with ⟨x, hx, -⟩ | ⟨_, hspaces, rfl⟩
    · exact absurd (by simp [hx]) k.keyword_unbroken
    rcases append_cons_eq_append_iff.1 hspaces.symm with ⟨w', rfl, rfl⟩ | ⟨r, rfl, rfl⟩
    · obtain ⟨hbefore, hafter⟩ := Text.blank_append_break_iff.1 hw.1
      exact .inr (.inr ⟨⟨u, v, _, rfl, hu, hv, hbefore⟩, w', r, rfl, hafter, hr⟩)
    · exact .inl ⟨u, _, rfl, hu, v, w, r, rfl, hv, hw, (k.follows_break_iff _ _).1 hr⟩
  · rintro (⟨u, s, rfl, hu, hs⟩ | ⟨u, s, rfl, hu, hs⟩ | ⟨hoff, w', r, rfl, hw', hr⟩)
    · exact ⟨u, s ++ '\n' :: b, by simp, hu, hs.append_break b⟩
    · exact ⟨a ++ '\n' :: u, s, by simp, Text.endsLine_append_break_iff.2 hu, hs⟩
    · obtain ⟨u, v, w, rfl, hu, hv, hw⟩ := hoff
      refine ⟨u, _, by simp, hu, v, w ++ '\n' :: w', r, rfl, hv, ⟨?_, fun _ => by simp⟩, hr⟩
      exact Text.blank_append_break_iff.2 ⟨hw, hw'⟩

theorem occurs_of_unbroken (h : '\n' ∉ l) : k.Occurs l ↔ k.Stands l := by
  constructor
  · rintro ⟨u, s, rfl, hu, hs⟩
    obtain rfl := hu.eq_nil fun hn => h (List.mem_append_left s hn)
    exact hs
  · intro hs
    exact ⟨[], l, rfl, .inl rfl, hs⟩

theorem resumes_append_break_iff :
    k.Resumes (a ++ '\n' :: b) ↔ k.Resumes a ∨ Text.Blank a ∧ k.Resumes b := by
  constructor
  · rintro ⟨w, r, h, hw, hr⟩
    rcases append_cons_eq_append_iff.1 h with ⟨w, rfl, rfl⟩ | ⟨r, rfl, rfl⟩
    · obtain ⟨ha, hw⟩ := Text.blank_append_break_iff.1 hw
      exact .inr ⟨ha, w, r, rfl, hw, hr⟩
    · exact .inl ⟨w, r, rfl, hw, (k.follows_break_iff r b).1 hr⟩
  · rintro (⟨w, r, rfl, hw, hr⟩ | ⟨ha, w, r, rfl, hw, hr⟩)
    · exact ⟨w, r ++ '\n' :: b, by simp, hw, (k.follows_break_iff r b).2 hr⟩
    · exact ⟨a ++ '\n' :: w, r, by simp, Text.blank_append_break_iff.2 ⟨ha, hw⟩, hr⟩

/-- The first of some lines that goes on with what has to follow a keyword has only blank ones
before it. -/
inductive ResumesIn (k : Marker) : List Text → Prop
  | here {l : Text} {ls : List Text} (h : k.Resumes l) : ResumesIn k (l :: ls)
  | later {l : Text} {ls : List Text} (hl : Text.Blank l) (h : ResumesIn k ls) :
    ResumesIn k (l :: ls)

/-- One of some lines breaks off with the keyword of a marker, and what has to follow comes in a
later line with only blank ones between the two. -/
inductive SplitIn (k : Marker) : List Text → Prop
  | here {l : Text} {ls : List Text} (h : k.BreaksOff l) (hls : k.ResumesIn ls) :
    SplitIn k (l :: ls)
  | later {l : Text} {ls : List Text} (h : SplitIn k ls) : SplitIn k (l :: ls)

theorem resumesIn_cons_iff :
    k.ResumesIn (l :: ls) ↔ k.Resumes l ∨ Text.Blank l ∧ k.ResumesIn ls := by
  constructor
  · intro h
    cases h with
    | here h => exact .inl h
    | later hl h => exact .inr ⟨hl, h⟩
  · rintro (h | ⟨hl, h⟩)
    · exact .here h
    · exact .later hl h

theorem splitIn_cons_iff : k.SplitIn (l :: ls) ↔ k.BreaksOff l ∧ k.ResumesIn ls ∨ k.SplitIn ls := by
  constructor
  · intro h
    cases h with
    | here h hls => exact .inl ⟨h, hls⟩
    | later h => exact .inr h
  · rintro (⟨h, hls⟩ | h)
    · exact .here h hls
    · exact .later h

theorem not_resumesIn_nil : ¬ k.ResumesIn [] := nofun

theorem not_splitIn_nil : ¬ k.SplitIn [] := nofun

theorem resumes_iff (t : Text) : k.Resumes t ↔ k.ResumesIn (Text.pieces t) := by
  induction t using Text.lineInduction with
  | unbroken l hl =>
    rw [Text.pieces_of_not_mem hl, resumesIn_cons_iff, or_iff_left]
    exact fun h => not_resumesIn_nil h.2
  | line l t hl ih =>
    rw [Text.pieces_append_cons, Text.pieces_of_not_mem hl, List.singleton_append,
      resumesIn_cons_iff, ← ih, resumes_append_break_iff]

/-- A marker occurs in a text if it stands at the start of one of the lines, or is split over some
of them. -/
theorem occurs_iff (t : Text) :
    k.Occurs t ↔ (∃ l ∈ Text.pieces t, k.Stands l) ∨ k.SplitIn (Text.pieces t) := by
  induction t using Text.lineInduction with
  | unbroken l hl =>
    rw [Text.pieces_of_not_mem hl, splitIn_cons_iff, occurs_of_unbroken hl]
    simp [not_resumesIn_nil, not_splitIn_nil]
  | line l t hl ih =>
    have hstands : (∃ l' ∈ l :: Text.pieces t, k.Stands l') ↔
        k.Stands l ∨ ∃ l' ∈ Text.pieces t, k.Stands l' := by simp
    rw [Text.pieces_append_cons, Text.pieces_of_not_mem hl, List.singleton_append, hstands,
      splitIn_cons_iff, occurs_append_break_iff, occurs_of_unbroken hl, ih, Straddles, resumes_iff]
    grind

/-- How a test decides about a marker in a text, and in the text with another one in the lines after
it. It holds if the marker stands on one of the lines, which is all of it exactly where a marker
that is split over lines stands on one of them too. -/
structure DecidedBy (k : Marker) (test : Text → Bool) (t : Text) : Prop where
  lines_iff : test t = true ↔ (∃ l ∈ Text.pieces t, k.Stands l) ∨ k.SplitIn (Text.pieces t)
  line_by_line_iff :
    (test t = true ↔ ∃ l ∈ Text.pieces t, k.Stands l) ↔
      (k.SplitIn (Text.pieces t) → ∃ l ∈ Text.pieces t, k.Stands l)
  append_iff (b : Text) :
    test (t ++ '\n' :: b) = true ↔ test t = true ∨ test b = true ∨ k.Straddles t b
  part_by_part_iff (b : Text) :
    (test (t ++ '\n' :: b) = true ↔ test t = true ∨ test b = true) ↔
      (k.Straddles t b → test t = true ∨ test b = true)

theorem decidedBy_of_iff {test : Text → Bool} (h : ∀ t, test t = true ↔ k.Occurs t) (t : Text) :
    k.DecidedBy test t := by
  have hlines := (h t).trans (occurs_iff t)
  have happend (b : Text) :
      test (t ++ '\n' :: b) = true ↔ test t = true ∨ test b = true ∨ k.Straddles t b := by
    rw [h, h, h, occurs_append_break_iff]
  refine ⟨hlines, ?_, happend, fun b => ?_⟩
  · rw [hlines]
    exact or_iff_left_iff_imp
  · rw [happend, ← or_assoc]
    exact or_iff_left_iff_imp

/-- The three tests that look at the starts of lines decide line by line and part by part, exactly
but for markers that are split. -/
theorem tests_line_by_line_iff (t : Text) :
    stub.DecidedBy (fun t => (lineStarts t).any startsStub) t ∧
      declaration.DecidedBy (fun t => (lineStarts t).any startsDeclaration) t ∧
      assertion.DecidedBy looksLikeAssert t := by
  refine ⟨decidedBy_of_iff ?_ t, decidedBy_of_iff ?_ t, decidedBy_of_iff ?_ t⟩
  · exact fun _ => any_lineStarts_iff fun _ => startsStub_iff
  · exact fun _ => any_lineStarts_iff fun _ => startsDeclaration_iff
  · exact fun _ => looksLikeAssert_iff

/-- Each of the three markers can be split over two lines and is found, though neither line has it
and neither do the two parts of the text. -/
theorem tests_not_line_by_line :
    ((lineStarts "fn\nGetUser").any startsStub = true ∧
      (¬ ∃ l ∈ Text.pieces "fn\nGetUser", stub.Stands l) ∧
      (lineStarts "fn").any startsStub = false ∧ (lineStarts "GetUser").any startsStub = false) ∧
    ((lineStarts "A \x7b\nfn\n").any startsDeclaration = true ∧
      (¬ ∃ l ∈ Text.pieces "A \x7b\nfn\n", declaration.Stands l) ∧
      (lineStarts "A \x7b\nfn").any startsDeclaration = false ∧
      (lineStarts "").any startsDeclaration = false) ∧
    looksLikeAssert "assert\n(" = true ∧
      (¬ ∃ l ∈ Text.pieces "assert\n(", assertion.Stands l) ∧
      looksLikeAssert "assert" = false ∧ looksLikeAssert "(" = false := by
  simp only [← startsStub_iff, ← startsDeclaration_iff, ← startsAssertion_iff]
  decide

end DocSamples.Shape.Marker
