import DocSamples.Proofs.Lines
import DocSamples.Proofs.Splitting
import DocSamples.Shape

namespace DocSamples

variable {t r n : Text} {c : Char}

theorem isWordChar_of_isBlank (h : isBlank c = true) : isWordChar c = false := by
  have hall : ∀ b ∈ blankRanges, ∀ i < b.2 + 1 - b.1,
      isWordChar (Char.ofNat (b.1 + i)) = false := by decide +kernel
  rw [isBlank, Ranges.holds, List.any_eq_true] at h
  obtain ⟨b, hb, hin⟩ := h
  simp only [Bool.and_eq_true, decide_eq_true_eq] at hin
  have hword := hall b hb (c.toNat - b.1) (by omega)
  rwa [Nat.add_sub_cancel' hin.1, Char.ofNat_toNat] at hword

theorem isBlank_of_isCapital (h : isCapital c = true) : isBlank c = false := by
  simp only [isCapital, Bool.and_eq_true, decide_eq_true_eq, Char.le_def,
    UInt32.le_iff_toNat_le] at h
  change 65 ≤ c.toNat ∧ c.toNat ≤ 90 at h
  have happart : ∀ b ∈ blankRanges, b.2 < 65 ∨ 90 < b.1 := by decide
  rw [isBlank, Ranges.holds, List.any_eq_false]
  intro b hb
  have hb := happart b hb
  simp only [Bool.and_eq_true, decide_eq_true_eq]
  omega

theorem Text.Blank.stopsAt {v e : Text} (hv : Blank v) (he : StopsAt isWordChar e) :
    StopsAt isWordChar (v ++ e) := by
  cases v with
  | nil => exact he
  | cons c v => exact .cons (isWordChar_of_isBlank (hv c List.mem_cons_self))

theorem Text.AtLineEnd.stopsAt {e : Text} (h : AtLineEnd e) : StopsAt isWordChar e := by
  rcases h with rfl | h
  · exact .nil
  · obtain ⟨e, rfl⟩ := List.head?_eq_some_iff.1 h
    exact .cons (by decide)

namespace Shape

/-- A name: an ASCII capital and word characters after it. -/
def IsName (n : Text) : Prop :=
  ∃ c w, n = c :: w ∧ isCapital c = true ∧ ∀ d ∈ w, isWordChar d = true

theorem IsName.stopsAt (h : IsName n) (r : Text) : StopsAt isBlank (n ++ r) := by
  obtain ⟨c, w, rfl, hc, -⟩ := h
  exact .cons (isBlank_of_isCapital hc)

theorem IsName.break_not_mem (h : IsName n) : '\n' ∉ n := by
  obtain ⟨c, w, rfl, hc, hw⟩ := h
  rw [List.mem_cons]
  rintro (rfl | hmem)
  · contradiction
  · exact absurd (hw _ hmem) (by decide)

theorem afterName?_eq_some_iff :
    afterName? t = some r ↔ ∃ n, t = n ++ r ∧ IsName n ∧ StopsAt isWordChar r := by
  constructor
  · intro h
    cases t with
    | nil => contradiction
    | cons c t =>
      rw [afterName?] at h
      split at h
      · rename_i hc
        cases h
        refine ⟨c :: t.takeWhile isWordChar, ?_, ⟨c, _, rfl, hc, all_of_mem_takeWhile⟩,
          stopsAt_dropWhile isWordChar t⟩
        rw [List.cons_append, List.takeWhile_append_dropWhile]
      · contradiction
  · rintro ⟨n, rfl, ⟨c, w, rfl, hc, hw⟩, hr⟩
    rw [List.cons_append, afterName?, if_pos hc, dropWhile_append_of_stopsAt hw hr]

theorem afterBlanks?_eq_some_iff :
    afterBlanks? t = some r ↔ ∃ w, t = w ++ r ∧ w ≠ [] ∧ Text.Blank w ∧ StopsAt isBlank r := by
  constructor
  · intro h
    cases t with
    | nil => contradiction
    | cons c t =>
      rw [afterBlanks?] at h
      split at h
      · rename_i hc
        obtain ⟨hr, w, rfl, hw⟩ := Text.trimLeft_eq_iff.1 (Option.some.inj h)
        exact ⟨c :: w, rfl, by simp, List.forall_mem_cons.2 ⟨hc, hw⟩, hr⟩
      · contradiction
  · rintro ⟨w, rfl, hne, hw, hr⟩
    cases w with
    | nil => contradiction
    | cons c w =>
      obtain ⟨hc, hw⟩ := List.forall_mem_cons.1 hw
      rw [List.cons_append, afterBlanks?, if_pos hc, Text.trimLeft_eq_iff.2 ⟨hr, w, rfl, hw⟩]

theorem exists_afterBlanks?_iff :
    (∃ r, afterBlanks? t = some r) ↔ ∃ w r, t = w ++ r ∧ w ≠ [] ∧ Text.Blank w := by
  constructor
  · rintro ⟨r, h⟩
    obtain ⟨w, ht, hne, hw, -⟩ := afterBlanks?_eq_some_iff.1 h
    exact ⟨w, r, ht, hne, hw⟩
  · rintro ⟨w, r, rfl, hne, hw⟩
    cases w with
    | nil => contradiction
    | cons c w => exact ⟨_, if_pos (hw c List.mem_cons_self)⟩

theorem endsLine_iff :
    endsLine t = true ↔ ∃ v e, t = v ++ e ∧ Text.Blank v ∧ Text.AtLineEnd e := by
  rw [endsLine, Bool.or_eq_true, List.isEmpty_iff, List.contains_iff_mem]
  constructor
  · rintro (h | h)
    · obtain ⟨-, v, hv, hblank⟩ := Text.trimLeft_eq_iff.1 h
      exact ⟨v, [], hv, hblank, .inl rfl⟩
    · obtain ⟨v, w, hvw⟩ := List.append_of_mem h
      have hblank : Text.Blank (v ++ '\n' :: w) := by
        rw [← hvw]
        exact all_of_mem_takeWhile
      refine ⟨v, '\n' :: (w ++ t.dropWhile isBlank), ?_, (Text.blank_append_iff.1 hblank).1,
        .inr rfl⟩
      rw [← List.cons_append, ← List.append_assoc, ← hvw, List.takeWhile_append_dropWhile]
  · rintro ⟨v, e, rfl, hv, rfl | he⟩
    · exact .inl (Text.trimLeft_eq_iff.2 ⟨.nil, v, rfl, hv⟩)
    · obtain ⟨e, rfl⟩ := List.head?_eq_some_iff.1 he
      right
      rw [List.takeWhile_append_of_pos hv]
      exact List.mem_append_right _ (by rw [List.takeWhile_cons_of_pos (by decide)]; simp)

/-- What marks a line: a keyword, behind blanks if it may be indented, and what has to follow it,
with blanks between the two. A line feed ends what follows. -/
structure Marker where
  keyword : Text
  indented : Bool
  spaced : Bool
  Follows : Text → Prop
  keyword_unbroken : '\n' ∉ keyword
  follows_break_iff (r r' : Text) : Follows (r ++ '\n' :: r') ↔ Follows r

namespace Marker

variable {k : Marker} {t : Text}

/-- What may stand before the keyword. -/
def Indents (k : Marker) (v : Text) : Prop := Text.Blank v ∧ (k.indented = false → v = [])

/-- What may stand between the keyword and what follows it. -/
def Spaces (k : Marker) (w : Text) : Prop := Text.Blank w ∧ (k.spaced = true → w ≠ [])

/-- A text starts with the marker. -/
def Stands (k : Marker) (t : Text) : Prop :=
  ∃ v w r, t = v ++ (k.keyword ++ (w ++ r)) ∧ k.Indents v ∧ k.Spaces w ∧ k.Follows r

/-- The marker stands at the start of the text or right after a line feed. -/
def Occurs (k : Marker) (t : Text) : Prop := ∃ u s, t = u ++ s ∧ Text.EndsLine u ∧ k.Stands s

def stub : Marker where
  keyword := "fn"
  indented := false
  spaced := true
  Follows r := ∃ n v e, r = n ++ (v ++ e) ∧ IsName n ∧ Text.Blank v ∧ Text.AtLineEnd e
  keyword_unbroken := by decide
  follows_break_iff r r' := by
    constructor
    · rintro ⟨n, v, e, h, hn, hv, he⟩
      rcases append_cons_eq_append_iff.1 h with ⟨x, rfl, -⟩ | ⟨y, hy, rfl⟩
      · exact absurd (by simp) hn.break_not_mem
      rcases append_cons_eq_append_iff.1 hy.symm with ⟨x, rfl, -⟩ | ⟨z, rfl, rfl⟩
      · exact ⟨n, y, [], by simp, hn, (Text.blank_append_break_iff.1 hv).1, .inl rfl⟩
      · refine ⟨n, v, z, rfl, hn, hv, ?_⟩
        cases z with
        | nil => exact .inl rfl
        | cons c z => exact .inr (he.resolve_left (by simp))
    · rintro ⟨n, v, e, rfl, hn, hv, he⟩
      refine ⟨n, v, e ++ '\n' :: r', by simp, hn, hv, .inr ?_⟩
      rcases he with rfl | he
      · rfl
      · rw [List.head?_append, he]
        rfl

def declaration : Marker where
  keyword := "fn"
  indented := true
  spaced := true
  Follows _ := True
  keyword_unbroken := by decide
  follows_break_iff _ _ := .rfl

def assertion : Marker where
  keyword := "assert"
  indented := true
  spaced := false
  Follows r := ∃ c s, r = c :: s ∧ (c = '(' ∨ c = '\x7b')
  keyword_unbroken := by decide
  follows_break_iff r r' := by
    cases r with
    | nil => simp
    | cons c r => simp

end Marker

/-- The starts of lines at which a test holds are those of the marker that it looks for. -/
theorem any_lineStarts_iff {p : Text → Bool} {k : Marker} (h : ∀ s, p s = true ↔ k.Stands s) :
    (lineStarts t).any p = true ↔ k.Occurs t := by
  rw [List.any_eq_true]
  constructor
  · rintro ⟨s, hs, hp⟩
    obtain ⟨u, rfl, hu⟩ := Text.mem_startsAfter.1 hs
    refine ⟨u, s, rfl, hu.imp_right ?_, (h s).1 hp⟩
    rintro ⟨c, hlast, hc⟩
    rwa [← beq_iff_eq.1 hc]
  · rintro ⟨u, s, rfl, hu, hs⟩
    refine ⟨s, Text.mem_startsAfter.2 ⟨u, rfl, hu.imp_right fun hlast => ?_⟩, (h s).2 hs⟩
    exact ⟨'\n', hlast, rfl⟩

theorem startsStub_iff : startsStub t = true ↔ Marker.stub.Stands t := by
  simp only [startsStub, Option.any_eq_true, Option.bind_eq_some_iff]
  constructor
  · rintro ⟨r, ⟨s, ⟨_, hkeyword, hblanks⟩, hname⟩, hend⟩
    obtain rfl := Text.rest?_eq_some_iff.1 hkeyword
    obtain ⟨w, rfl, hne, hw, -⟩ := afterBlanks?_eq_some_iff.1 hblanks
    obtain ⟨n, rfl, hn, -⟩ := afterName?_eq_some_iff.1 hname
    obtain ⟨v, e, rfl, hv, he⟩ := endsLine_iff.1 hend
    exact ⟨[], w, n ++ (v ++ e), rfl, ⟨.nil, fun _ => rfl⟩, ⟨hw, fun _ => hne⟩,
      n, v, e, rfl, hn, hv, he⟩
  · rintro ⟨v', w, _, rfl, hv', hw, n, v, e, rfl, hn, hv, he⟩
    obtain rfl := hv'.2 rfl
    have hblanks : afterBlanks? (w ++ (n ++ (v ++ e))) = some (n ++ (v ++ e)) :=
      afterBlanks?_eq_some_iff.2 ⟨w, rfl, hw.2 rfl, hw.1, hn.stopsAt _⟩
    have hname : afterName? (n ++ (v ++ e)) = some (v ++ e) :=
      afterName?_eq_some_iff.2 ⟨n, rfl, hn, hv.stopsAt he.stopsAt⟩
    have hend : endsLine (v ++ e) = true := endsLine_iff.2 ⟨v, e, rfl, hv, he⟩
    exact ⟨_, ⟨_, ⟨_, Text.rest?_eq_some_iff.2 rfl, hblanks⟩, hname⟩, hend⟩

theorem startsDeclaration_iff : startsDeclaration t = true ↔ Marker.declaration.Stands t := by
  simp only [startsDeclaration, Option.isSome_iff_exists, Option.bind_eq_some_iff]
  constructor
  · rintro ⟨_, s, hkeyword, hblanks⟩
    obtain ⟨-, v, rfl, hv⟩ := Text.trimLeft_eq_iff.1 (Text.rest?_eq_some_iff.1 hkeyword)
    obtain ⟨w, r, rfl, hne, hw⟩ := exists_afterBlanks?_iff.1 ⟨_, hblanks⟩
    exact ⟨v, w, r, rfl, ⟨hv, nofun⟩, ⟨hw, fun _ => hne⟩, trivial⟩
  · rintro ⟨v, w, r, rfl, hv, hw, -⟩
    obtain ⟨r', hr'⟩ := exists_afterBlanks?_iff.2 ⟨w, r, rfl, hw.2 rfl, hw.1⟩
    have hstop : StopsAt isBlank (Marker.declaration.keyword ++ (w ++ r)) := .cons (by decide)
    exact ⟨r', w ++ r,
      Text.rest?_eq_some_iff.2 (Text.trimLeft_eq_iff.2 ⟨hstop, v, rfl, hv.1⟩), hr'⟩

theorem startsAssertion_iff : startsAssertion t = true ↔ Marker.assertion.Stands t := by
  rw [startsAssertion, Option.any_eq_true]
  constructor
  · rintro ⟨s, hkeyword, hbracket⟩
    obtain ⟨-, v, rfl, hv⟩ := Text.trimLeft_eq_iff.1 (Text.rest?_eq_some_iff.1 hkeyword)
    split at hbracket
    · rename_i c r htrim
      obtain ⟨-, w, rfl, hw⟩ := Text.trimLeft_eq_iff.1 htrim
      exact ⟨v, w, c :: r, rfl, ⟨hv, nofun⟩, ⟨hw, nofun⟩, c, r, rfl, by simpa using hbracket⟩
    · contradiction
  · rintro ⟨v, w, _, rfl, hv, hw, c, r, rfl, hc⟩
    have hstop : StopsAt isBlank (Marker.assertion.keyword ++ (w ++ c :: r)) := .cons (by decide)
    have hstop' : StopsAt isBlank (c :: r) := .cons (by rcases hc with rfl | rfl <;> decide)
    refine ⟨w ++ c :: r,
      Text.rest?_eq_some_iff.2 (Text.trimLeft_eq_iff.2 ⟨hstop, v, rfl, hv.1⟩), ?_⟩
    rw [Text.trimLeft_eq_iff.2 ⟨hstop', w, rfl, hw.1⟩]
    simpa using hc

def HasEllipsis (t : Text) : Prop := ['.', '.', '.'] <:+: t ∨ '…' ∈ t

theorem hasEllipsis_iff : hasEllipsis t = true ↔ HasEllipsis t := by
  unfold HasEllipsis
  induction t with
  | nil => simp [hasEllipsis]
  | cons c t ih =>
    have hdots : Text.startsWith (c :: t) ['.', '.', '.'] = true ↔ ['.', '.', '.'] <+: c :: t :=
      Text.startsWith_iff.trans (exists_congr fun r => eq_comm)
    rw [hasEllipsis, Bool.or_eq_true, Bool.or_eq_true, hdots, ih, beq_iff_eq, List.infix_cons_iff,
      List.mem_cons, eq_comm]
    grind

/-- A text that starts, behind blanks, with a name and the brace that opens a scope. -/
def Invokes (t : Text) : Prop :=
  ∃ w n v r, t = w ++ (n ++ (v ++ '\x7b' :: r)) ∧ Text.Blank w ∧ IsName n ∧ Text.Blank v

theorem startsInvocation_iff : startsInvocation t = true ↔ Invokes t := by
  rw [startsInvocation, Option.any_eq_true]
  constructor
  · rintro ⟨s, hname, hbrace⟩
    obtain ⟨n, htrim, hn, -⟩ := afterName?_eq_some_iff.1 hname
    obtain ⟨r, hr⟩ := Text.startsWith_iff.1 hbrace
    obtain ⟨-, v, rfl, hv⟩ := Text.trimLeft_eq_iff.1 hr
    obtain ⟨-, w, rfl, hw⟩ := Text.trimLeft_eq_iff.1 htrim
    exact ⟨w, n, v, r, rfl, hw, hn, hv⟩
  · rintro ⟨w, n, v, r, rfl, hw, hn, hv⟩
    have hstop : StopsAt isWordChar (v ++ '\x7b' :: r) := hv.stopsAt (.cons (by decide))
    have hbrace : StopsAt isBlank ('\x7b' :: r) := .cons (by decide)
    refine ⟨v ++ '\x7b' :: r, afterName?_eq_some_iff.2 ⟨n, ?_, hn, hstop⟩, ?_⟩
    · exact Text.trimLeft_eq_iff.2 ⟨hn.stopsAt _, w, rfl, hw⟩
    · exact Text.startsWith_iff.2 ⟨r, Text.trimLeft_eq_iff.2 ⟨hbrace, v, rfl, hv⟩⟩

/-- The keyword of a test or of a group where no word goes on, blanks, and the quote that opens its
name. -/
def HasBlock (t : Text) : Prop :=
  ∃ u k w r, t = u ++ (k ++ (w ++ '"' :: r)) ∧
    (u = [] ∨ ∃ c, u.getLast? = some c ∧ isWordChar c = false) ∧
    (k = ("test" : Text) ∨ k = ("group" : Text)) ∧ w ≠ [] ∧ Text.Blank w

theorem opensBlock_iff (k : Text) :
    ((t.rest? k).bind afterBlanks?).any (Text.startsWith · ['"']) = true ↔
      ∃ w r, t = k ++ (w ++ '"' :: r) ∧ w ≠ [] ∧ Text.Blank w := by
  simp only [Option.any_eq_true, Option.bind_eq_some_iff]
  constructor
  · rintro ⟨_, ⟨s, hkeyword, hblanks⟩, hquote⟩
    obtain rfl := Text.rest?_eq_some_iff.1 hkeyword
    obtain ⟨w, rfl, hne, hw, -⟩ := afterBlanks?_eq_some_iff.1 hblanks
    obtain ⟨r, rfl⟩ := Text.startsWith_iff.1 hquote
    exact ⟨w, r, rfl, hne, hw⟩
  · rintro ⟨w, r, rfl, hne, hw⟩
    have hblanks : afterBlanks? (w ++ '"' :: r) = some ('"' :: r) :=
      afterBlanks?_eq_some_iff.2 ⟨w, rfl, hne, hw, .cons (by decide)⟩
    exact ⟨_, ⟨_, Text.rest?_eq_some_iff.2 rfl, hblanks⟩, Text.startsWith_iff.2 ⟨r, rfl⟩⟩

theorem startsBlock_iff :
    startsBlock t = true ↔ ∃ k w r, t = k ++ (w ++ '"' :: r) ∧
      (k = ("test" : Text) ∨ k = ("group" : Text)) ∧ w ≠ [] ∧ Text.Blank w := by
  rw [startsBlock, Bool.or_eq_true, opensBlock_iff, opensBlock_iff]
  constructor
  · rintro (⟨w, r, ht, h⟩ | ⟨w, r, ht, h⟩)
    · exact ⟨_, w, r, ht, .inl rfl, h⟩
    · exact ⟨_, w, r, ht, .inr rfl, h⟩
  · rintro ⟨k, w, r, ht, rfl | rfl, h⟩
    · exact .inl ⟨w, r, ht, h⟩
    · exact .inr ⟨w, r, ht, h⟩

theorem looksLikeScope_iff : looksLikeScope t = true ↔ HasBlock t := by
  rw [looksLikeScope, List.any_eq_true]
  constructor
  · rintro ⟨s, hs, hblock⟩
    obtain ⟨u, rfl, hu⟩ := Text.mem_startsAfter.1 hs
    obtain ⟨k, w, r, rfl, h⟩ := startsBlock_iff.1 hblock
    exact ⟨u, k, w, r, rfl, by simpa using hu, h⟩
  · rintro ⟨u, k, w, r, rfl, hu, h⟩
    have hblock : startsBlock (k ++ (w ++ '"' :: r)) = true := startsBlock_iff.2 ⟨k, w, r, rfl, h⟩
    exact ⟨_, Text.mem_startsAfter.2 ⟨u, rfl, by simpa using hu⟩, hblock⟩

theorem looksLikeAssert_iff : looksLikeAssert t = true ↔ Marker.assertion.Occurs t :=
  any_lineStarts_iff fun _ => startsAssertion_iff

/-- A text that only illustrates: it has an ellipsis or a function stub, or it starts with the
invocation of a scope and declares no function. -/
def Illustrates (t : Text) : Prop :=
  HasEllipsis t ∨ Marker.stub.Occurs t ∨ Invokes t ∧ ¬ Marker.declaration.Occurs t

theorem isPseudoCode_iff : isPseudoCode t = true ↔ Illustrates t := by
  have hstub := any_lineStarts_iff (t := t) fun _ => startsStub_iff
  have hdeclaration := any_lineStarts_iff (t := t) fun _ => startsDeclaration_iff
  rw [isPseudoCode, Bool.or_eq_true, Bool.or_eq_true, Bool.and_eq_true, Bool.not_eq_true',
    ← Bool.not_eq_true, hasEllipsis_iff, hstub, startsInvocation_iff, hdeclaration, or_assoc]
  rfl

/-- The shape of a text is the first one whose form it has. -/
inductive HasShape (t : Text) : Shape → Prop
  | pseudoCode (h : Illustrates t) : HasShape t .pseudoCode
  | scopeBody (h : ¬ Illustrates t) (hb : HasBlock t) : HasShape t .scopeBody
  | assertionFragment (h : ¬ Illustrates t) (hb : ¬ HasBlock t) (ha : Marker.assertion.Occurs t) :
    HasShape t .assertionFragment
  | fullProgram (h : ¬ Illustrates t) (hb : ¬ HasBlock t) (ha : ¬ Marker.assertion.Occurs t) :
    HasShape t .fullProgram

theorem HasShape.unique {shape shape' : Shape} (h : HasShape t shape) (h' : HasShape t shape') :
    shape = shape' := by
  cases h <;> cases h' <;> first | rfl | contradiction

theorem hasShape_classify (t : Text) : HasShape t (classify t) := by
  unfold classify
  split
  · exact .pseudoCode (isPseudoCode_iff.1 ‹_›)
  · rename_i hp
    rw [isPseudoCode_iff] at hp
    split
    · exact .scopeBody hp (looksLikeScope_iff.1 ‹_›)
    · rename_i hs
      rw [looksLikeScope_iff] at hs
      split
      · exact .assertionFragment hp hs (looksLikeAssert_iff.1 ‹_›)
      · rename_i ha
        rw [looksLikeAssert_iff] at ha
        exact .fullProgram hp hs ha

theorem classify_eq_pseudoCode_iff : classify t = .pseudoCode ↔ Illustrates t := by
  constructor
  · intro h
    have hshape := hasShape_classify t
    rw [h] at hshape
    cases hshape
    assumption
  · intro h
    exact (hasShape_classify t).unique (.pseudoCode h)

/-- The tests for the shape of a sample recognise their forms wherever these stand in it, and its
shape is the first one whose form it has. -/
theorem classify_grammar (t : Text) :
    (isPseudoCode t = true ↔ Illustrates t) ∧
      (looksLikeScope t = true ↔ HasBlock t) ∧
      (looksLikeAssert t = true ↔ Marker.assertion.Occurs t) ∧
      ∀ shape, classify t = shape ↔ HasShape t shape := by
  refine ⟨isPseudoCode_iff, looksLikeScope_iff, looksLikeAssert_iff, fun shape => ?_⟩
  constructor
  · rintro rfl
    exact hasShape_classify t
  · exact (hasShape_classify t).unique

end Shape

end DocSamples
