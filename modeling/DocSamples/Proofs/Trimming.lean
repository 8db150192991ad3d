import DocSamples.Proofs.Splitting

namespace DocSamples

section Trimming

variable {α : Type} {p : α → Bool} {l : List α}

theorem exists_mem_dropWhile_iff :
    (∃ a ∈ l.dropWhile p, p a = false) ↔ ∃ a ∈ l, p a = false := by
  constructor
  · rintro ⟨a, ha, hp⟩
    exact ⟨a, (List.dropWhile_suffix p).subset ha, hp⟩
  · rintro ⟨a, ha, hp⟩
    rw [← List.takeWhile_append_dropWhile (p := p) (l := l)] at ha
    rcases List.mem_append.1 ha with ha | ha
    · rw [all_of_mem_takeWhile a ha] at hp
      contradiction
    · exact ⟨a, ha, hp⟩

theorem dropWhile_ne_nil_iff : l.dropWhile p ≠ [] ↔ ∃ a ∈ l, p a = false := by
  constructor
  · intro h
    obtain ⟨a, m, hm⟩ := List.exists_cons_of_ne_nil h
    have ha := stopsAt_dropWhile p l a (by rw [hm, List.head?_cons])
    exact ⟨a, (List.dropWhile_suffix p).subset (hm ▸ List.mem_cons_self), ha⟩
  · intro h
    obtain ⟨a, ha, -⟩ := exists_mem_dropWhile_iff.2 h
    exact List.ne_nil_of_mem ha

theorem trimmed_ne_nil_iff :
    ((l.dropWhile p).reverse.dropWhile p).reverse ≠ [] ↔ ∃ a ∈ l, p a = false := by
  rw [ne_eq, List.reverse_eq_nil_iff, ← ne_eq, dropWhile_ne_nil_iff]
  simp only [List.mem_reverse, exists_mem_dropWhile_iff]

theorem exists_mem_trimmed_iff :
    (∃ a ∈ ((l.dropWhile p).reverse.dropWhile p).reverse, p a = false) ↔
      ∃ a ∈ l, p a = false := by
  simp only [List.mem_reverse, exists_mem_dropWhile_iff]

theorem StopsAt.append {l' : List α} (h : StopsAt p l) (h' : StopsAt p l') :
    StopsAt p (l ++ l') := by
  cases l with
  | nil => exact h'
  | cons a l => exact .cons (h a rfl)

theorem StopsAt.append_of_ne_nil (h : StopsAt p l) (hl : l ≠ []) (l' : List α) :
    StopsAt p (l ++ l') := by
  cases l with
  | nil => contradiction
  | cons a l => exact .cons (h a rfl)

theorem StopsAt.of_append {l' : List α} (h : StopsAt p (l ++ l')) : StopsAt p l := by
  cases l with
  | nil => exact .nil
  | cons a l => exact .cons (h a rfl)

theorem stopsAt_trimmed (p : α → Bool) (l : List α) :
    StopsAt p ((l.dropWhile p).reverse.dropWhile p).reverse ∧
      StopsAt p ((l.dropWhile p).reverse.dropWhile p) := by
  refine ⟨?_, stopsAt_dropWhile p _⟩
  have hfront := stopsAt_dropWhile p l
  rw [← List.reverse_reverse (l.dropWhile p),
    ← List.takeWhile_append_dropWhile (p := p) (l := (l.dropWhile p).reverse),
    List.reverse_append] at hfront
  exact hfront.of_append

end Trimming

namespace Text

variable {t s u v : Text}

def NonBlank (t : Text) : Prop := ∃ c ∈ t, isBlank c = false

theorem trim_ne_nil_iff : t.trim ≠ [] ↔ t.NonBlank := trimmed_ne_nil_iff

theorem nonBlank_trim_iff : t.trim.NonBlank ↔ t.NonBlank := exists_mem_trimmed_iff

theorem not_nonBlank_iff : ¬ t.NonBlank ↔ Blank t := by
  simp only [NonBlank, Blank, not_exists, not_and, Bool.not_eq_false]

theorem not_blank_iff : ¬ Blank t ↔ t.NonBlank := by
  rw [← not_nonBlank_iff, Classical.not_not]

theorem trim_eq_nil_iff : t.trim = [] ↔ Blank t := by
  rw [← not_nonBlank_iff, ← trim_ne_nil_iff, Classical.not_not]

/-- A text, and what is left of it without the blanks at its two ends. -/
structure TrimsTo (t s : Text) : Prop where
  parts : ∃ u v, t = u ++ s ++ v ∧ Blank u ∧ Blank v
  front : StopsAt isBlank s
  back : StopsAt isBlank s.reverse

theorem blank_reverse_iff : Blank t.reverse ↔ Blank t := by
  simp only [Blank, List.mem_reverse]

theorem trimRight_eq_iff :
    t.trimRight = s ↔ StopsAt isBlank s.reverse ∧ ∃ v, t = s ++ v ∧ Blank v := by
  rw [trimRight, List.reverse_eq_iff]
  change Text.trimLeft t.reverse = s.reverse ↔ _
  rw [trimLeft_eq_iff]
  refine and_congr_right fun _ => ⟨?_, ?_⟩
  · rintro ⟨w, hw, hblank⟩
    exact ⟨w.reverse, by simpa using congrArg List.reverse hw, blank_reverse_iff.2 hblank⟩
  · rintro ⟨v, rfl, hblank⟩
    exact ⟨v.reverse, by simp, blank_reverse_iff.2 hblank⟩

theorem trim_eq_iff : t.trim = s ↔ t.TrimsTo s := by
  rw [trim, trimRight_eq_iff]
  constructor
  · rintro ⟨hback, v, hv, hblank⟩
    obtain ⟨hfront, u, hu, hblank'⟩ := trimLeft_eq_iff.1 hv
    refine ⟨⟨u, v, ?_, hblank', hblank⟩, hfront.of_append, hback⟩
    rw [List.append_assoc]
    exact hu
  · rintro ⟨⟨u, v, rfl, hu, hv⟩, hfront, hback⟩
    refine ⟨hback, ?_⟩
    cases s with
    | nil =>
      refine ⟨[], trimLeft_eq_iff.2 ⟨.nil, u ++ v, by simp, blank_append_iff.2 ⟨hu, hv⟩⟩, .nil⟩
    | cons c s =>
      refine ⟨v, trimLeft_eq_iff.2 ⟨?_, u, by simp, hu⟩, hv⟩
      exact hfront.append_of_ne_nil (List.cons_ne_nil c s) v

theorem trim_of_stopsAt (h : StopsAt isBlank t) (h' : StopsAt isBlank t.reverse) : t.trim = t :=
  trim_eq_iff.2 ⟨⟨[], [], by simp, .nil, .nil⟩, h, h'⟩

theorem trimLeft_append_of_stopsAt (h : StopsAt isBlank s) (u : Text) :
    (u ++ s).trimLeft = u.trimLeft ++ s := by
  obtain ⟨hu, w, hw, hblank⟩ := trimLeft_eq_iff.1 (rfl : u.trimLeft = _)
  apply trimLeft_eq_iff.2
  refine ⟨hu.append h, w, ?_, hblank⟩
  rw [← List.append_assoc, ← hw]

theorem trimsTo_trim (t : Text) : t.TrimsTo t.trim := trim_eq_iff.1 rfl

/-- What stands between two texts is not touched by trimming, where it has no blanks at its ends. -/
theorem trim_append (hfront : StopsAt isBlank s) (hback : StopsAt isBlank s.reverse) (hs : s ≠ [])
    (u v : Text) : (u ++ s ++ v).trim = u.trimLeft ++ s ++ v.trimRight := by
  obtain ⟨hu, w, hw, hblank⟩ := trimLeft_eq_iff.1 (rfl : u.trimLeft = _)
  obtain ⟨hv, w', hw', hblank'⟩ := trimRight_eq_iff.1 (rfl : v.trimRight = _)
  apply trim_eq_iff.2
  refine ⟨⟨w, w', ?_, hblank, hblank'⟩, ?_, ?_⟩
  · calc
      u ++ s ++ v = w ++ u.trimLeft ++ s ++ (v.trimRight ++ w') := by rw [← hw, ← hw']
      _ = w ++ (u.trimLeft ++ s ++ v.trimRight) ++ w' := by simp only [List.append_assoc]
  · exact (hu.append hfront).append_of_ne_nil (List.append_ne_nil_of_right_ne_nil _ hs) _
  · rw [List.append_assoc, List.reverse_append, List.reverse_append]
    apply (hv.append hback).append_of_ne_nil
    exact List.append_ne_nil_of_right_ne_nil _ (List.reverse_ne_nil_iff.2 hs)

theorem trim_isInfix_trim_append (u v : Text) : v.trim <:+: Text.trim (u ++ v) := by
  obtain ⟨⟨a, b, hv, -, -⟩, hfront, hback⟩ := trimsTo_trim v
  by_cases hne : v.trim = []
  · rw [hne]
    exact List.nil_infix
  · have hu : u ++ v = (u ++ a) ++ v.trim ++ b := by
      rw [List.append_assoc, List.append_assoc, ← List.append_assoc a, ← hv]
    rw [hu, trim_append hfront hback hne]
    exact ⟨_, _, rfl⟩

def nonBlanks (t : Text) : Nat := t.countP (!isBlank ·)

theorem nonBlanks_append (u v : Text) :
    Text.nonBlanks (u ++ v) = u.nonBlanks + v.nonBlanks := List.countP_append

theorem nonBlanks_cons {c : Char} (h : isBlank c = false) (t : Text) :
    Text.nonBlanks (c :: t) = t.nonBlanks + 1 :=
  List.countP_cons_of_pos (by simp [h])

theorem nonBlanks_of_blank (h : Blank t) : t.nonBlanks = 0 := by
  rw [nonBlanks, List.countP_eq_zero]
  intro c hc
  simp [h c hc]

theorem nonBlanks_trim (t : Text) : t.trim.nonBlanks = t.nonBlanks := by
  obtain ⟨⟨u, v, ht, hu, hv⟩, -, -⟩ := trimsTo_trim t
  have hcount := congrArg nonBlanks ht
  rw [nonBlanks_append, nonBlanks_append, nonBlanks_of_blank hu, nonBlanks_of_blank hv] at hcount
  omega

end Text

end DocSamples
