import DocSamples.Text.Blank

namespace DocSamples

variable {α : Type} {p : α → Bool}

/-- A list that is empty or starts with an element outside of the class `p`. -/
def StopsAt (p : α → Bool) (l : List α) : Prop := ∀ a, l.head? = some a → p a = false

theorem StopsAt.nil : StopsAt p [] := by
  intro a h
  cases h

theorem StopsAt.cons {a : α} {l : List α} (h : p a = false) : StopsAt p (a :: l) := by
  intro b hb
  cases hb
  exact h

theorem StopsAt.replicate {a : α} {n : Nat} (hn : 0 < n) (h : p a = false) (l : List α) :
    StopsAt p (List.replicate n a ++ l) := by
  obtain ⟨k, rfl⟩ := Nat.exists_eq_add_one.2 hn
  rw [List.replicate_succ, List.cons_append]
  exact .cons h

theorem stopsAt_dropWhile (p : α → Bool) (l : List α) : StopsAt p (l.dropWhile p) := by
  intro a h
  have hn := List.head?_dropWhile_not p l
  rw [h] at hn
  exact hn

theorem all_of_mem_takeWhile {l : List α} : ∀ a ∈ l.takeWhile p, p a = true :=
  List.all_eq_true.1 List.all_takeWhile

/-- The longest run of a class is the one after which the class stops. -/
theorem takeWhile_append_of_stopsAt {w r : List α} (hw : ∀ a ∈ w, p a = true)
    (hr : StopsAt p r) : (w ++ r).takeWhile p = w := by
  rw [List.takeWhile_append_of_pos hw]
  cases r with
  | nil => simp
  | cons a r => rw [List.takeWhile_cons_of_neg (by simp [hr a rfl]), List.append_nil]

theorem dropWhile_append_of_stopsAt {w r : List α} (hw : ∀ a ∈ w, p a = true)
    (hr : StopsAt p r) : (w ++ r).dropWhile p = r := by
  rw [List.dropWhile_append_of_pos hw]
  cases r with
  | nil => rfl
  | cons a r => rw [List.dropWhile_cons_of_neg (by simp [hr a rfl])]

theorem takeWhile_congr {q : α → Bool} {l : List α} (h : ∀ a ∈ l, p a = q a) :
    l.takeWhile p = l.takeWhile q := by
  induction l with
  | nil => rfl
  | cons a l ih =>
    have hl := ih fun b hb => h b (List.mem_cons_of_mem a hb)
    rw [List.takeWhile_cons, List.takeWhile_cons, h a List.mem_cons_self, hl]

/-- An element of two lists written one after another stands in the first one or in the second. -/
theorem append_cons_eq_append_iff {a b x y : List α} {c : α} :
    a ++ c :: b = x ++ y ↔
      (∃ x', x = a ++ c :: x' ∧ b = x' ++ y) ∨ ∃ y', y = y' ++ c :: b ∧ a = x ++ y' := by
  rw [List.append_eq_append_iff]
  constructor
  · rintro (⟨z, rfl, hz⟩ | ⟨y', rfl, rfl⟩)
    · cases z with
      | nil => exact .inr ⟨[], hz.symm, by simp⟩
      | cons d x' =>
        cases hz
        exact .inl ⟨x', rfl, rfl⟩
    · exact .inr ⟨y', rfl, rfl⟩
  · rintro (⟨x', rfl, rfl⟩ | ⟨y', rfl, rfl⟩)
    · exact .inl ⟨c :: x', rfl, rfl⟩
    · exact .inr ⟨y', rfl, rfl⟩

/-- A list lies within one of two others if it lacks the element that stands between them. -/
theorem isInfix_or_of_isInfix_append_cons {w a b : List α} {c : α} (h : w <:+: a ++ c :: b)
    (hc : c ∉ w) : w <:+: a ∨ w <:+: b := by
  obtain ⟨s, t, h⟩ := h
  rcases append_cons_eq_append_iff.1 h.symm with ⟨x, hx, rfl⟩ | ⟨y, -, rfl⟩
  · rcases append_cons_eq_append_iff.1 hx.symm with ⟨z, -, rfl⟩ | ⟨z, rfl, -⟩
    · exact .inr ⟨z, t, rfl⟩
    · exact absurd (by simp) hc
  · exact .inl ⟨s, y, rfl⟩

theorem not_mem_iff_forall_bne [BEq α] [LawfulBEq α] {w : List α} {c : α} :
    c ∉ w ↔ ∀ d ∈ w, (d != c) = true := by
  simp only [bne_iff_ne]
  constructor
  · rintro h d hd rfl
    exact h hd
  · intro h hc
    exact h c hc rfl

/-- A list is cut in one way at the first place where an element stands. -/
theorem append_cons_inj_of_not_mem {a b x y : List α} {c : α} (ha : c ∉ a) (hb : c ∉ b) :
    a ++ c :: x = b ++ c :: y ↔ a = b ∧ x = y := by
  constructor
  · intro h
    rcases append_cons_eq_append_iff.1 h with ⟨x', rfl, -⟩ | ⟨y', hy, rfl⟩
    · exact absurd (by simp) hb
    · cases y' with
      | nil =>
        cases hy
        exact ⟨List.append_nil b, rfl⟩
      | cons d y' =>
        cases hy
        exact absurd (by simp) ha
  · rintro ⟨rfl, rfl⟩
    rfl

theorem concat_eq_append_cons_iff {t x r : List α} {c d : α} (hd : d ≠ c) :
    t ++ [c] = x ++ d :: r ↔ ∃ r', r = r' ++ [c] ∧ t = x ++ d :: r' := by
  rw [append_cons_eq_append_iff]
  constructor
  · rintro (⟨y, -, hy⟩ | ⟨y, hy, rfl⟩)
    · simp at hy
    · cases y with
      | nil => exact absurd (List.cons.inj hy).1 hd
      | cons e y =>
        cases hy
        exact ⟨y, rfl, rfl⟩
  · rintro ⟨r', rfl, rfl⟩
    exact .inr ⟨d :: r', rfl, rfl⟩

/-- A text of nothing but blanks. -/
def Text.Blank (t : Text) : Prop := ∀ c ∈ t, isBlank c = true

theorem Text.Blank.nil : Blank [] := by
  intro c hc
  contradiction

theorem Text.blank_space : Blank [' '] := by
  intro c hc
  cases List.mem_singleton.1 hc
  decide

theorem Text.blank_append_iff {t t' : Text} : Blank (t ++ t') ↔ Blank t ∧ Blank t' :=
  List.forall_mem_append

theorem Text.blank_append_break_iff {t t' : Text} :
    Blank (t ++ '\n' :: t') ↔ Blank t ∧ Blank t' := by
  rw [blank_append_iff, Blank, Blank, Blank, List.forall_mem_cons]
  exact and_congr_right fun _ => and_iff_right (by decide)

theorem Text.trimLeft_eq_iff {t s : Text} :
    t.trimLeft = s ↔ StopsAt isBlank s ∧ ∃ w, t = w ++ s ∧ Blank w := by
  constructor
  · rintro rfl
    refine ⟨stopsAt_dropWhile isBlank t, t.takeWhile isBlank, ?_, all_of_mem_takeWhile⟩
    exact List.takeWhile_append_dropWhile.symm
  · rintro ⟨hs, w, rfl, hw⟩
    exact dropWhile_append_of_stopsAt hw hs

end DocSamples
