import DocSamples.Text.Lines

namespace DocSamples.Text

theorem splitWhere_cons_of_pos {p : Char → Bool} {c : Char} (h : p c = true) (t : Text) :
    splitWhere p (c :: t) = [] :: splitWhere p t := by
  rw [splitWhere, List.foldr_cons, if_pos h]
  rfl

theorem splitWhere_cons_of_neg {p : Char → Bool} {c : Char} {t w : Text} {ws : List Text}
    (h : p c = false) (hs : splitWhere p t = w :: ws) :
    splitWhere p (c :: t) = (c :: w) :: ws := by
  unfold splitWhere at hs ⊢
  rw [List.foldr_cons, hs, if_neg (by simp [h])]

theorem splitWhere_eq_splitOnP (p : Char → Bool) (t : Text) : splitWhere p t = t.splitOnP p := by
  induction t with
  | nil => rfl
  | cons c t ih =>
    rw [List.splitOnP_cons_eq_if_modifyHead, ← ih]
    cases hc : p c with
    | true => rw [splitWhere_cons_of_pos hc, if_pos rfl]
    | false =>
      cases hs : splitWhere p t with
      | nil => exact absurd (ih ▸ hs) (List.splitOnP_ne_nil p t)
      | cons w ws =>
        rw [splitWhere_cons_of_neg hc hs, if_neg Bool.false_ne_true]
        rfl

theorem pieces_eq_splitOn (t : Text) : pieces t = t.splitOn '\n' := splitWhere_eq_splitOnP _ _

theorem join_eq_intercalate (sep : Text) (ls : List Text) : join sep ls = sep.intercalate ls := by
  fun_induction join sep ls with
  | case1 => rfl
  | case2 => simp
  | case3 w ws hws ih => rw [ih, List.intercalate_cons_of_ne_nil hws]

theorem joinLines_eq_intercalate (ls : List Text) : joinLines ls = ['\n'].intercalate ls :=
  join_eq_intercalate ['\n'] ls

theorem pieces_ne_nil (t : Text) : pieces t ≠ [] := by
  rw [pieces_eq_splitOn]
  exact List.splitOn_ne_nil _ _

theorem pieces_of_not_mem {t : Text} (h : '\n' ∉ t) : pieces t = [t] := by
  rw [pieces_eq_splitOn, List.splitOn_eq_singleton h]

theorem pieces_append_cons (a b : Text) : pieces (a ++ '\n' :: b) = pieces a ++ pieces b := by
  simp only [pieces_eq_splitOn, List.splitOn_append_cons_self]

theorem pieces_joinLines {ls : List Text} (hls : ls ≠ []) (h : ∀ l ∈ ls, '\n' ∉ l) :
    pieces (joinLines ls) = ls := by
  rw [pieces_eq_splitOn, joinLines_eq_intercalate, List.splitOn_intercalate _ h hls]

theorem splitWhere_ne_nil (p : Char → Bool) (t : Text) : splitWhere p t ≠ [] := by
  rw [splitWhere_eq_splitOnP]
  exact List.splitOnP_ne_nil p t

theorem eq_false_of_mem_splitWhere {p : Char → Bool} {t w : Text} (h : w ∈ splitWhere p t) :
    ∀ c ∈ w, p c = false := by
  induction t generalizing w with
  | nil =>
    cases List.mem_singleton.1 h
    simp
  | cons c t ih =>
    cases hc : p c with
    | true =>
      rw [splitWhere_cons_of_pos hc] at h
      rcases List.mem_cons.1 h with rfl | h
      · simp
      · exact ih h
    | false =>
      obtain ⟨v, vs, hs⟩ := List.exists_cons_of_ne_nil (splitWhere_ne_nil p t)
      rw [splitWhere_cons_of_neg hc hs] at h
      rw [hs] at ih
      rcases List.mem_cons.1 h with rfl | h
      · exact List.forall_mem_cons.2 ⟨hc, ih List.mem_cons_self⟩
      · exact ih (List.mem_cons_of_mem v h)

theorem not_mem_of_mem_pieces {t l : Text} (h : l ∈ pieces t) : '\n' ∉ l := by
  intro hl
  simpa using eq_false_of_mem_splitWhere h _ hl

/-- A text that holds nothing or ends with a line feed. -/
def EndsLine (t : Text) : Prop := t = [] ∨ t.getLast? = some '\n'

theorem EndsLine.of_append {w t : Text} (h : EndsLine (w ++ t)) : EndsLine t := by
  cases t with
  | nil => exact .inl rfl
  | cons c t =>
    rcases h with h | h
    · simp at h
    · have hlast := List.getLast?_eq_some_getLast (List.cons_ne_nil c t)
      rw [List.getLast?_append, hlast] at h
      exact .inr (hlast.trans h)

theorem endsLine_append_break_iff {a b : Text} : EndsLine (a ++ '\n' :: b) ↔ EndsLine b := by
  constructor
  · intro h
    rw [List.append_cons] at h
    exact h.of_append
  · rintro (rfl | h)
    · exact .inr List.getLast?_concat
    · right
      rw [List.append_cons, List.getLast?_append, h]
      rfl

theorem EndsLine.eq_nil {t : Text} (h : EndsLine t) (hn : '\n' ∉ t) : t = [] :=
  h.resolve_right fun hl => hn (List.mem_of_getLast? hl)

/-- A text that holds nothing or starts with a line feed. -/
def AtLineEnd (t : Text) : Prop := t = [] ∨ t.head? = some '\n'

/-- Induction on the lines of a text. -/
@[elab_as_elim]
theorem lineInduction {motive : Text → Prop} (unbroken : ∀ l, '\n' ∉ l → motive l)
    (line : ∀ l t, '\n' ∉ l → motive t → motive (l ++ '\n' :: t)) (t : Text) : motive t := by
  by_cases h : '\n' ∈ t
  · obtain ⟨l, r, ht, hl⟩ := List.eq_append_cons_of_mem h
    have hr : r.length < t.length := by
      rw [ht, List.length_append, List.length_cons]
      omega
    rw [ht]
    exact line l r hl (lineInduction unbroken line r)
  · exact unbroken t h
termination_by t.length

theorem length_pieces (t : Text) : (pieces t).length = t.count '\n' + 1 := by
  induction t using lineInduction with
  | unbroken l hl =>
    rw [pieces_of_not_mem hl, List.count_eq_zero_of_not_mem hl, List.length_singleton]
  | line l t hl ih =>
    rw [pieces_append_cons, pieces_of_not_mem hl, List.length_append, ih, List.count_append,
      List.count_eq_zero_of_not_mem hl, List.count_cons_self, List.length_singleton]
    omega

/-- The breaks that end the lines of a document. -/
def breaks : List Text := [['\r', '\n'], ['\r'], ['\n']]

/-- The lines of a document and the breaks that end them. A `\r` before a `\n` is no break of its
own, and only the last line may end without a break. -/
inductive Broken : Text → List Text → Prop
  | empty : Broken [] []
  | last {l : Text} (hl : l ≠ []) (hn : '\n' ∉ l) (hr : '\r' ∉ l) : Broken l [l]
  | line {l b t : Text} {ls : List Text} (hn : '\n' ∉ l) (hr : '\r' ∉ l) (hb : b ∈ breaks)
      (hcr : b = ['\r'] → t.head? ≠ some '\n') (ht : Broken t ls) : Broken (l ++ b ++ t) (l :: ls)

theorem unifyBreaks_append {l t : Text} (h : '\r' ∉ l) :
    unifyBreaks (l ++ t) = l ++ unifyBreaks t := by
  induction l with
  | nil => rfl
  | cons c l ih =>
    simp only [List.mem_cons, not_or] at h
    rw [List.cons_append, unifyBreaks.eq_def]
    split
    · contradiction
    · rename_i heq
      exact absurd (List.cons.inj heq).1.symm h.1
    · rename_i heq
      cases heq
      rw [if_neg (Ne.symm h.1), ih h.2]
      rfl

theorem unifyBreaks_break {b t : Text} (hb : b ∈ breaks)
    (hcr : b = ['\r'] → t.head? ≠ some '\n') : unifyBreaks (b ++ t) = '\n' :: unifyBreaks t := by
  simp only [breaks, List.mem_cons, List.not_mem_nil, or_false] at hb
  rcases hb with rfl | rfl | rfl
  · rfl
  · cases t with
    | nil => rfl
    | cons c t =>
      have hc : c ≠ '\n' := fun e => hcr rfl (by simp [e])
      rw [List.singleton_append, unifyBreaks.eq_def]
      split
      · contradiction
      · rename_i heq
        cases heq
        exact absurd rfl hc
      · rename_i heq
        cases heq
        rfl
  · rfl

theorem lines_cons {l b t : Text} (hn : '\n' ∉ l) (hr : '\r' ∉ l) (hb : b ∈ breaks)
    (hcr : b = ['\r'] → t.head? ≠ some '\n') : lines (l ++ b ++ t) = l :: lines t := by
  have hp : pieces (unifyBreaks (l ++ b ++ t)) = l :: pieces (unifyBreaks t) := by
    rw [List.append_assoc, unifyBreaks_append hr, unifyBreaks_break hb hcr, pieces_append_cons,
      pieces_of_not_mem hn]
    rfl
  have hne := pieces_ne_nil (unifyBreaks t)
  simp only [lines, hp, List.getLast?_cons_of_ne_nil hne, List.dropLast_cons_of_ne_nil hne]
  split <;> rfl

theorem Broken.lines_eq {t : Text} {ls : List Text} (h : Broken t ls) : lines t = ls := by
  induction h with
  | empty => rfl
  | @last l hl hn hr =>
    simp only [lines, unifyBreaks_of_not_mem hr, pieces_of_not_mem hn]
    simp [hl]
  | line hn hr hb hcr ht ih => rw [lines_cons hn hr hb hcr, ih]

theorem Broken.cons {t : Text} {ls : List Text} {c : Char} (h : Broken t ls) (hn : c ≠ '\n')
    (hr : c ≠ '\r') : ∃ ls', Broken (c :: t) ls' := by
  cases h with
  | empty => exact ⟨_, .last (by simp) (by simp [hn.symm]) (by simp [hr.symm])⟩
  | last hl hn' hr' => exact ⟨_, .last (by simp) (by simp [hn.symm, hn']) (by simp [hr.symm, hr'])⟩
  | @line l b t ls hn' hr' hb hcr ht =>
    exact ⟨_, .line (l := c :: l) (by simp [hn.symm, hn']) (by simp [hr.symm, hr']) hb hcr ht⟩

theorem exists_broken (t : Text) : ∃ ls, Broken t ls := by
  fun_induction unifyBreaks t with
  | case1 => exact ⟨_, .empty⟩
  | case2 t ih =>
    obtain ⟨ls, h⟩ := ih
    exact ⟨_, .line (l := []) (b := ['\r', '\n']) (by simp) (by simp) (by simp [breaks])
      (by simp) h⟩
  | case3 c t hcr ih =>
    obtain ⟨ls, h⟩ := ih
    by_cases hr : c = '\r'
    · subst hr
      refine ⟨_, .line (l := []) (b := ['\r']) (by simp) (by simp) (by simp [breaks]) ?_ h⟩
      intro _ ht
      cases t with
      | nil => simp at ht
      | cons d t => exact hcr t rfl (by simpa using ht)
    · by_cases hn : c = '\n'
      · subst hn
        exact ⟨_, .line (l := []) (b := ['\n']) (by simp) (by simp) (by simp [breaks]) (by simp) h⟩
      · exact h.cons hn hr

/-- A document has exactly one division into lines, and breaks nowhere else. -/
theorem broken_iff {t : Text} {ls : List Text} : Broken t ls ↔ lines t = ls := by
  constructor
  · exact Broken.lines_eq
  · rintro rfl
    obtain ⟨ls, h⟩ := exists_broken t
    rw [h.lines_eq]
    exact h

/-- Lines written one after another, each ended by a break, which the last one may lack. -/
inductive Written : List Text → Text → Prop
  | nil : Written [] []
  | last (l : Text) : Written [l] l
  | line {l b t : Text} {ls : List Text} (hb : b ∈ breaks)
      (hcr : b = ['\r'] → t.head? ≠ some '\n') (ht : Written ls t) : Written (l :: ls) (l ++ b ++ t)

/-- A document has the lines of which it is written, but for an empty last one without a break. -/
theorem Written.broken {t : Text} {ls : List Text} (h : Written ls t)
    (hls : ∀ l ∈ ls, '\n' ∉ l ∧ '\r' ∉ l) :
    Broken t ls ∨ ∃ ls', ls = ls' ++ [[]] ∧ Broken t ls' := by
  induction h with
  | nil => exact .inl .empty
  | last l =>
    by_cases hl : l = []
    · subst hl
      exact .inr ⟨[], rfl, .empty⟩
    · obtain ⟨hn, hr⟩ := hls l List.mem_cons_self
      exact .inl (.last hl hn hr)
  | @line l b t ls hb hcr ht ih =>
    obtain ⟨hn, hr⟩ := hls l List.mem_cons_self
    rcases ih fun l' hl' => hls l' (List.mem_cons_of_mem l hl') with hbroken | ⟨ls', rfl, hbroken⟩
    · exact .inl (.line hn hr hb hcr hbroken)
    · exact .inr ⟨l :: ls', rfl, .line hn hr hb hcr hbroken⟩

theorem joinLines_pieces (t : Text) : joinLines (pieces t) = t := by
  rw [joinLines_eq_intercalate, pieces_eq_splitOn, List.intercalate_splitOn]

theorem mem_join_of_mem {sep l : Text} {ls : List Text} {c : Char} (hl : l ∈ ls) (hc : c ∈ l) :
    c ∈ join sep ls := by
  fun_induction join sep ls with
  | case1 => contradiction
  | case2 w =>
    cases List.mem_singleton.1 hl
    exact hc
  | case3 w ws hws ih =>
    rcases List.mem_cons.1 hl with rfl | hl
    · exact List.mem_append_left _ (List.mem_append_left _ hc)
    · exact List.mem_append_right _ (ih hl)

theorem mem_join {sep : Text} {ls : List Text} {c : Char} (hsep : c ∉ sep) :
    c ∈ join sep ls ↔ ∃ l ∈ ls, c ∈ l := by
  constructor
  · intro h
    fun_induction join sep ls with
    | case1 => contradiction
    | case2 w => exact ⟨w, List.mem_cons_self, h⟩
    | case3 w ws hws ih =>
      simp only [List.mem_append, hsep, or_false] at h
      rcases h with h | h
      · exact ⟨w, List.mem_cons_self, h⟩
      · obtain ⟨l, hl, hmem⟩ := ih h
        exact ⟨l, List.mem_cons_of_mem w hl, hmem⟩
  · rintro ⟨l, hl, hc⟩
    exact mem_join_of_mem hl hc

theorem mem_of_mem_pieces {t l : Text} {c : Char} (hl : l ∈ pieces t) (hc : c ∈ l) : c ∈ t := by
  rw [← joinLines_pieces t]
  exact mem_join_of_mem hl hc

theorem not_mem_of_mem_lines {t l : Text} (h : l ∈ lines t) : '\n' ∉ l := by
  have hl : l ∈ pieces (unifyBreaks t) := by
    simp only [lines] at h
    split at h
    · exact List.dropLast_subset _ h
    · exact h
  exact not_mem_of_mem_pieces hl

end DocSamples.Text
