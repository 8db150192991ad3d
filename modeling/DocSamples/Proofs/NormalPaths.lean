import DocSamples.Path
import DocSamples.Proofs.Lines
import DocSamples.Proofs.Splitting

namespace DocSamples.Path

variable {t w : Text} {p q : Path} {ws : List Text}

/-- A part of a path that leads somewhere. -/
structure IsPart (w : Text) : Prop where
  ne_nil : w ≠ []
  ne_dot : w ≠ ['.']
  slash_not_mem : '/' ∉ w

/-- A path of the form in which paths are read. -/
structure IsNormal (p : Path) : Prop where
  slashes : p.slashes ≤ 2
  parts : ∀ w ∈ p.parts, IsPart w

structure IsRooted (p : Path) : Prop extends p.IsNormal where
  isAbsolute : p.isAbsolute = true

def partsOf (t : Text) : List Text :=
  (t.splitWhere (· == '/')).filter fun w => !w.isEmpty && w != ['.']

theorem isPart_of_mem_partsOf (h : w ∈ partsOf t) : IsPart w := by
  obtain ⟨hw, hleads⟩ := List.mem_filter.1 h
  simp only [Bool.and_eq_true, Bool.not_eq_true', List.isEmpty_eq_false_iff, bne_iff_ne] at hleads
  refine ⟨hleads.1, hleads.2, ?_⟩
  intro hslash
  simpa using Text.eq_false_of_mem_splitWhere hw _ hslash

theorem isNormal_ofText (t : Text) : (ofText t).IsNormal where
  slashes := by
    simp only [ofText]
    split
    · assumption
    · decide
  parts := fun _ hw => isPart_of_mem_partsOf hw

theorem IsNormal.join (hp : p.IsNormal) (hq : q.IsNormal) : (p.join q).IsNormal := by
  unfold Path.join
  split
  · exact hq
  · exact ⟨hp.slashes, fun w hw => (List.mem_append.1 hw).elim (hp.parts w) (hq.parts w)⟩

theorem IsRooted.join (hp : p.IsRooted) (hq : q.IsNormal) : (p.join q).IsRooted := by
  refine ⟨hp.toIsNormal.join hq, ?_⟩
  unfold Path.join
  split
  · assumption
  · exact hp.isAbsolute

theorem join_of_isAbsolute (hq : q.isAbsolute = true) (p : Path) : p.join q = q := if_pos hq

theorem partsOf_slash (t : Text) : partsOf ('/' :: t) = partsOf t := by
  rw [partsOf, Text.splitWhere_cons_of_pos rfl]
  rfl

theorem partsOf_slashes (n : Nat) (t : Text) : partsOf (List.replicate n '/' ++ t) = partsOf t := by
  induction n with
  | zero => rfl
  | succ n ih => rw [List.replicate_succ, List.cons_append, partsOf_slash, ih]

theorem partsOf_join (h : ∀ w ∈ ws, IsPart w) : partsOf (Text.join ['/'] ws) = ws := by
  cases ws with
  | nil => rfl
  | cons w ws =>
    have hsplit : (Text.join ['/'] (w :: ws)).splitWhere (· == '/') = w :: ws := by
      rw [Text.splitWhere_eq_splitOnP, Text.join_eq_intercalate]
      exact List.splitOn_intercalate _ (fun l hl => (h l hl).slash_not_mem) (List.cons_ne_nil w ws)
    rw [partsOf, hsplit, List.filter_eq_self]
    intro l hl
    simp [(h l hl).ne_nil, (h l hl).ne_dot]

theorem stopsAt_join (h : ∀ w ∈ ws, IsPart w) : StopsAt (· == '/') (Text.join ['/'] ws) := by
  cases ws with
  | nil => exact .nil
  | cons w ws =>
    obtain ⟨hne, -, hslash⟩ := h w List.mem_cons_self
    obtain ⟨c, w, rfl⟩ := List.exists_cons_of_ne_nil hne
    have hc : (c == '/') = false := by
      rw [beq_eq_false_iff_ne]
      rintro rfl
      exact hslash List.mem_cons_self
    cases ws <;> exact .cons hc

theorem takeWhile_slashes (h : ∀ w ∈ ws, IsPart w) (n : Nat) :
    (List.replicate n '/' ++ Text.join ['/'] ws).takeWhile (· == '/') = List.replicate n '/' :=
  takeWhile_append_of_stopsAt (fun _ ha => beq_iff_eq.2 (List.eq_of_mem_replicate ha))
    (stopsAt_join h)

theorem text_of_ne_nil (h : List.replicate p.slashes '/' ++ Text.join ['/'] p.parts ≠ []) :
    p.text = List.replicate p.slashes '/' ++ Text.join ['/'] p.parts :=
  if_neg (by simpa using h)

/-- A path in the form in which paths are read is read again from the text it is written as. -/
theorem IsNormal.ofText_text (h : p.IsNormal) : ofText p.text = p := by
  obtain ⟨slashes, parts⟩ := p
  obtain ⟨hslashes, hparts⟩ := h
  by_cases hempty : List.replicate slashes '/' ++ Text.join ['/'] parts = []
  · obtain ⟨hs, hj⟩ := List.append_eq_nil_iff.1 hempty
    have hjoin := partsOf_join hparts
    rw [hj] at hjoin
    cases hjoin
    cases slashes with
    | zero => rfl
    | succ n => cases hs
  · have hread : ofText (List.replicate slashes '/' ++ Text.join ['/'] parts) =
        ⟨if slashes ≤ 2 then slashes else 1, parts⟩ := by
      rw [ofText, takeWhile_slashes hparts, List.length_replicate, ← partsOf, partsOf_slashes,
        partsOf_join hparts]
    rw [text_of_ne_nil hempty, hread, if_pos hslashes]

end DocSamples.Path
