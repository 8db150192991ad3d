import DocSamples.Proofs.Ladder
import DocSamples.Proofs.Lines

namespace DocSamples

variable {σ : Type} {check : Checker σ} {t : Text} {m m' : σ} {s : Strategy} {a : Attempt}
  {tried : List Attempt}

namespace Strategy

def linesAbove (s : Strategy) : List Text := (Text.pieces s.header).dropLast

def linesBelow (s : Strategy) : List Text := (Text.pieces s.footer).tail

/-- A strategy whose header and footer share no line with the sample, and whose offset counts the
lines of its header. -/
structure KeepsLines (s : Strategy) : Prop where
  header : s.header = [] ∨ ∃ h, s.header = h ++ ['\n']
  footer : s.footer = [] ∨ ∃ r, s.footer = '\n' :: r
  lineOffset : s.lineOffset = s.linesAbove.length

theorem keepsLines_identity : identity.KeepsLines := ⟨.inl rfl, .inl rfl, rfl⟩

theorem keepsLines_scopeWrap : scopeWrap.KeepsLines where
  header := .inr ⟨scopeHeader.dropLast, by decide⟩
  footer := .inr ⟨_, rfl⟩
  lineOffset := by decide

theorem keepsLines_testWrap : testWrap.KeepsLines where
  header := .inr ⟨testWrap.header.dropLast, by decide⟩
  footer := .inr ⟨_, rfl⟩
  lineOffset := by decide

theorem mem_all_iff : s ∈ all ↔ s = identity ∨ s = scopeWrap ∨ s = testWrap := by
  simp only [all, List.mem_cons, List.not_mem_nil, or_false]

theorem keepsLines_of_mem_all (h : s ∈ all) : s.KeepsLines := by
  rcases mem_all_iff.1 h with rfl | rfl | rfl
  · exact keepsLines_identity
  · exact keepsLines_scopeWrap
  · exact keepsLines_testWrap

theorem KeepsLines.pieces_header (h : s.KeepsLines) (t : Text) :
    Text.pieces (s.header ++ t) = s.linesAbove ++ Text.pieces t := by
  unfold linesAbove
  rcases h.header with hs | ⟨w, hs⟩
  · rw [hs]
    rfl
  · rw [hs, List.append_assoc, List.singleton_append, Text.pieces_append_cons,
      Text.pieces_append_cons, show Text.pieces [] = [[]] from rfl, List.dropLast_concat]

theorem KeepsLines.pieces_footer (h : s.KeepsLines) (t : Text) :
    Text.pieces (t ++ s.footer) = Text.pieces t ++ s.linesBelow := by
  unfold linesBelow
  rcases h.footer with hs | ⟨w, hs⟩
  · rw [hs, List.append_nil, show Text.pieces [] = [[]] from rfl, List.tail_cons, List.append_nil]
  · rw [hs, Text.pieces_append_cons, ← List.nil_append ('\n' :: w), Text.pieces_append_cons]
    rfl

/-- The lines of the program are those of the sample with some before and some after them. -/
theorem KeepsLines.pieces_apply (h : s.KeepsLines) (t : Text) :
    Text.pieces (s.apply t) = s.linesAbove ++ Text.pieces t ++ s.linesBelow := by
  rw [apply, h.pieces_footer, h.pieces_header]

theorem fallback?_mem_all (h : fallback? t = some s) : s ∈ all := by
  obtain ⟨p, hp, rfl⟩ := Option.map_eq_some_iff.1 h
  have hmem := List.mem_of_find?_eq_some hp
  simp only [fallbacks, List.mem_cons, List.not_mem_nil, or_false] at hmem
  rcases hmem with rfl | rfl <;> simp [all]

end Strategy

theorem Climbs.strategy_mem_all (h : Climbs check t m tried m') (ha : a ∈ tried) :
    a.strategy ∈ Strategy.all := by
  cases h with
  | none => contradiction
  | direct =>
    cases List.mem_singleton.1 ha
    exact List.mem_cons_self
  | retried _ _ _ hs _ =>
    simp only [List.mem_cons, List.not_mem_nil, or_false] at ha
    rcases ha with rfl | rfl
    · exact List.mem_cons_self
    · exact Strategy.fallback?_mem_all hs

theorem Climbs.keepsLines (h : Climbs check t m (tried ++ [a]) m') : a.strategy.KeepsLines :=
  Strategy.keepsLines_of_mem_all (h.strategy_mem_all (by simp))

end DocSamples
