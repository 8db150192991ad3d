import DocSamples.Proofs.LineMapping

namespace DocSamples

open Run

variable {σ : Type} {check : Checker σ} {t : Text} {m m' : σ} {o : Outcome} {s : Strategy} {j : Nat}

theorem Outcome.remap_of_line_eq_some {offset l n : Int} (h : o.line = some l)
    (hn : max 1 (l - offset) = n) : o.remap offset = { o with line := some n } := by
  rw [remap, h, Option.map_some, hn]

namespace Strategy

theorem length_linesAbove (s : Strategy) : s.linesAbove.length = s.header.count '\n' := by
  rw [linesAbove, List.length_dropLast, Text.length_pieces, Nat.add_sub_cancel]

theorem keepsLines_iff :
    s.KeepsLines ↔ Text.EndsLine s.header ∧ Text.AtLineEnd s.footer ∧
      s.lineOffset = s.header.count '\n' := by
  have hheader : Text.EndsLine s.header ↔ s.header = [] ∨ ∃ h, s.header = h ++ ['\n'] :=
    or_congr_right List.getLast?_eq_some_iff
  have hfooter : Text.AtLineEnd s.footer ↔ s.footer = [] ∨ ∃ r, s.footer = '\n' :: r :=
    or_congr_right List.head?_eq_some_iff
  rw [hheader, hfooter, ← length_linesAbove]
  exact ⟨fun h => ⟨h.header, h.footer, h.lineOffset⟩, fun h => ⟨h.1, h.2.1, h.2.2⟩⟩

theorem KeepsLines.pieces_header_eq (h : s.KeepsLines) :
    Text.pieces s.header = s.linesAbove ++ [[]] := by
  have hheader := h.pieces_header []
  rwa [List.append_nil] at hheader

theorem KeepsLines.pieces_footer_eq (h : s.KeepsLines) :
    Text.pieces s.footer = [] :: s.linesBelow :=
  h.pieces_footer []

/-- The lines of a sample stand in its program as far down as the header is long. -/
theorem KeepsLines.lineFrom?_apply (h : s.KeepsLines) (hj : 1 ≤ j ∧ j ≤ (Text.pieces t).length) :
    lineFrom? 1 (Text.pieces (s.apply t)) (s.lineOffset + j).toNat =
      lineFrom? 1 (Text.pieces t) j := by
  obtain ⟨i, rfl⟩ := Nat.exists_eq_add_of_le hj.1
  rw [lineFrom?_add, Nat.add_comm]
  exact Attempt.lineFrom?_program (a := ⟨s, .accepted⟩) h (by omega)

theorem ends_attempt_of_failure (h : check.Answers (s.apply t) m o m')
    (ho : o.isSuccess = false) :
    Ends (s.attempt check t) m (o.remap s.lineOffset) [s.apply t] m' := by
  have hends := ends_attempt h
  rwa [Attempt.reported, if_neg (by simp [ho])] at hends

/-- A strategy whose header ends its last line, whose footer starts a new one and whose offset
counts the line feeds of the header writes the lines of a sample between its own. An attempt takes
the line of a failure back to the one of the sample, and those of the header to the first one. All
strategies that are tried are of this kind. -/
theorem attempt_recovers_lines :
    (∀ s ∈ all, Text.EndsLine s.header ∧ Text.AtLineEnd s.footer ∧
      s.lineOffset = s.header.count '\n') ∧
    ∀ (s : Strategy) (t : Text), Text.EndsLine s.header → Text.AtLineEnd s.footer →
      s.lineOffset = s.header.count '\n' →
      (Text.pieces (s.apply t) = s.linesAbove ++ Text.pieces t ++ s.linesBelow ∧
        Text.pieces s.header = s.linesAbove ++ [[]] ∧
        Text.pieces s.footer = [] :: s.linesBelow) ∧
      (∀ j : Nat, 1 ≤ j ∧ j ≤ (Text.pieces t).length →
        ∃ line, lineFrom? 1 (Text.pieces t) j = some line ∧
          lineFrom? 1 (Text.pieces (s.apply t)) (s.lineOffset + j).toNat = some line) ∧
      ∀ (check : Checker σ) (m m' : σ) (o : Outcome),
        check.Answers (s.apply t) m o m' → o.isSuccess = false →
        ∃ o', Ends (s.attempt check t) m o' [s.apply t] m' ∧
          (∀ j : Nat, 1 ≤ j ∧ j ≤ (Text.pieces t).length → o.line = some (s.lineOffset + j) →
            o' = { o with line := some j }) ∧
          (∀ l, 1 ≤ l ∧ l ≤ s.lineOffset → o.line = some l → o' = { o with line := some 1 }) ∧
          (o.line = none → o' = o) := by
  refine ⟨fun s hs => keepsLines_iff.1 (keepsLines_of_mem_all hs), ?_⟩
  intro s t hheader hfooter hoffset
  have hkeeps := keepsLines_iff.2 ⟨hheader, hfooter, hoffset⟩
  refine ⟨⟨hkeeps.pieces_apply t, hkeeps.pieces_header_eq, hkeeps.pieces_footer_eq⟩, ?_, ?_⟩
  · intro j hj
    have hwithin : 1 ≤ j ∧ j < 1 + (Text.pieces t).length := by omega
    obtain ⟨line, hline⟩ := exists_lineFrom? hwithin
    exact ⟨line, hline, (hkeeps.lineFrom?_apply hj).trans hline⟩
  · intro check m m' o h ho
    refine ⟨_, ends_attempt_of_failure h ho, ?_, ?_, Outcome.remap_of_line_eq_none⟩
    · intro j hj hline
      exact Outcome.remap_of_line_eq_some hline (by omega)
    · intro l hl hline
      exact Outcome.remap_of_line_eq_some hline (by omega)

def boxed : Strategy := ⟨"boxed", "fn a()\na \x7b\n", "\n\x7d", 2⟩

theorem attempt_recovers_lines_boxed :
    Text.pieces (boxed.apply "x\ny\n") = ["fn a()", "a \x7b", "x", "y", "", "\x7d"] ∧
      ∃ o', Ends (boxed.attempt rejectsFourthLine "x\ny\n") () o' [boxed.apply "x\ny\n"] () ∧
        o' = ⟨.syntaxError, "expected", some 2⟩ := by
  obtain ⟨⟨hpieces, -⟩, -, hattempt⟩ :=
    (attempt_recovers_lines (σ := Unit)).2 boxed "x\ny\n" (.inr rfl) (.inr rfl) rfl
  obtain ⟨o', hends, hline, -⟩ :=
    hattempt rejectsFourthLine () () ⟨.syntaxError, "expected", some 4⟩ ⟨rfl, rfl⟩ rfl
  exact ⟨hpieces.trans (by decide), o', hends, hline 2 (by decide) rfl⟩

end Strategy

end DocSamples
