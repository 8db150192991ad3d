import DocSamples.Proofs.Embedding
import DocSamples.Proofs.Segmentation
import DocSamples.Proofs.Walking

namespace DocSamples

open Run

variable {σ : Type} {check : Checker σ} {settings : Settings} {m m' : σ} {t : Text} {a : Attempt}
  {tried : List Attempt} {before after : List Block} {b : Block} {d : Document}

namespace Block

/-- The sample of a fence has the lines of its body, and one empty line where there are none. -/
theorem pieces_text (hin : ∀ l ∈ b.body, '\n' ∉ l) (hb : b.body ≠ []) :
    Text.pieces b.fence.text = b.sample := by
  apply Text.pieces_joinLines
  · simpa [sample] using hb
  · intro l hl
    obtain ⟨line, hline, rfl⟩ := List.mem_map.1 hl
    rw [Fence.dropIndent_eq_drop]
    intro hn
    exact hin line hline (List.mem_of_mem_drop hn)

theorem Stands.mem_of_mem_body {flavor : Flavor} {first : Nat} {ls : List Text} {l : Text}
    (h : b.Stands flavor first ls) (hl : l ∈ b.body) : l ∈ ls := by
  obtain ⟨i, hi⟩ := List.mem_iff_getElem?.1 hl
  have hline := h.body i l hi
  have hb := lineFrom?_bounds hline
  rw [lineFrom?, if_pos hb.1] at hline
  exact List.mem_of_getElem? hline

theorem Stands.pieces_text {flavor : Flavor} {document : Text}
    (h : b.Stands flavor 1 (Text.lines document)) (hb : b.body ≠ []) :
    Text.pieces b.fence.text = b.sample :=
  Block.pieces_text (fun _ hl => Text.not_mem_of_mem_lines (h.mem_of_mem_body hl)) hb

end Block

namespace Attempt

/-- The line of a sample stands in the program as far down as the header is long. -/
theorem lineFrom?_program (h : a.strategy.KeepsLines) {i : Nat} (hi : i < (Text.pieces t).length) :
    lineFrom? 1 (Text.pieces (a.program t)) (a.strategy.lineOffset + (i + 1 : Nat)).toNat =
      (Text.pieces t)[i]? := by
  have hn : (a.strategy.lineOffset + (i + 1 : Nat)).toNat =
      1 + (a.strategy.linesAbove.length + i) := by
    rw [h.lineOffset]
    omega
  rw [hn, lineFrom?_add, program, h.pieces_apply, List.append_assoc,
    List.getElem?_append_right (by omega), List.getElem?_append_left (by omega)]
  congr 1
  omega

/-- The line of a failure is that of the program less the lines of the header. -/
theorem line_verdict (ha : a.outcome.isSuccess = false) :
    (Verdict.ofAttempts t (tried ++ [a])).line =
      a.outcome.line.map fun l => max 1 (l - a.strategy.lineOffset) := by
  rw [Verdict.ofAttempts_of_failure ha, Verdict.line, reported, if_neg (by simp [ha])]
  rfl

end Attempt

namespace Document

/-- A failure that a checker reports at a line of the first failing sample is placed at the line of
the document which, without the indentation of the fence, is that line of the sample. The checker
was asked about a program that has it as far below its header. -/
theorem failure_line_of_sample_line {j : Nat}
    (hseg : Segmented d.flavor 1 (Text.lines d.text) (before ++ b :: after))
    (hfirst : FirstFailure check settings m (before.map Block.fence) b.fence tried a)
    (hj : 1 ≤ j ∧ j ≤ b.body.length)
    (hline : a.outcome.line = some (a.strategy.lineOffset + j)) :
    ∃ failure s ls line sampleLine,
      Fence.scan d.flavor d.text = (before ++ b :: after).map Block.fence ∧
      Run.perform m (d.validate check settings) = (.ok (.error failure), s) ∧
      s.asked.getLast? = some (a.program b.fence.text) ∧
      failure.line = b.startLine + j ∧
      Text.Broken d.text ls ∧
      lineFrom? 1 ls (b.startLine + j) = some line ∧
      Stripped b.opening.indent line sampleLine ∧
      lineFrom? 1 (Text.pieces b.fence.text) j = some sampleLine ∧
      lineFrom? 1 (Text.pieces (a.program b.fence.text)) (a.strategy.lineOffset + j).toNat =
        some sampleLine := by
  obtain ⟨i, rfl⟩ : ∃ i, j = i + 1 := ⟨j - 1, by omega⟩
  have hi : i < b.body.length := by omega
  have hscan := Fence.scan_eq_of_segmented hseg
  have hstands := hseg.stands b (by simp)
  obtain ⟨texts, m', hends⟩ := hfirst.validate (by rw [hscan, List.map_append, List.map_cons])
  obtain ⟨journal, hrun⟩ := hends [] []
  obtain ⟨_, m₁, m₂, _, hclimb⟩ := hfirst.reached
  have hdoc : lineFrom? 1 (Text.lines d.text) (b.startLine + (i + 1)) = some b.body[i] := by
    rw [← hstands.body i _ (List.getElem?_eq_getElem hi)]
    congr 1
    omega
  have hpieces := hstands.pieces_text (List.ne_nil_of_length_pos (by omega))
  have hsample : (Text.pieces b.fence.text)[i]? =
      some (Fence.dropIndent b.opening.indent b.body[i]) := by
    rw [hpieces, Block.sample, List.getElem?_map, List.getElem?_eq_getElem hi]
    rfl
  have hlen := (List.getElem?_eq_some_iff.1 hsample).1
  have hprogram := Attempt.lineFrom?_program hclimb.keepsLines hlen
  refine ⟨_, _, Text.lines d.text, b.body[i], Fence.dropIndent b.opening.indent b.body[i], hscan,
    hrun, ?_, ?_, Text.broken_iff.2 rfl, hdoc, Fence.stripped_dropIndent _ _, ?_,
    hprogram.trans hsample⟩
  · simp
  · simp only [failureOf, Attempt.line_verdict hfirst.rejected, hline, Option.map_some,
      Option.getD_some]
    change (b.startLine : Int) + _ = _
    omega
  · rw [Nat.add_comm, lineFrom?_add, hsample]

end Document

def rejectsFourthLine : Checker Unit := fun _ _ => ⟨.ok ⟨.syntaxError, "expected", some 4⟩, (), []⟩

/-- A document whose one sample is an assertion; a test around it puts it on the fourth line. -/
def Document.indentedAssertion : Document :=
  ⟨none, .markdown, "  ~~~scaf\r\n  assert (x)\r\n  ~~~\r\n"⟩

def Block.indentedAssertion : Block := ⟨1, ⟨2, '~', 3, "scaf"⟩, ["  assert (x)"], true⟩

theorem Block.segmented_indentedAssertion :
    Segmented .markdown 1 (Text.lines Document.indentedAssertion.text)
      ([] ++ Block.indentedAssertion :: []) := by
  have ho : Opens .markdown "  ~~~scaf" indentedAssertion.opening :=
    Fence.opening?_sound (by decide)
  have hclose : Closes .markdown indentedAssertion.opening "  ~~~" := Fence.closes_sound (by decide)
  have hin : ∀ l ∈ indentedAssertion.body, ¬ Closes .markdown indentedAssertion.opening l :=
    List.forall_mem_singleton.2 (ho.not_closes rfl)
  exact .closedBlock 1 ho hin hclose

theorem Document.scan_indentedAssertion :
    Fence.scan Document.indentedAssertion.flavor Document.indentedAssertion.text =
      [] ++ Block.indentedAssertion.fence :: [] :=
  Fence.scan_eq_of_segmented Block.segmented_indentedAssertion

theorem Document.failure_line_of_indentedAssertion :
    ∃ failure s,
      Run.perform () (indentedAssertion.validate rejectsFourthLine (.default ⟨0, []⟩)) =
        (.ok (.error failure), s) ∧
      s.asked.getLast? = some (Strategy.testWrap.apply "assert (x)") ∧ failure.line = 2 := by
  have hclimb : Climbs rejectsFourthLine "assert (x)" ()
      ([⟨.identity, ⟨.syntaxError, "expected", some 4⟩⟩] ++
        [⟨.testWrap, ⟨.syntaxError, "expected", some 4⟩⟩]) () :=
    .retried (by decide) ⟨rfl, rfl⟩ rfl (by decide) ⟨rfl, rfl⟩
  have hfirst : FirstFailure rejectsFourthLine (.default ⟨0, []⟩) () (List.map Block.fence [])
      Block.indentedAssertion.fence _ _ := ⟨by decide, rfl, [], (), (), .nil, hclimb⟩
  obtain ⟨failure, s, -, -, -, -, hrun, hasked, hline, -⟩ :=
    failure_line_of_sample_line (d := indentedAssertion) (j := 1) Block.segmented_indentedAssertion
      hfirst (by decide) rfl
  exact ⟨failure, s, hrun, hasked, hline⟩

end DocSamples
