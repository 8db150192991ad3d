import DocSamples.Proofs.Segmentation

namespace DocSamples

variable {flavor : Flavor} {ls ls' : List Text} {a b : Text} {blocks : List Block}

namespace Text

theorem not_endsLine_return (w : Text) : ¬ EndsLine (w ++ ['\r']) := by
  intro h
  rcases h with h | h
  · simp at h
  · rw [List.getLast?_concat] at h
    contradiction

theorem Broken.append (h : Broken a ls) (ha : EndsLine a) (h' : Broken b ls') :
    Broken (a ++ b) (ls ++ ls') := by
  induction h with
  | empty => exact h'
  | last hl hn hr =>
    rcases ha with ha | ha
    · contradiction
    · exact absurd (List.mem_of_getLast? ha) hn
  | @line l w t ls hn hr hb hcr ht ih =>
    rw [List.append_assoc, List.cons_append]
    apply Broken.line hn hr hb
    · -- A `\r` at the very end would take a `\n` at the start of what follows for its own.
      rintro rfl
      cases t with
      | nil =>
        rw [List.append_nil] at ha
        exact absurd ha (not_endsLine_return l)
      | cons c t => exact hcr rfl
    · exact ih ha.of_append

theorem lines_append (ha : EndsLine a) (b : Text) : lines (a ++ b) = lines a ++ lines b :=
  ((broken_iff.2 rfl).append ha (broken_iff.2 rfl)).lines_eq

end Text

namespace Fence

def below (k : Nat) (f : Fence) : Fence := { f with startLine := f.startLine + k }

/-- The number of the first line is no more than where the scanner starts to count. -/
theorem scanFrom_add (flavor : Flavor) (n k : Nat) (ls : List Text) :
    scanFrom flavor (n + k) ls = (scanFrom flavor n ls).map (below k) := by
  fun_induction scanFrom flavor n ls with
  | case1 n =>
    rw [scanFrom]
    rfl
  | case2 n line ls hnone ih =>
    rw [scanFrom, hnone, ← ih, Nat.add_right_comm]
  | case3 n line ls o hsome body ih =>
    have hnumber : n + k + body.length + 2 = n + body.length + 2 + k := by omega
    rw [scanFrom, hsome, List.map_cons, ← ih, ← hnumber]
    rfl

/-- A document that is written behind another adds its own fences, further down by the lines of the
other, provided that the other ends with a line and outside of its fences. -/
theorem scan_append (ha : Text.EndsLine a) (hseg : Segmented flavor 1 (Text.lines a) blocks)
    (hclosed : ∀ b ∈ blocks, b.isClosed = true) (b : Text) :
    scan flavor (a ++ b) = scan flavor a ++ (scan flavor b).map (below (Text.lines a).length) := by
  obtain ⟨blocks', hseg', hscan'⟩ :=
    exists_segmented flavor (1 + (Text.lines a).length) (Text.lines b)
  have hall := hseg.append hclosed hseg'
  rw [← Text.lines_append ha] at hall
  calc scan flavor (a ++ b)
    _ = (blocks ++ blocks').map Block.fence := scan_eq_of_segmented hall
    _ = blocks.map Block.fence ++ blocks'.map Block.fence := List.map_append
    _ = scan flavor a ++ scanFrom flavor (1 + (Text.lines a).length) (Text.lines b) := by
      rw [scan_eq_of_segmented hseg, hscan']
    _ = scan flavor a ++ (scan flavor b).map (below (Text.lines a).length) := by
      rw [scanFrom_add]
      rfl

def closedPage : Text := "# a\r\n```scaf\r\nx\r\n```\r\n"

/-- A document that ends within its fence. -/
def openPage : Text := "y\n~~~go\nz"

theorem segmented_closedPage :
    Segmented .markdown 1 (Text.lines closedPage) [⟨2, ⟨0, '\x60', 3, "scaf"⟩, [['x']], true⟩] := by
  have hprose : Segmented .markdown 1 [("# a" : Text)] [] := .of_not_opens 1 (not_opens rfl)
  have ho : Opens .markdown "```scaf" ⟨0, '\x60', 3, "scaf"⟩ := opening?_sound rfl
  have hclose : Closes .markdown ⟨0, '\x60', 3, "scaf"⟩ "```" := closes_sound rfl
  have hin : ∀ l ∈ [['x']], ¬ Closes .markdown ⟨0, '\x60', 3, "scaf"⟩ l :=
    List.forall_mem_singleton.2 (ho.not_closes rfl)
  exact hprose.append (by simp) (.closedBlock 2 ho hin hclose)

theorem scan_append_openPage :
    Text.EndsLine closedPage ∧
      scan .markdown closedPage = [⟨"x", "scaf", none, 2⟩] ∧
      scan .markdown openPage = [⟨"z", "go", none, 2⟩] ∧
      scan .markdown (closedPage ++ openPage) =
        [⟨"x", "scaf", none, 2⟩, ⟨"z", "go", none, 6⟩] := by
  have hends : Text.EndsLine closedPage := .inr rfl
  have hclosed : scan .markdown closedPage = [⟨"x", "scaf", none, 2⟩] :=
    scan_eq_of_segmented segmented_closedPage
  have hopen : scan .markdown openPage = [⟨"z", "go", none, 2⟩] := by decide +kernel
  refine ⟨hends, hclosed, hopen, ?_⟩
  rw [scan_append hends segmented_closedPage (by simp) openPage, hclosed, hopen]
  rfl

end Fence

end DocSamples
