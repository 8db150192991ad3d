import DocSamples.Proofs.LineMapping

namespace DocSamples

open Run

variable {σ : Type} {check : Checker σ} {settings : Settings} {m m' : σ} {t : Text} {a : Attempt}
  {tried : List Attempt} {d : Document} {l : Int}

def Checker.ReportsWithin (check : Checker σ) : Prop :=
  ∀ t m o, (check t m).result = .ok o →
    ∀ l, o.line = some l → 1 ≤ l ∧ l ≤ (Text.pieces t).length

namespace Attempt

/-- The line that an attempt reports is not below those of the sample in its program. -/
def NotBelow (a : Attempt) (k : Nat) : Prop :=
  ∀ l, a.outcome.line = some l → l ≤ a.strategy.lineOffset + k

theorem notBelow_of_line_eq_none (h : a.outcome.line = none) (k : Nat) : a.NotBelow k := by
  intro l hl
  rw [h] at hl
  contradiction

theorem notBelow_iff_of_line_eq_some (h : a.outcome.line = some l) (k : Nat) :
    a.NotBelow k ↔ l ≤ a.strategy.lineOffset + k := by
  simp [NotBelow, h]

/-- The line of a failure is one of the first `k` exactly if the line of the program is at most the
`k`-th below the header. -/
theorem line_verdict_bounds_iff {k : Nat} (ha : a.outcome.isSuccess = false) (hk : 1 ≤ k) :
    (∀ l, (Verdict.ofAttempts t (tried ++ [a])).line = some l → 1 ≤ l ∧ l ≤ k) ↔ a.NotBelow k := by
  rw [line_verdict ha]
  cases hl : a.outcome.line with
  | none => simp [notBelow_of_line_eq_none hl k]
  | some l =>
    rw [notBelow_iff_of_line_eq_some hl]
    simp only [Option.map_some, Option.some.injEq, forall_eq']
    omega

/-- A failure without a line counts as one in the first. -/
theorem getD_line_verdict_bounds_iff (t : Text) (tried : List Attempt) {k : Nat}
    (ha : a.outcome.isSuccess = false) (hk : 1 ≤ k) :
    (1 ≤ (Verdict.ofAttempts t (tried ++ [a])).line.getD 1 ∧
      (Verdict.ofAttempts t (tried ++ [a])).line.getD 1 ≤ k) ↔ a.NotBelow k := by
  rw [← line_verdict_bounds_iff ha hk]
  cases hl : (Verdict.ofAttempts t (tried ++ [a])).line with
  | none => simp; omega
  | some l => simp

end Attempt

theorem Climbs.result_eq (h : Climbs check t m tried m') (ha : a ∈ tried) :
    ∃ m₁, (check (a.program t) m₁).result = .ok a.outcome := by
  obtain ⟨m₁, m₂, -, hans⟩ := h.exists_answers (fun _ => True) (fun _ _ _ _ _ h => h) trivial ha
  exact ⟨m₁, hans.1⟩

/-- What a failure says about its line, in a sample and in a document: it is a line of the sample
exactly if the last attempt reports no line of its program below the sample. -/
theorem failure_line_within_iff :
    (∀ (check : Checker σ) (m : σ) (t : Text) (v : Verdict) (s : Session σ),
      Run.perform m (validate check t) = (.ok v, s) → v.isFailure = true →
      ∃ tried a, Climbs check t m (tried ++ [a]) s.memory ∧
        s.asked = (tried ++ [a]).map (·.program t) ∧
        ((∀ l, v.line = some l → 1 ≤ l ∧ l ≤ (Text.pieces t).length) ↔
          a.NotBelow (Text.pieces t).length)) ∧
    (∀ (check : Checker σ) (settings : Settings) (m : σ) (d : Document) (failure : Failure)
      (s : Session σ), Run.perform m (d.validate check settings) = (.ok (.error failure), s) →
      ∃ before b after tried a,
        Segmented d.flavor 1 (Text.lines d.text) (before ++ b :: after) ∧
        FirstFailure check settings m (before.map Block.fence) b.fence tried a ∧
        s.asked.getLast? = some (a.program b.fence.text) ∧
        (b.body ≠ [] → ((b.startLine + 1 ≤ failure.line ∧
            failure.line ≤ b.startLine + b.body.length) ↔ a.NotBelow b.body.length))) := by
  constructor
  · intro check m t v s hrun hv
    obtain ⟨tried, hclimb, rfl, hasked⟩ := climbs_of_exec hrun
    rcases List.eq_nil_or_concat tried with rfl | ⟨tried, a, rfl⟩
    · contradiction
    · rw [List.concat_eq_append] at *
      rw [Verdict.isFailure_ofAttempts, Bool.not_eq_true'] at hv
      exact ⟨tried, a, hclimb, hasked, Attempt.line_verdict_bounds_iff hv
        (List.length_pos_iff.2 (Text.pieces_ne_nil t))⟩
  · intro check settings m d failure s hrun
    obtain ⟨before, f, rest, tried, a, hscan, hfirst, rfl⟩ := firstFailure_of_validate hrun
    obtain ⟨blocks, hseg, hblocks⟩ := Fence.exists_segmented d.flavor 1 (Text.lines d.text)
    rw [Fence.scan, hblocks] at hscan
    obtain ⟨before, tail, rfl, rfl, htail⟩ := List.map_eq_append_iff.1 hscan
    obtain ⟨b, after, rfl, rfl, -⟩ := List.map_eq_cons_iff.1 htail
    obtain ⟨texts, m', hends⟩ := hfirst.validate (d := d) (by rw [Fence.scan, hblocks, hscan])
    obtain ⟨-, -, hasked⟩ := hends.exec_eq rfl (perform_eq_exec m _ ▸ hrun)
    refine ⟨before, b, after, tried, a, hseg, hfirst, by simp [hasked], ?_⟩
    intro hb
    rw [← Attempt.getD_line_verdict_bounds_iff b.fence.text tried hfirst.rejected
      (List.length_pos_iff.2 hb)]
    change _ ≤ (b.startLine : Int) + _ ∧ (b.startLine : Int) + _ ≤ _ ↔ _
    omega

def rejectsLastLine : Checker Unit := fun t _ =>
  ⟨.ok ⟨.syntaxError, "expected", some (Text.pieces t).length⟩, (), []⟩

theorem rejectsLastLine_reportsWithin : rejectsLastLine.ReportsWithin := by
  rintro t m o h l hl
  cases h
  cases hl
  have hlen := List.length_pos_iff.2 (Text.pieces_ne_nil t)
  omega

theorem climbs_rejectsLastLine : Climbs rejectsLastLine "assert (x)" ()
    ([⟨.identity, ⟨.syntaxError, "expected", some 1⟩⟩] ++
      [⟨.testWrap, ⟨.syntaxError, "expected", some 6⟩⟩]) () :=
  .retried (by decide) ⟨by rfl, rfl⟩ rfl (by decide) ⟨by rfl, rfl⟩

theorem firstFailure_rejectsLastLine :
    FirstFailure rejectsLastLine (.default ⟨0, []⟩) () [] Block.indentedAssertion.fence
      [⟨.identity, ⟨.syntaxError, "expected", some 1⟩⟩]
      ⟨.testWrap, ⟨.syntaxError, "expected", some 6⟩⟩ :=
  ⟨by decide, rfl, [], (), (), .nil, climbs_rejectsLastLine⟩

/-- The last line of the test around an assertion is reported as the third of its one line, and in a
document as the one two lines below it. -/
theorem failure_line_leaves_sample :
    rejectsLastLine.ReportsWithin ∧
    (∃ v, (Run.perform () (validate rejectsLastLine "assert (x)")).1 = .ok v ∧
      v.isFailure = true ∧ v.line = some 3 ∧ (Text.pieces "assert (x)").length = 1) ∧
    ∃ failure, (Run.perform ()
        (Document.indentedAssertion.validate rejectsLastLine (.default ⟨0, []⟩))).1 =
          .ok (.error failure) ∧
      failure.line = 4 ∧
      Block.indentedAssertion.startLine + Block.indentedAssertion.body.length = 2 := by
  refine ⟨rejectsLastLine_reportsWithin, ?_, ?_⟩
  · exact ⟨_, climbs_rejectsLastLine.ends.perform_fst, by decide, by decide, by decide⟩
  · obtain ⟨texts, m', hends⟩ :=
      firstFailure_rejectsLastLine.validate Document.scan_indentedAssertion
    exact ⟨_, hends.perform_fst, by decide, by decide⟩

theorem failure_line_within_iff_rejectsLastLine :
    (∃ tried a s, Climbs rejectsLastLine "assert (x)" () (tried ++ [a]) s ∧ ¬ a.NotBelow 1) ∧
    ∃ before b after, Segmented .markdown 1 (Text.lines Document.indentedAssertion.text)
      (before ++ b :: after) := by
  constructor
  · obtain ⟨journal, hrun⟩ := climbs_rejectsLastLine.ends [] []
    obtain ⟨tried, a, hclimb, -, hiff⟩ :=
      failure_line_within_iff.1 rejectsLastLine () "assert (x)" _ _ hrun (by decide)
    refine ⟨tried, a, _, hclimb, ?_⟩
    rw [show 1 = (Text.pieces "assert (x)").length by decide, ← hiff]
    intro hin
    exact absurd (hin 3 (by decide)) (by decide)
  · obtain ⟨texts, m', hends⟩ :=
      firstFailure_rejectsLastLine.validate Document.scan_indentedAssertion
    obtain ⟨journal, hrun⟩ := hends [] []
    obtain ⟨before, b, after, -, -, hseg, -⟩ :=
      failure_line_within_iff.2 rejectsLastLine _ () Document.indentedAssertion _ _ hrun
    exact ⟨before, b, after, hseg⟩

end DocSamples
