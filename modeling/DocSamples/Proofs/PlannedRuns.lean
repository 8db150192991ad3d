import DocSamples.Proofs.DocumentReports
import DocSamples.Proofs.Plan
import DocSamples.Proofs.SampleContract

namespace DocSamples

open Run

variable {σ τ : Type} {check : Checker σ} {check' : Checker τ} {inv : σ → Prop} {inv' : τ → Prop}
  {answer answer' : Text → Except Fault Outcome} {own : Fault → Prop} {m : σ} {m' : τ}

namespace Checker

theorem Follows.isTotalOn (h : check.Follows inv answer) (ho : ∀ t, ∃ o, answer t = .ok o) :
    check.IsTotalOn inv := by
  intro t m hm
  obtain ⟨hres, hm'⟩ := h t m hm
  rw [hres]
  exact ⟨ho t, hm'⟩

theorem Follows.agree (h : check.Follows inv answer) (h' : check'.Follows inv' answer')
    (heq : ∀ t, (answer t).toOption = (answer' t).toOption) :
    Agree (fun m m' => inv m ∧ inv' m') check check' := by
  rintro t m m' ⟨hm, hm'⟩
  obtain ⟨hres, hkeep⟩ := h t m hm
  obtain ⟨hres', hkeep'⟩ := h' t m' hm'
  rw [hres, hres']
  exact ⟨heq t, hkeep, hkeep'⟩

theorem IsTotal.isTotalOn (h : check.IsTotal) : check.IsTotalOn fun _ => True :=
  fun t m _ => ⟨h t m, trivial⟩

end Checker

/-- A program that embeds a sample with one of the strategies. -/
def Embeds (t program : Text) : Prop := ∃ s ∈ Strategy.all, program = s.apply t

variable {t : Text} {s : Strategy}

theorem Strategy.planned_attempt (hs : s ∈ all) :
    Planned (Embeds t) own fun _ check => s.attempt check t := by
  apply Planned.bind (.ask ⟨s, hs, rfl⟩)
  intro o
  apply Planned.bind (.noteWritten _ _ _)
  intro _
  exact .pure _

theorem planned_validate (t : Text) :
    Planned (Embeds t) own fun _ check => DocSamples.validate check t := by
  by_cases hc : Shape.classify t = .pseudoCode
  · simp only [DocSamples.validate, hc, if_true]
    exact .bind (.note _ _ _) fun _ => .pure _
  · simp only [DocSamples.validate, hc, if_false]
    apply Planned.bind (Strategy.planned_attempt List.mem_cons_self)
    intro direct
    by_cases hs : direct.isSuccess = true
    · simp only [hs, if_true]
      exact .pure _
    by_cases ht : direct.kind.isTerminal = true
    · simp only [hs, ht, if_true]
      exact .pure _
    simp only [hs, ht]
    cases hf : Strategy.fallback? t with
    | none => exact .pure _
    | some s =>
      have hs := Strategy.fallback?_mem_all hf
      exact .bind (Strategy.planned_attempt hs) fun _ => .pure _

namespace Document

variable {settings : Settings} {fs : List Fence} {tree : FileTree}

/-- A program that embeds the sample of one of some fences, which is of the language and not
exempt. -/
def EmbedsSample (settings : Settings) (fs : List Fence) (program : Text) : Prop :=
  ∃ f ∈ fs, f.isValidated settings = true ∧ Embeds f.text program

theorem EmbedsSample.cons (f : Fence) {program : Text} (h : EmbedsSample settings fs program) :
    EmbedsSample settings (f :: fs) program := by
  obtain ⟨g, hg, h⟩ := h
  exact ⟨g, List.mem_cons_of_mem f hg, h⟩

theorem planned_walk (settings : Settings) (fs : List Fence) (r : Report) :
    Planned (EmbedsSample settings fs) own fun _ check => walk check settings fs r := by
  induction fs generalizing r with
  | nil => exact .pure r
  | cons f fs ih =>
    have hrest : ∀ r, Planned (EmbedsSample settings (f :: fs)) own
        fun _ check => walk check settings fs r :=
      fun r => (ih r).mono (fun _ h => h.cons f) fun _ h => h
    by_cases hl : f.language = settings.language
    · by_cases hs : f.isSkipped settings.skipToken = true
      · simp only [walk, hl, hs, ne_eq, not_true_eq_false, if_true, if_false]
        exact .bind (.note _ _ _) fun _ => hrest _
      · have hf := Fence.isValidated_iff.2 ⟨hl, Bool.eq_false_iff.2 hs⟩
        simp only [walk_of_isValidated hf]
        apply Planned.bind ((planned_validate f.text).mono
          (fun _ h => ⟨f, List.mem_cons_self, hf, h⟩) fun _ h => h)
        intro v
        unfold resume
        by_cases hskip : v.isSkipped = true
        · simp only [hskip, if_true]
          exact hrest _
        by_cases hfail : v.isFailure = true
        · simp only [hskip, hfail, if_true]
          exact .pure _
        simp only [hskip, hfail]
        exact hrest _
    · simp only [walk, hl, ne_eq, not_false_eq_true, if_true]
      exact hrest r

theorem planned_report (settings : Settings) (d : Document) :
    Planned (EmbedsSample settings (Fence.scan d.flavor d.text)) own
      fun _ check => d.report check settings :=
  planned_walk settings _ _

/-- A checker that has an outcome for every text lets every document have its report. -/
theorem ends_report (hcheck : check.IsTotalOn inv) (hm : inv m) (settings : Settings)
    (d : Document) : ∃ r texts n, Ends (d.report check settings) m r texts n ∧ inv n := by
  have hplan : Planned (EmbedsSample settings (Fence.scan d.flavor d.text)) (fun _ => False)
      fun _ check => d.report check settings := planned_report settings d
  obtain ⟨result, texts, n, hcomes, hn, hown⟩ := hplan.result_of_isTotalOn hcheck hm
  cases result with
  | ok r => exact ⟨r, texts, n, hcomes.ends, hn⟩
  | error e => exact (hown e rfl).elim

/-- A program that embeds a sample of the document in one of some files. -/
def EmbedsSampleOfFile (settings : Settings) (tree : FileTree) (paths : List Path)
    (program : Text) : Prop :=
  ∃ path ∈ paths, ∃ d, ofFile tree path = .ok d ∧
    EmbedsSample settings (Fence.scan d.flavor d.text) program

theorem reportAll_cons_eq (check : Checker σ) (settings : Settings) {path : Path} {d : Document}
    (hd : ofFile tree path = .ok d) (paths : List Path) :
    reportAll check settings tree (path :: paths) =
      d.report check settings >>= reportRest check settings tree paths := by
  rw [reportAll, hd]
  rfl

theorem reportAll_cons_of_error (check : Checker σ) (settings : Settings) {path : Path} {e : Fault}
    (hd : ofFile tree path = .error e) (paths : List Path) :
    reportAll check settings tree (path :: paths) = ExceptT.mk (pure (.error e)) := by
  rw [reportAll, hd]
  rfl

theorem planned_reportAll (settings : Settings) (tree : FileTree) (paths : List Path) :
    Planned (EmbedsSampleOfFile settings tree paths)
      (fun e => ∃ path ∈ paths, ofFile tree path = .error e)
      fun _ check => reportAll check settings tree paths := by
  induction paths with
  | nil => exact .pure []
  | cons path paths ih =>
    have hrest : Planned (EmbedsSampleOfFile settings tree (path :: paths))
        (fun e => ∃ p ∈ path :: paths, ofFile tree p = .error e)
        fun _ check => reportAll check settings tree paths :=
      ih.mono (fun _ ⟨p, hp, h⟩ => ⟨p, List.mem_cons_of_mem path hp, h⟩)
        fun _ ⟨p, hp, h⟩ => ⟨p, List.mem_cons_of_mem path hp, h⟩
    cases hd : ofFile tree path with
    | error e =>
      simp only [reportAll_cons_of_error _ settings hd]
      refine .result _ ?_
      intro e' he
      cases he
      exact ⟨path, List.mem_cons_self, hd⟩
    | ok d =>
      simp only [reportAll_cons_eq _ settings hd]
      apply Planned.bind ((planned_report settings d).mono
        (fun _ h => ⟨path, List.mem_cons_self, d, hd, h⟩) fun _ h => h)
      intro r
      unfold reportRest
      cases r.failure with
      | none => exact .bind hrest fun _ => .pure _
      | some f => exact .bind (.noteWritten _ _ _) fun _ => .bind hrest fun _ => .pure _

end Document

end DocSamples
