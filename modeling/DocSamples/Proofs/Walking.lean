import DocSamples.Document
import DocSamples.Proofs.Ladder

namespace DocSamples

open Run

namespace Fence

def isTagged (settings : Settings) (f : Fence) : Bool := f.language == settings.language

/-- A fence of the language whose metadata does not exempt it. -/
def isValidated (settings : Settings) (f : Fence) : Bool :=
  f.isTagged settings && !f.isSkipped settings.skipToken

/-- A fence whose sample is given to the checker. -/
def isCheckable (settings : Settings) (f : Fence) : Bool :=
  f.isValidated settings && Shape.classify f.text != .pseudoCode

/-- A fence of the language whose sample is never checked. -/
def isLeftOut (settings : Settings) (f : Fence) : Bool :=
  f.isTagged settings && (f.isSkipped settings.skipToken || Shape.classify f.text == .pseudoCode)

end Fence

/-- The report after some fences more none of which fails. -/
def Report.pass (settings : Settings) (r : Report) (fs : List Fence) : Report :=
  { r with
    checked := r.checked + fs.countP (Fence.isCheckable settings)
    skipped := r.skipped + fs.countP (Fence.isLeftOut settings) }

variable {σ : Type} {check : Checker σ} {settings : Settings} {m m' m'' : σ} {f : Fence}
  {fs rest : List Fence} {texts : List Text} {tried : List Attempt} {a : Attempt} {r : Report}

/-- No sample of some fences fails: the texts that the checker is asked about, and what it
remembers in the end. -/
inductive Passes (check : Checker σ) (settings : Settings) :
    σ → List Fence → List Text → σ → Prop
  | nil {m : σ} : Passes check settings m [] [] m
  | exempt {m m' : σ} {f : Fence} {fs : List Fence} {texts : List Text}
      (hf : f.isValidated settings = false) (h : Passes check settings m fs texts m') :
      Passes check settings m (f :: fs) texts m'
  | validated {m m' m'' : σ} {f : Fence} {fs : List Fence} {texts : List Text}
      {tried : List Attempt} (hf : f.isValidated settings = true)
      (hc : Climbs check f.text m tried m')
      (hv : (Verdict.ofAttempts f.text tried).isFailure = false)
      (h : Passes check settings m' fs texts m'') :
      Passes check settings m (f :: fs) (tried.map (·.program f.text) ++ texts) m''

theorem Report.pass_cons (settings : Settings) (r : Report) (f : Fence) (fs : List Fence) :
    r.pass settings (f :: fs) = (r.pass settings [f]).pass settings fs := by
  simp only [pass, List.countP_cons, List.countP_nil]
  congr 1 <;> omega

theorem Fence.isValidated_iff :
    f.isValidated settings = true ↔
      f.language = settings.language ∧ f.isSkipped settings.skipToken = false := by
  simp [isValidated, isTagged]

namespace Document

theorem walk_exempt (hf : f.isValidated settings = false) :
    Leads (walk check settings (f :: fs) r) m []
      (walk check settings fs (r.pass settings [f])) m := by
  rw [walk]
  by_cases hl : f.language = settings.language
  · have hs : f.isSkipped settings.skipToken = true := by
      cases hs : f.isSkipped settings.skipToken with
      | true => rfl
      | false =>
        rw [Fence.isValidated_iff.2 ⟨hl, hs⟩] at hf
        contradiction
    have hr : r.pass settings [f] = { r with skipped := r.skipped + 1 } := by
      simp [Report.pass, Fence.isCheckable, Fence.isLeftOut, Fence.isTagged, hf, hl, hs]
    rw [if_neg (by simp [hl]), if_pos hs, hr]
    exact (Ends.note _ _ _ m).leads _
  · have hr : r.pass settings [f] = r := by
      simp [Report.pass, Fence.isCheckable, Fence.isLeftOut, Fence.isTagged, hf, hl]
    rw [if_pos hl, hr]
    exact .refl _ m

def resume (check : Checker σ) (settings : Settings) (f : Fence) (fs : List Fence) (r : Report)
    (v : Verdict) : Run σ Report :=
  if v.isSkipped then
    walk check settings fs { r with skipped := r.skipped + 1 }
  else if v.isFailure then
    return { r with
      checked := r.checked + 1
      failure := some (failureOf settings r.path f v) }
  else
    walk check settings fs { r with checked := r.checked + 1 }

theorem walk_of_isValidated (hf : f.isValidated settings = true) :
    walk check settings (f :: fs) r =
      DocSamples.validate check f.text >>= resume check settings f fs r := by
  obtain ⟨hl, hs⟩ := Fence.isValidated_iff.1 hf
  rw [walk, if_neg (by simp [hl]), if_neg (by simp [hs])]
  rfl

theorem walk_validated (hf : f.isValidated settings = true) (hc : Climbs check f.text m tried m')
    (hv : (Verdict.ofAttempts f.text tried).isFailure = false) :
    Leads (walk check settings (f :: fs) r) m (tried.map (·.program f.text))
      (walk check settings fs (r.pass settings [f])) m' := by
  rw [walk_of_isValidated hf]
  obtain ⟨hl, hs⟩ := Fence.isValidated_iff.1 hf
  have hlead := hc.ends.leads (resume check settings f fs r)
  by_cases hp : Shape.classify f.text = .pseudoCode
  · have hr : r.pass settings [f] = { r with skipped := r.skipped + 1 } := by
      simp [Report.pass, Fence.isCheckable, Fence.isLeftOut, Fence.isTagged, hl, hp]
    rw [hc.eq_nil_iff.2 hp] at hlead ⊢
    rw [hr]
    exact hlead
  · have hr : r.pass settings [f] = { r with checked := r.checked + 1 } := by
      simp [Report.pass, Fence.isCheckable, Fence.isLeftOut, Fence.isTagged, hf, hs, hp]
    have hskip : (Verdict.ofAttempts f.text tried).isSkipped = false := by
      rw [Verdict.isSkipped_ofAttempts, decide_eq_false_iff_not, hc.eq_nil_iff]
      exact hp
    rw [resume, hskip, hv, if_neg Bool.false_ne_true, if_neg Bool.false_ne_true] at hlead
    rw [hr]
    exact hlead

theorem walk_rejected (hf : f.isValidated settings = true)
    (hc : Climbs check f.text m (tried ++ [a]) m') (ha : a.outcome.isSuccess = false) :
    Ends (walk check settings (f :: fs) r) m
      { r with
        checked := r.checked + 1
        failure := some (failureOf settings r.path f (.ofAttempts f.text (tried ++ [a]))) }
      ((tried ++ [a]).map (·.program f.text)) m' := by
  rw [walk_of_isValidated hf]
  apply hc.ends.bind_silent
  have hskip : (Verdict.ofAttempts f.text (tried ++ [a])).isSkipped = false := by
    simp [Verdict.isSkipped_ofAttempts]
  have hfail : (Verdict.ofAttempts f.text (tried ++ [a])).isFailure = true := by
    rw [Verdict.isFailure_ofAttempts, ha]
    rfl
  rw [resume, hskip, hfail, if_neg Bool.false_ne_true, if_pos rfl]
  exact .pure _ _

theorem walk_faults {e : Fault} (hf : f.isValidated settings = true)
    (h : Faults (DocSamples.validate check f.text) m e) :
    Faults (walk check settings (f :: fs) r) m e := by
  rw [walk_of_isValidated hf]
  exact h.bind

end Document

theorem Passes.leads (h : Passes check settings m fs texts m') (rest : List Fence) (r : Report) :
    Leads (Document.walk check settings (fs ++ rest) r) m texts
      (Document.walk check settings rest (r.pass settings fs)) m' := by
  induction h generalizing r with
  | nil => exact .refl _ _
  | exempt hf _ ih =>
    rw [Report.pass_cons]
    exact (Document.walk_exempt hf).trans (ih _)
  | validated hf hc hv _ ih =>
    rw [Report.pass_cons]
    exact (Document.walk_validated hf hc hv).trans (ih _)

/-- The first fence that fails: no sample before it fails, and the last attempt at its own does. -/
structure FirstFailure (check : Checker σ) (settings : Settings) (m : σ) (before : List Fence)
    (f : Fence) (tried : List Attempt) (last : Attempt) : Prop where
  validated : f.isValidated settings = true
  rejected : last.outcome.isSuccess = false
  reached : ∃ texts m₁ m₂, Passes check settings m before texts m₁ ∧
    Climbs check f.text m₁ (tried ++ [last]) m₂

theorem FirstFailure.exempt_cons {before : List Fence} {g : Fence} {last : Attempt}
    (hf : f.isValidated settings = false)
    (h : FirstFailure check settings m before g tried last) :
    FirstFailure check settings m (f :: before) g tried last := by
  obtain ⟨texts, m₁, m₂, hpass, hclimb⟩ := h.reached
  exact ⟨h.validated, h.rejected, _, _, _, .exempt hf hpass, hclimb⟩

theorem FirstFailure.validated_cons {before : List Fence} {g : Fence} {last : Attempt}
    {tried' : List Attempt} (hf : f.isValidated settings = true)
    (hc : Climbs check f.text m tried m')
    (hv : (Verdict.ofAttempts f.text tried).isFailure = false)
    (h : FirstFailure check settings m' before g tried' last) :
    FirstFailure check settings m (f :: before) g tried' last := by
  obtain ⟨texts, m₁, m₂, hpass, hclimb⟩ := h.reached
  exact ⟨h.validated, h.rejected, _, _, _, .validated hf hc hv hpass, hclimb⟩

/-- The report on a document whose first failing fence comes after some others. -/
def Report.fail (settings : Settings) (r : Report) (before : List Fence) (f : Fence) (v : Verdict) :
    Report :=
  { r.pass settings before with
    checked := (r.pass settings before).checked + 1
    failure := some (Document.failureOf settings r.path f v) }

variable {before : List Fence} {last : Attempt} {d : Document}

theorem FirstFailure.ends (h : FirstFailure check settings m before f tried last)
    (rest : List Fence) (r : Report) :
    ∃ texts m₁ m', Passes check settings m before texts m₁ ∧
      Climbs check f.text m₁ (tried ++ [last]) m' ∧
      Ends (Document.walk check settings (before ++ f :: rest) r) m
        (r.fail settings before f (.ofAttempts f.text (tried ++ [last])))
        (texts ++ (tried ++ [last]).map (·.program f.text)) m' := by
  obtain ⟨texts, m₁, m', hpass, hclimb⟩ := h.reached
  exact ⟨texts, m₁, m', hpass, hclimb, (hpass.leads (f :: rest) r).ends
    (Document.walk_rejected h.validated hclimb h.rejected)⟩

theorem Passes.ends (h : Passes check settings m fs texts m') (r : Report) :
    Ends (Document.walk check settings fs r) m (r.pass settings fs) texts m' := by
  have hlead := h.leads [] r
  rw [List.append_nil] at hlead
  rw [← List.append_nil texts]
  exact hlead.ends (.pure _ _)

theorem passes_or_fails_or_faults (check : Checker σ) (settings : Settings) (m : σ)
    (fs : List Fence) :
    (∃ texts m', Passes check settings m fs texts m') ∨
    (∃ before f rest tried last, fs = before ++ f :: rest ∧
      FirstFailure check settings m before f tried last) ∨
    ∀ r, ∃ e, Faults (Document.walk check settings fs r) m e := by
  induction fs generalizing m with
  | nil => exact .inl ⟨_, _, .nil⟩
  | cons f fs ih =>
    cases hf : f.isValidated settings with
    | false =>
      rcases ih m with ⟨texts, m', h⟩ | ⟨before, g, rest, tried, last, rfl, h⟩ | h
      · exact .inl ⟨_, _, .exempt hf h⟩
      · exact .inr (.inl ⟨f :: before, g, rest, tried, last, rfl, h.exempt_cons hf⟩)
      · refine .inr (.inr fun r => ?_)
        obtain ⟨e, he⟩ := h (r.pass settings [f])
        exact ⟨e, (Document.walk_exempt hf).faults he⟩
    | true =>
      rcases climbs_or_faults check f.text m with ⟨tried, m', hclimb⟩ | ⟨e, he⟩
      · cases hv : (Verdict.ofAttempts f.text tried).isFailure with
        | true =>
          rcases List.eq_nil_or_concat tried with rfl | ⟨tried, last, rfl⟩
          · contradiction
          · rw [List.concat_eq_append] at hclimb hv
            rw [Verdict.isFailure_ofAttempts, Bool.not_eq_true'] at hv
            exact .inr (.inl ⟨[], f, fs, tried, last, rfl, hf, hv, _, _, _, .nil, hclimb⟩)
        | false =>
          rcases ih m' with ⟨texts, m'', h⟩ | ⟨before, g, rest, tried', last, rfl, h⟩ | h
          · exact .inl ⟨_, _, .validated hf hclimb hv h⟩
          · have hfirst := h.validated_cons hf hclimb hv
            exact .inr (.inl ⟨f :: before, g, rest, tried', last, rfl, hfirst⟩)
          · refine .inr (.inr fun r => ?_)
            obtain ⟨e, he⟩ := h (r.pass settings [f])
            exact ⟨e, (Document.walk_validated hf hclimb hv).faults he⟩
      · exact .inr (.inr fun r => ⟨e, Document.walk_faults hf he⟩)

/-- The failure that takes the place of a report is that of the first fence that fails, and the
checker was asked last about the program of its last attempt. -/
theorem FirstFailure.validate (h : FirstFailure check settings m before f tried last)
    {rest : List Fence} (hscan : Fence.scan d.flavor d.text = before ++ f :: rest) :
    ∃ texts m', Ends (d.validate check settings) m
      (.error (Document.failureOf settings d.path f (.ofAttempts f.text (tried ++ [last]))))
      (texts ++ [last.program f.text]) m' := by
  obtain ⟨texts, _, m', -, -, hends⟩ := h.ends rest { path := d.path }
  rw [← hscan, List.map_append, List.map_singleton, ← List.append_assoc] at hends
  exact ⟨_, m', Ends.bind_silent hends (.pure _ _)⟩

/-- Every failure of a document is that of a first fence that fails. -/
theorem firstFailure_of_validate {failure : Failure} {s : Session σ}
    (h : Run.perform m (d.validate check settings) = (.ok (.error failure), s)) :
    ∃ before f rest tried last, Fence.scan d.flavor d.text = before ++ f :: rest ∧
      FirstFailure check settings m before f tried last ∧
      failure = Document.failureOf settings d.path f (.ofAttempts f.text (tried ++ [last])) := by
  rw [perform_eq_exec] at h
  rcases passes_or_fails_or_faults check settings m (Fence.scan d.flavor d.text) with
    ⟨texts, m', hpass⟩ | ⟨before, f, rest, tried, last, hscan, hfirst⟩ | hfault
  · have hends : Ends (d.validate check settings) m (.ok _) texts m' :=
      (hpass.ends { path := d.path }).bind_silent (.pure _ _)
    obtain ⟨heq, _⟩ := hends.exec_eq rfl h
    contradiction
  · obtain ⟨texts, m', hends⟩ := hfirst.validate hscan
    obtain ⟨heq, _⟩ := hends.exec_eq rfl h
    exact ⟨before, f, rest, tried, last, hscan, hfirst, Except.error.inj heq⟩
  · obtain ⟨e, he⟩ := hfault { path := d.path }
    exact absurd h ((he.bind).not_ok rfl)

end DocSamples
