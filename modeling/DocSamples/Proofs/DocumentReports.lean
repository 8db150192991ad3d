import DocSamples.Proofs.Acceptance
import Mathlib.Data.List.Forall2

namespace DocSamples

open Run

variable {σ : Type} {check : Checker σ} {inv : σ → Prop} {answer : Text → Except Fault Outcome}
  {m m' : σ} {settings : Settings} {d : Document} {r : Report} {tree : FileTree} {rs : List Report}

namespace Document

/-- Every sample of the document that is checked settles. -/
def IsClean (answer : Text → Except Fault Outcome) (settings : Settings) (d : Document) : Prop :=
  ∀ f ∈ Fence.scan d.flavor d.text, f.isCheckable settings = true → Settles answer f.text

/-- The report on a document none of whose samples fails. -/
def passed (settings : Settings) (d : Document) : Report :=
  Report.pass settings { path := d.path } (Fence.scan d.flavor d.text)

/-- A report that fits a document: that of a clean one counts its samples, and any other fails. -/
def Fits (answer : Text → Except Fault Outcome) (settings : Settings) (d : Document) (r : Report) :
    Prop :=
  d.IsClean answer settings ∧ r = d.passed settings ∨ ¬ d.IsClean answer settings ∧ r.isOk = false

theorem report_of_isClean (h : check.Follows inv answer) (hm : inv m)
    (hd : d.IsClean answer settings) :
    ∃ texts m', Ends (d.report check settings) m (d.passed settings) texts m' ∧ inv m' := by
  obtain ⟨texts, m', hpass⟩ := Passes.of_settles h hm hd
  exact ⟨texts, m', hpass.ends _, hpass.keeps h hm⟩

theorem report_of_not_isClean (h : check.Follows inv answer) (hm : inv m)
    (hd : ¬ d.IsClean answer settings) :
    (∃ r texts m', Ends (d.report check settings) m r texts m' ∧ inv m' ∧ r.isOk = false) ∨
      ∃ e, Faults (d.report check settings) m e := by
  rcases passes_or_fails_or_faults check settings m (Fence.scan d.flavor d.text) with
    ⟨texts, m', hpass⟩ | ⟨before, f, rest, tried, last, hscan, hfirst⟩ | hfault
  · exact absurd (fun f hf hc => hpass.settles h hm hf hc) hd
  · obtain ⟨texts, m₁, m', hpass, hclimb, hends⟩ := hfirst.ends rest { path := d.path }
    rw [← hscan] at hends
    exact .inl ⟨_, _, m', hends, hclimb.keeps h (hpass.keeps h hm), rfl⟩
  · exact .inr (hfault _)

theorem report_cases (h : check.Follows inv answer) (hm : inv m) (settings : Settings)
    (d : Document) :
    (∃ r texts m', Ends (d.report check settings) m r texts m' ∧ inv m' ∧
        d.Fits answer settings r) ∨
      ¬ d.IsClean answer settings ∧ ∃ e, Faults (d.report check settings) m e := by
  by_cases hd : d.IsClean answer settings
  · obtain ⟨texts, m', hends, hm'⟩ := report_of_isClean h hm hd
    exact .inl ⟨_, texts, m', hends, hm', .inl ⟨hd, rfl⟩⟩
  · rcases report_of_not_isClean h hm hd with ⟨r, texts, m', hends, hm', hr⟩ | hfault
    · exact .inl ⟨r, texts, m', hends, hm', .inr ⟨hd, hr⟩⟩
    · exact .inr ⟨hd, hfault⟩

theorem ends_ofFile {path : Path} (h : ofFile tree path = .ok d) (m : σ) :
    Ends (ExceptT.mk (pure (ofFile tree path)) : Run σ Document) m d [] m := by
  intro asked journal
  rw [h, List.append_nil]
  exact ⟨journal, rfl⟩

def reportRest (check : Checker σ) (settings : Settings) (tree : FileTree) (paths : List Path)
    (r : Report) : Run σ (List Report) := do
  if let some f := r.failure then noteWritten .info .walker f.text
  return r :: (← reportAll check settings tree paths)

theorem reportAll_cons (check : Checker σ) (settings : Settings) {path : Path}
    (hd : ofFile tree path = .ok d) (paths : List Path) (m : σ) :
    Leads (reportAll check settings tree (path :: paths)) m []
      (d.report check settings >>= reportRest check settings tree paths) m :=
  (ends_ofFile hd m).leads _

theorem leads_reportRest (paths : List Path) (r : Report) (m : σ) :
    Leads (reportRest check settings tree paths r) m []
      (reportAll check settings tree paths >>= fun rs => pure (r :: rs)) m := by
  unfold reportRest
  cases r.failure with
  | none => exact .refl _ m
  | some f => exact (Ends.noteWritten _ _ _ m).leads _

variable {path : Path} {paths : List Path} {texts texts' : List Text} {m'' : σ} {e : Fault}

theorem ends_reportAll_cons (hd : ofFile tree path = .ok d)
    (h : Ends (d.report check settings) m r texts m')
    (h' : Ends (reportAll check settings tree paths) m' rs texts' m'') :
    Ends (reportAll check settings tree (path :: paths)) m (r :: rs) (texts ++ texts') m'' := by
  have hnext : Ends (reportRest check settings tree paths r) m' (r :: rs) texts' m'' :=
    (leads_reportRest paths r m').ends (h'.bind_silent (.pure m'' _))
  exact (reportAll_cons check settings hd paths m).ends (h.bind hnext)

theorem ends_reportAll_singleton (hd : ofFile tree path = .ok d)
    (h : Ends (d.report check settings) m r texts m') :
    Ends (reportAll check settings tree [path]) m [r] texts m' := by
  rw [← List.append_nil texts]
  exact ends_reportAll_cons hd h (.pure m' [])

theorem comes_error_reportAll_cons (hd : ofFile tree path = .ok d)
    (h : Comes (d.report check settings) m (.error e) texts m') (paths : List Path) :
    Comes (reportAll check settings tree (path :: paths)) m (.error e) texts m' :=
  (reportAll_cons check settings hd paths m).comes h.bind_error

theorem faults_reportAll_cons (hd : ofFile tree path = .ok d)
    (h : Ends (d.report check settings) m r texts m')
    (h' : Faults (reportAll check settings tree paths) m' e) :
    Faults (reportAll check settings tree (path :: paths)) m e := by
  have hnext : Faults (reportRest check settings tree paths r) m' e :=
    (leads_reportRest paths r m').faults h'.bind
  exact (reportAll_cons check settings hd paths m).faults (h.bind_faults hnext)

/-- Documents have reports that fit them, one each, or one is not clean and the checker faults. -/
theorem reportAll_cases (h : check.Follows inv answer) (hm : inv m) (settings : Settings)
    {docs : List Document}
    (hdocs : List.Forall₂ (fun path d => ofFile tree path = .ok d) paths docs) :
    (∃ rs texts m', Ends (reportAll check settings tree paths) m rs texts m' ∧
        List.Forall₂ (Fits answer settings) docs rs) ∨
      (∃ d ∈ docs, ¬ d.IsClean answer settings) ∧
        ∃ e, Faults (reportAll check settings tree paths) m e := by
  -- The rest of the run starts from what the checker remembers after the first document.
  induction hdocs generalizing m with
  | nil => exact .inl ⟨[], [], m, .pure m _, .nil⟩
  | @cons path d paths docs hd _ ih =>
    rcases report_cases h hm settings d with ⟨r, texts, m', hends, hm', hfits⟩ | ⟨hd', e, hfault⟩
    · rcases ih hm' with ⟨rs, texts', m'', hrest, hall⟩ | ⟨⟨d', hmem, hd'⟩, e, hfault⟩
      · exact .inl ⟨r :: rs, _, m'', ends_reportAll_cons hd hends hrest, .cons hfits hall⟩
      · have hall := faults_reportAll_cons hd hends hfault
        exact .inr ⟨⟨d', List.mem_cons_of_mem d hmem, hd'⟩, e, hall⟩
    · have hlead := reportAll_cons check settings hd paths m
      exact .inr ⟨⟨d, List.mem_cons_self, hd'⟩, e, hlead.faults hfault.bind⟩

theorem eq_map_passed {docs : List Document} (h : List.Forall₂ (Fits answer settings) docs rs)
    (hd : ∀ d ∈ docs, d.IsClean answer settings) : rs = docs.map (passed settings) := by
  induction h with
  | nil => rfl
  | cons hfits _ ih =>
    rw [List.forall_mem_cons] at hd
    rcases hfits with ⟨-, rfl⟩ | ⟨hdirty, -⟩
    · rw [List.map_cons, ih hd.2]
    · exact absurd hd.1 hdirty

theorem exists_isOk_eq_false {docs : List Document}
    (h : List.Forall₂ (Fits answer settings) docs rs)
    (hd : ∃ d ∈ docs, ¬ d.IsClean answer settings) : ∃ r ∈ rs, r.isOk = false := by
  induction h with
  | nil => simp at hd
  | cons hfits _ ih =>
    obtain ⟨d, hmem, hdirty⟩ := hd
    rcases List.mem_cons.1 hmem with rfl | hmem
    · rcases hfits with ⟨hclean, -⟩ | ⟨-, hr⟩
      · exact absurd hclean hdirty
      · exact ⟨_, List.mem_cons_self, hr⟩
    · obtain ⟨r, hr, hfail⟩ := ih ⟨d, hmem, hdirty⟩
      exact ⟨r, List.mem_cons_of_mem _ hr, hfail⟩

theorem isOk_of_mem_map_passed {docs : List Document} (h : r ∈ docs.map (passed settings)) :
    r.isOk = true := by
  obtain ⟨d, -, rfl⟩ := List.mem_map.1 h
  rfl

theorem checked_passed (settings : Settings) (d : Document) :
    (d.passed settings).checked =
      (Fence.scan d.flavor d.text).countP (Fence.isCheckable settings) :=
  Nat.zero_add _

theorem skipped_passed (settings : Settings) (d : Document) :
    (d.passed settings).skipped =
      (Fence.scan d.flavor d.text).countP (Fence.isLeftOut settings) :=
  Nat.zero_add _

end Document

end DocSamples
