import DocSamples.Proofs.PlannedRuns
import DocSamples.Proofs.WalkCourse

namespace DocSamples

open Run

def FileTree.HoldsText (tree : FileTree) (path : Path) : Prop :=
  ∃ bytes t, tree.read path = .ok bytes ∧ Utf8.decode bytes = .ok t

variable {σ : Type} {check : Checker σ} {inv : σ → Prop} {outcome : Text → Outcome}
  {settings : Settings} {tree : FileTree} {path : Path} {paths before after : List Path}
  {m m' n : σ} {d : Document} {r : Report} {texts : List Text} {bytes : Bytes}
  {defect : Utf8.Defect} {result : Except Failure Report}

theorem FileTree.HoldsText.exists_ofFile (h : tree.HoldsText path) :
    ∃ d, Document.ofFile tree path = .ok d := by
  obtain ⟨bytes, t, hread, hdecode⟩ := h
  refine ⟨⟨some path, Document.flavorOf (some path), t.unifyBreaks⟩, ?_⟩
  rw [Document.ofFile, Document.readText, hread]
  simp only [hdecode]
  rfl

namespace Document

theorem path_of_ofFile (h : ofFile tree path = .ok d) : d.path = some path := by
  unfold ofFile at h
  cases hr : readText tree path with
  | error e =>
    rw [hr] at h
    contradiction
  | ok t =>
    rw [hr] at h
    cases h
    rfl

theorem ofFile_eq_error (hread : tree.read path = .ok bytes)
    (hdecode : Utf8.decode bytes = .error defect) :
    ofFile tree path = .error (.undecodable defect) := by
  rw [ofFile, readText, hread]
  simp only [hdecode]
  rfl

/-- A report on a document, made with a checker that remembers something. -/
def HasReport (check : Checker σ) (settings : Settings) (d : Document) (r : Report) : Prop :=
  ∃ s s', exec (d.report check settings) s = (.ok r, s')

/-- A report is that of a course which does not end by a fault. -/
theorem course_of_exec {s s' : Session σ} (h : exec (d.report check settings) s = (.ok r, s')) :
    ∃ reached texts ending,
      Course check settings s.memory (d.tagged settings) reached texts ending ∧
        ending.report settings d.path reached = .ok r := by
  obtain ⟨reached, texts, ending, hcourse⟩ :=
    exists_course check settings s.memory (d.tagged settings)
  obtain ⟨n, hcomes⟩ := report_comes hcourse
  obtain ⟨journal, hexec⟩ := hcomes s.asked s.journal
  exact ⟨reached, texts, ending, hcourse, congrArg Prod.fst (hexec.symm.trans h)⟩

namespace HasReport

variable (h : d.HasReport check settings r)
include h

theorem path_eq : r.path = d.path := by
  obtain ⟨s, s', hexec⟩ := h
  obtain ⟨reached, texts, ending, -, hr⟩ := course_of_exec hexec
  cases ending with
  | passed | failed =>
    cases hr
    rfl
  | faulted e => contradiction

theorem path_failure {f : Failure} (hf : r.failure = some f) : f.path = r.path := by
  obtain ⟨s, s', hexec⟩ := h
  obtain ⟨reached, texts, ending, -, hr⟩ := course_of_exec hexec
  cases ending with
  | passed =>
    cases hr
    contradiction
  | failed =>
    cases hr
    cases hf
    rfl
  | faulted e => contradiction

/-- A report counts no more fences than there are. -/
theorem counts_le : r.checked + r.skipped ≤ (Fence.scan d.flavor d.text).length := by
  obtain ⟨s, s', hexec⟩ := h
  obtain ⟨reached, texts, ending, hcourse, hr⟩ := course_of_exec hexec
  have htagged : ∀ f ∈ reached, f.isTagged settings = true :=
    fun f hf => (List.mem_filter.1 (hcourse.isPrefix.subset hf)).2
  have hcounts : r.checked + r.skipped = reached.length := by
    rw [← countP_isCheckable_add htagged]
    cases ending with
    | passed | failed =>
      cases hr
      rfl
    | faulted e => contradiction
  rw [hcounts]
  exact Nat.le_trans hcourse.isPrefix.length_le (List.length_filter_le _ _)

end HasReport

/-- The reports on some files are on the documents that they hold, one after another. -/
theorem reports_of_exec {s s' : Session σ} {rs : List Report}
    (h : exec (reportAll check settings tree paths) s = (.ok rs, s')) :
    rs.map Report.path = paths.map some ∧
      ∀ r ∈ rs, ∃ path ∈ paths, ∃ d, ofFile tree path = .ok d ∧ d.HasReport check settings r := by
  induction paths generalizing s rs with
  | nil =>
    cases h
    exact ⟨rfl, List.forall_mem_nil _⟩
  | cons path paths ih =>
    cases hd : ofFile tree path with
    | error e =>
      rw [reportAll_cons_of_error check settings hd] at h
      cases h
    | ok d =>
      rw [reportAll_cons_eq check settings hd] at h
      obtain ⟨r, s₁, hreport, hrest⟩ := exists_of_exec_bind h
      have hleads : Leads (reportRest check settings tree paths r) s₁.memory []
          (reportAll check settings tree paths >>= fun rs => pure (r :: rs)) s₁.memory :=
        leads_reportRest paths r s₁.memory
      obtain ⟨journal, hlead⟩ := hleads s₁.asked s₁.journal
      rw [hrest] at hlead
      obtain ⟨rs', s₂, hrs, hpure⟩ := exists_of_exec_bind hlead.symm
      cases hpure
      obtain ⟨hpaths, hall⟩ := ih hrs
      have hr : d.HasReport check settings r := ⟨_, _, hreport⟩
      refine ⟨?_, List.forall_mem_cons.2 ⟨⟨path, List.mem_cons_self, d, hd, hr⟩, ?_⟩⟩
      · rw [List.map_cons, List.map_cons, hpaths, hr.path_eq, path_of_ofFile hd]
      · intro r' hr'
        obtain ⟨p, hp, d', hd', h'⟩ := hall r' hr'
        exact ⟨p, List.mem_cons_of_mem path hp, d', hd', h'⟩

end Document

/-- What the validations of some files come to, one after another, and the texts that the checker is
asked about in them. -/
inductive FilesValidated (check : Checker σ) (settings : Settings) (tree : FileTree) :
    σ → List Path → List (Except Failure Report) → List Text → σ → Prop
  | nil {m : σ} : FilesValidated check settings tree m [] [] [] m
  | cons {m m' : σ} {path : Path} {paths : List Path} {result : Except Failure Report}
      {results : List (Except Failure Report)} {s : Session σ} {texts : List Text}
      (hv : perform m (Document.validateFile check settings tree path) = (.ok result, s))
      (h : FilesValidated check settings tree s.memory paths results texts m') :
      FilesValidated check settings tree m (path :: paths) (result :: results) (s.asked ++ texts) m'

namespace Report

/-- A report tells the same as the validation of its document: that it passed with this report, or
its failure. -/
structure Agrees (result : Except Failure Report) (r : Report) : Prop where
  passes_iff : r.failure = none ↔ ∃ r', result = .ok r'
  passed : ∀ r', result = .ok r' → r = r'
  failed : ∀ f, result = .error f → r.failure = some f

theorem agrees (r : Report) :
    Agrees (match r.failure with
      | some f => .error f
      | none => .ok r) r := by
  cases hf : r.failure with
  | none => exact ⟨by simp [hf], fun r' h => Except.ok.inj h, fun f h => by contradiction⟩
  | some f =>
    refine ⟨by simp [hf], fun r' h => by contradiction, ?_⟩
    intro f' h
    cases h
    exact hf

end Report

namespace Document

theorem perform_validateFile (hd : ofFile tree path = .ok d)
    (h : Ends (d.report check settings) m r texts n) :
    ∃ result s, perform m (validateFile check settings tree path) = (.ok result, s) ∧
      s.asked = texts ∧ s.memory = n ∧ r.Agrees result := by
  have hvalidate := ((ends_ofFile hd m).leads fun d => d.validate check settings).comes
    (validate_comes h.comes)
  obtain ⟨s, hs, hasked, hmemory⟩ := hvalidate.exists_perform
  exact ⟨_, s, hs, hasked, hmemory, r.agrees⟩

/-- The reports on some files agree with the validations of the files one by one, which ask the
checker about the same texts. -/
theorem reportAll_agrees (hcheck : check.IsTotal) (settings : Settings) (m : σ)
    (hfiles : ∀ path ∈ paths, tree.HoldsText path) :
    ∃ rs s results, perform m (reportAll check settings tree paths) = (.ok rs, s) ∧
      FilesValidated check settings tree m paths results s.asked s.memory ∧
      List.Forall₂ Report.Agrees results rs := by
  suffices h : ∃ rs texts n results, Ends (reportAll check settings tree paths) m rs texts n ∧
      FilesValidated check settings tree m paths results texts n ∧
      List.Forall₂ Report.Agrees results rs by
    obtain ⟨rs, texts, n, results, hends, hvalidated, hagrees⟩ := h
    obtain ⟨s, hs, rfl, rfl⟩ := hends.comes.exists_perform
    exact ⟨rs, s, results, hs, hvalidated, hagrees⟩
  -- The files that are left are validated with what the checker remembers after the first one.
  induction paths generalizing m with
  | nil => exact ⟨[], [], m, [], .pure m _, .nil, .nil⟩
  | cons path paths ih =>
    obtain ⟨hpath, hpaths⟩ := List.forall_mem_cons.1 hfiles
    obtain ⟨d, hd⟩ := hpath.exists_ofFile
    obtain ⟨r, texts, n, hreport, -⟩ := ends_report hcheck.isTotalOn trivial settings d
    obtain ⟨result, s, hvalidate, hasked, hmemory, hagree⟩ := perform_validateFile hd hreport
    obtain ⟨rs, texts', n', results, hrest, hvalidated, hagrees⟩ := ih n hpaths
    rw [← hmemory] at hvalidated
    have hall := FilesValidated.cons hvalidate hvalidated
    rw [hasked] at hall
    exact ⟨r :: rs, _, n', result :: results, ends_reportAll_cons hd hreport hrest, hall,
      .cons hagree hagrees⟩

def twoSamples : Text := "```scaf\na\n```\n~~~scaf\nb\n~~~\n"

def oneSample : Text := "```scaf\nc\n```\n"

/-- Two files with text and one between them without. -/
def threeFiles : FileTree where
  entries := [(["a.md"], .file (Utf8.encode twoSamples)), (["b.md"], .file [0xFF]),
    (["c.md"], .file (Utf8.encode oneSample))]
  current := []

theorem holdsText_of_threeFiles :
    ∀ path ∈ [(⟨0, ["a.md"]⟩ : Path), ⟨0, ["c.md"]⟩], threeFiles.HoldsText path := by
  intro path hpath
  simp only [List.mem_cons, List.not_mem_nil, or_false] at hpath
  rcases hpath with rfl | rfl
  · exact ⟨Utf8.encode twoSamples, twoSamples, by rfl, by decide +kernel⟩
  · exact ⟨Utf8.encode oneSample, oneSample, by rfl, by decide +kernel⟩

theorem holdsText_of_firstFile : ∀ path ∈ [(⟨0, ["a.md"]⟩ : Path)], threeFiles.HoldsText path :=
  fun path hpath => holdsText_of_threeFiles path (List.mem_append_left [_] hpath)

/-- The checker that rejects the third text passes the first document and fails the second. -/
theorem reportAll_agrees_rejectsThird :
    ∃ rs s results,
      perform 0 (reportAll rejectsThird (.default ⟨0, []⟩) threeFiles
        [⟨0, ["a.md"]⟩, ⟨0, ["c.md"]⟩]) = (.ok rs, s) ∧
      FilesValidated rejectsThird (.default ⟨0, []⟩) threeFiles 0
        [⟨0, ["a.md"]⟩, ⟨0, ["c.md"]⟩] results [['a'], ['b'], ['c']] s.memory ∧
      List.Forall₂ Report.Agrees results rs ∧ rs.map Report.isOk = [true, false] := by
  have hcheck : rejectsThird.IsTotal := fun _ _ => ⟨_, rfl⟩
  obtain ⟨rs, s, results, hrun, hvalidated, hagrees⟩ :=
    reportAll_agrees hcheck (.default ⟨0, []⟩) 0 holdsText_of_threeFiles
  have hasked : (perform 0 (reportAll rejectsThird (.default ⟨0, []⟩) threeFiles
      [⟨0, ["a.md"]⟩, ⟨0, ["c.md"]⟩])).2.asked = [['a'], ['b'], ['c']] := by decide +kernel
  have hok : (perform 0 (reportAll rejectsThird (.default ⟨0, []⟩) threeFiles
      [⟨0, ["a.md"]⟩, ⟨0, ["c.md"]⟩])).1.toOption.map (·.map Report.isOk) =
        some [true, false] := by decide +kernel
  rw [hrun] at hasked hok
  rw [hasked] at hvalidated
  exact ⟨rs, s, results, hrun, hvalidated, hagrees, Option.some.inj hok⟩

theorem ends_report_of_follows (hcheck : check.Follows inv fun t => .ok (outcome t))
    (hm : inv m) (hm' : inv m') (h : Ends (d.report check settings) m r texts n) :
    ∃ n', Ends (d.report check settings) m' r texts n' := by
  have hplan : Planned (EmbedsSample settings (Fence.scan d.flavor d.text)) (fun _ => False)
      fun _ check => d.report check settings := planned_report settings d
  have hagree := hcheck.agree hcheck fun _ => rfl
  obtain ⟨result, result', texts', k, k', hcomes, hcomes', heq, -⟩ :=
    hplan.lockstep hagree ⟨hm, hm'⟩
  obtain ⟨rfl, rfl, rfl⟩ := h.comes.unique hcomes
  cases result' with
  | error e => contradiction
  | ok r' =>
    cases heq
    exact ⟨k', hcomes'.ends⟩

theorem exists_ends_reportAll (hcheck : check.Follows inv fun t => .ok (outcome t))
    (settings : Settings) (hm : inv m) (hfiles : ∀ path ∈ paths, tree.HoldsText path) :
    ∃ rs texts n, Ends (reportAll check settings tree paths) m rs texts n ∧
      List.Forall₂ (fun path r => r.path = some path ∧ ∀ m', inv m' →
        (perform m' (reportAll check settings tree [path])).1 = .ok [r]) paths rs := by
  induction paths generalizing m with
  | nil => exact ⟨[], [], m, .pure m _, .nil⟩
  | cons path paths ih =>
    obtain ⟨hpath, hpaths⟩ := List.forall_mem_cons.1 hfiles
    obtain ⟨d, hd⟩ := hpath.exists_ofFile
    have htotal := hcheck.isTotalOn fun t => ⟨outcome t, rfl⟩
    obtain ⟨r, texts, n, hreport, hn⟩ := ends_report htotal hm settings d
    obtain ⟨rs, texts', n', hrest, halone⟩ := ih hn hpaths
    refine ⟨r :: rs, _, n', ends_reportAll_cons hd hreport hrest, .cons ⟨?_, ?_⟩ halone⟩
    · rw [← path_of_ofFile hd]
      obtain ⟨journal, hexec⟩ := hreport [] []
      exact HasReport.path_eq ⟨_, _, hexec⟩
    · intro m' hm'
      obtain ⟨k, hreport'⟩ := ends_report_of_follows hcheck hm hm' hreport
      exact (ends_reportAll_singleton hd hreport').perform_fst

theorem faults_reportAll (hcheck : check.Follows inv fun t => .ok (outcome t)) (hm : inv m)
    (hbefore : ∀ path ∈ before, tree.HoldsText path) {e : Fault}
    (he : ofFile tree path = .error e) :
    Faults (reportAll check settings tree (before ++ path :: after)) m e := by
  induction before generalizing m with
  | nil =>
    rw [List.nil_append, reportAll_cons_of_error check settings he]
    exact fun asked journal => ⟨_, rfl⟩
  | cons first before ih =>
    obtain ⟨hfirst, hbefore⟩ := List.forall_mem_cons.1 hbefore
    obtain ⟨d, hd⟩ := hfirst.exists_ofFile
    have htotal := hcheck.isTotalOn fun t => ⟨outcome t, rfl⟩
    obtain ⟨r, texts, n, hreport, hn⟩ := ends_report htotal hm settings d
    exact faults_reportAll_cons hd hreport (ih hn hbefore)

end Document

/-- Of some files that can be read, all hold text or there is a first that does not. -/
theorem FileTree.holdsText_or_first (hfiles : ∀ path ∈ paths, ∃ bytes, tree.read path = .ok bytes) :
    (∀ path ∈ paths, tree.HoldsText path) ∨
    ∃ before path after bytes defect, paths = before ++ path :: after ∧
      (∀ p ∈ before, tree.HoldsText p) ∧ tree.read path = .ok bytes ∧
      Utf8.decode bytes = .error defect := by
  induction paths with
  | nil => exact .inl (by simp)
  | cons path paths ih =>
    obtain ⟨⟨bytes, hread⟩, hpaths⟩ := List.forall_mem_cons.1 hfiles
    cases hdecode : Utf8.decode bytes with
    | error defect =>
      exact .inr ⟨[], path, paths, bytes, defect, rfl, by simp, hread, hdecode⟩
    | ok t =>
      have hpath : tree.HoldsText path := ⟨bytes, t, hread, hdecode⟩
      rcases ih hpaths with hall | ⟨before, p, after, bytes', defect, rfl, hbefore, hp⟩
      · exact .inl (List.forall_mem_cons.2 ⟨hpath, hall⟩)
      · exact .inr ⟨path :: before, p, after, bytes', defect, rfl,
          List.forall_mem_cons.2 ⟨hpath, hbefore⟩, hp⟩

namespace Document

/-- Files that can be read have their reports exactly if all of them hold text. Each report is then
the one on its file alone, whatever the checker remembers; and the first file that holds no text
ends the run without a report on any. -/
theorem reports_independent_iff (hcheck : check.Follows inv fun t => .ok (outcome t))
    (settings : Settings) (hm : inv m)
    (hfiles : ∀ path ∈ paths, ∃ bytes, tree.read path = .ok bytes) :
    ((∃ rs, (perform m (reportAll check settings tree paths)).1 = .ok rs) ↔
      ∀ path ∈ paths, tree.HoldsText path) ∧
    (∀ rs, (perform m (reportAll check settings tree paths)).1 = .ok rs →
      List.Forall₂ (fun path r => r.path = some path ∧ ∀ m', inv m' →
        (perform m' (reportAll check settings tree [path])).1 = .ok [r]) paths rs) ∧
    ∀ before path after bytes defect, paths = before ++ path :: after →
      (∀ p ∈ before, tree.HoldsText p) → tree.read path = .ok bytes →
      Utf8.decode bytes = .error defect →
      (perform m (reportAll check settings tree paths)).1 = .error (.undecodable defect) := by
  have hfault : ∀ before path after bytes defect, paths = before ++ path :: after →
      (∀ p ∈ before, tree.HoldsText p) → tree.read path = .ok bytes →
      Utf8.decode bytes = .error defect →
      (perform m (reportAll check settings tree paths)).1 = .error (.undecodable defect) := by
    rintro before path after bytes defect rfl hbefore hread hdecode
    have he := ofFile_eq_error hread hdecode
    exact (faults_reportAll hcheck hm hbefore he).perform_fst
  have hholds : ∀ rs, (perform m (reportAll check settings tree paths)).1 = .ok rs →
      ∀ path ∈ paths, tree.HoldsText path := by
    intro rs hrs
    rcases FileTree.holdsText_or_first hfiles with
      hall | ⟨before, path, after, bytes, defect, hpaths, hbefore, hread, hdecode⟩
    · exact hall
    · rw [hfault before path after bytes defect hpaths hbefore hread hdecode] at hrs
      contradiction
  refine ⟨⟨fun ⟨rs, hrs⟩ => hholds rs hrs, ?_⟩, ?_, hfault⟩
  · intro hall
    obtain ⟨rs, texts, n, hends, -⟩ := exists_ends_reportAll hcheck settings hm hall
    exact ⟨rs, hends.perform_fst⟩
  · intro rs hrs
    obtain ⟨rs', texts, n, hends, halone⟩ :=
      exists_ends_reportAll hcheck settings hm (hholds rs hrs)
    rw [hends.perform_fst] at hrs
    cases hrs
    exact halone

end Document

/-- A checker that rejects one text, and each time counts. -/
def rejectsC : Checker Nat := fun t n =>
  ⟨.ok (if t = ['c'] then ⟨.syntaxError, "expected", some 1⟩ else .accepted), n + 1, []⟩

theorem rejectsC_follows : rejectsC.Follows (fun _ => True)
    fun t => .ok (if t = ['c'] then ⟨.syntaxError, "expected", some 1⟩ else .accepted) :=
  fun _ _ _ => ⟨rfl, trivial⟩

namespace Document

theorem read_threeFiles : ∀ path ∈ [(⟨0, ["a.md"]⟩ : Path), ⟨0, ["b.md"]⟩, ⟨0, ["c.md"]⟩],
    ∃ bytes, threeFiles.read path = .ok bytes := by
  intro path hpath
  simp only [List.mem_cons, List.not_mem_nil, or_false] at hpath
  rcases hpath with rfl | rfl | rfl
  · exact ⟨Utf8.encode twoSamples, by rfl⟩
  · exact ⟨[0xFF], by rfl⟩
  · exact ⟨Utf8.encode oneSample, by rfl⟩

theorem ofFile_threeFiles :
    ofFile threeFiles ⟨0, ["b.md"]⟩ = .error (.undecodable ⟨0, [0xFF], .invalidStart⟩) := by
  have hread : threeFiles.read ⟨0, ["b.md"]⟩ = .ok [0xFF] := by rfl
  exact ofFile_eq_error hread (by rfl)

/-- A file without text leaves the documents before and after it without reports, though each of
them has one alone. -/
theorem reports_lost_beside_undecodable :
    rejectsC.Follows (fun _ => True)
      (fun t => .ok (if t = ['c'] then ⟨.syntaxError, "expected", some 1⟩ else .accepted)) ∧
    (∀ path ∈ [(⟨0, ["a.md"]⟩ : Path), ⟨0, ["b.md"]⟩, ⟨0, ["c.md"]⟩],
      ∃ bytes, threeFiles.read path = .ok bytes) ∧
    (∀ path ∈ [(⟨0, ["a.md"]⟩ : Path), ⟨0, ["c.md"]⟩], threeFiles.HoldsText path ∧
      ∃ r, (perform 0 (reportAll rejectsC (.default ⟨0, []⟩) threeFiles [path])).1 = .ok [r]) ∧
    (perform 0 (reportAll rejectsC (.default ⟨0, []⟩) threeFiles
        [⟨0, ["a.md"]⟩, ⟨0, ["b.md"]⟩, ⟨0, ["c.md"]⟩])).1 =
      .error (.undecodable ⟨0, [0xFF], .invalidStart⟩) := by
  refine ⟨rejectsC_follows, read_threeFiles, ?_, ?_⟩
  · intro path hpath
    have hholds := holdsText_of_threeFiles path hpath
    obtain ⟨d, hd⟩ := hholds.exists_ofFile
    have htotal := rejectsC_follows.isTotalOn fun t => ⟨_, rfl⟩
    obtain ⟨r, texts, n, hreport, -⟩ := ends_report htotal trivial (.default ⟨0, []⟩) d
    exact ⟨hholds, r, (ends_reportAll_singleton hd hreport).perform_fst⟩
  · apply Faults.perform_fst
    exact faults_reportAll rejectsC_follows trivial holdsText_of_firstFile ofFile_threeFiles

theorem reports_independent_iff_threeFiles :
    (∃ r r', (perform 0 (reportAll rejectsC (.default ⟨0, []⟩) threeFiles
          [⟨0, ["a.md"]⟩, ⟨0, ["c.md"]⟩])).1 = .ok [r, r'] ∧
      (perform 5 (reportAll rejectsC (.default ⟨0, []⟩) threeFiles [⟨0, ["c.md"]⟩])).1 =
        .ok [r'] ∧ r'.isOk = false) ∧
    (perform 0 (reportAll rejectsC (.default ⟨0, []⟩) threeFiles
        [⟨0, ["a.md"]⟩, ⟨0, ["b.md"]⟩, ⟨0, ["c.md"]⟩])).1 =
      .error (.undecodable ⟨0, [0xFF], .invalidStart⟩) := by
  have hread : ∀ path ∈ [(⟨0, ["a.md"]⟩ : Path), ⟨0, ["c.md"]⟩],
      ∃ bytes, threeFiles.read path = .ok bytes := by
    intro path hpath
    obtain ⟨bytes, t, hread, -⟩ := holdsText_of_threeFiles path hpath
    exact ⟨bytes, hread⟩
  obtain ⟨hreports, halone, -⟩ :=
    reports_independent_iff rejectsC_follows (.default ⟨0, []⟩) (m := 0) trivial hread
  obtain ⟨-, -, hfault⟩ :=
    reports_independent_iff rejectsC_follows (.default ⟨0, []⟩) (m := 0) trivial read_threeFiles
  constructor
  · obtain ⟨rs, hrs⟩ := hreports.2 holdsText_of_threeFiles
    have hrejected : (perform 0 (reportAll rejectsC (.default ⟨0, []⟩) threeFiles
        [⟨0, ["a.md"]⟩, ⟨0, ["c.md"]⟩])).1.toOption.map (·.map Report.isOk) =
          some [true, false] := by decide +kernel
    cases halone rs hrs with
    | cons _ hrest =>
      cases hrest with
      | cons hc hnil =>
        cases hnil
        rw [hrs] at hrejected
        have hmap := Option.some.inj hrejected
        simp only [List.map_cons, List.map_nil, List.cons.injEq, and_true] at hmap
        exact ⟨_, _, hrs, hc.2 5 trivial, hmap.2⟩
  · exact hfault [⟨0, ["a.md"]⟩] ⟨0, ["b.md"]⟩ [⟨0, ["c.md"]⟩] [0xFF] _ rfl holdsText_of_firstFile
      (by rfl) (by rfl)

end Document

end DocSamples
