import DocSamples.Proofs.Conclusion
import DocSamples.Proofs.DigitRuns
import DocSamples.Proofs.DocumentReports
import DocSamples.Proofs.LineMapping
import DocSamples.Proofs.Traversals
import DocSamples.Proofs.Trimming

namespace DocSamples

open Run

theorem Overrides.apply_nothing (s : Settings) : Overrides.apply {} s = s := by
  cases s
  rfl

theorem Settings.withEnvironment_none (s : Settings) : s.withEnvironment none = s := rfl

namespace CommandLine

variable {host : Host} {words : List Text} {o : Options} {settings : Settings}
  {docs : List Document} {behave : Text → Ending}

/-- A command line leads to a run over documents: they are those that are selected by the settings
that are loaded and by the paths that are given. -/
structure Selects (host : Host) (words : List Text) (o : Options) (settings : Settings)
    (docs : List Document) : Prop where
  accepted : Options.ofWords words = .ok o
  noSnippet : o.snippet = none
  loads : ∃ loaded,
    Settings.load host.files host.project host.environment (o.config.bind Given.value?) =
      .ok loaded ∧
    settings = Overrides.apply { tool := o.tool.bind Given.value?, timeout := o.timeout } loaded
  reads : ∃ files,
    host.files.documents settings.suffixes
      (if o.paths.isEmpty then [settings.docsDir] else o.paths.map Path.ofText) = .ok files ∧
    files ≠ [] ∧ files.mapM (Document.ofFile host.files) = .ok docs

abbrev toolAnswer (host : Host) (settings : Settings) (o : Options) (behave : Text → Ending)
    (t : Text) : Except Fault Outcome :=
  (toolFor host settings o).outcome (behave t)

/-- A run over some files reports on all of them. -/
theorem run_eq_reportAll {files : List Path} (ho : Options.ofWords words = .ok o)
    (hsnippet : o.snippet = none)
    (hloads : ∃ loaded,
      Settings.load host.files host.project host.environment (o.config.bind Given.value?) =
        .ok loaded ∧
      settings = Overrides.apply { tool := o.tool.bind Given.value?, timeout := o.timeout } loaded)
    (hfiles : host.files.documents settings.suffixes
      (if o.paths.isEmpty then [settings.docsDir] else o.paths.map Path.ofText) = .ok files)
    (hne : files ≠ []) :
    CommandLine.run host words =
      conclude host o.verbose
        (Document.reportAll ((toolFor host settings o).check host.runner) settings host.files files)
        (concludeReports o.json o.verbose) := by
  obtain ⟨loaded, hload, rfl⟩ := hloads
  simp only [CommandLine.run, runOn, ho, runOptions, hload, hsnippet, runDocuments, hfiles,
    Tool.check]

namespace Selects

theorem run_eq (h : Selects host words o settings docs) :
    ∃ files, List.Forall₂ (fun path d => Document.ofFile host.files path = .ok d) files docs ∧
      CommandLine.run host words =
        conclude host o.verbose
          (Document.reportAll ((toolFor host settings o).check host.runner) settings host.files
            files)
          (concludeReports o.json o.verbose) := by
  obtain ⟨files, hfiles, hne, hdocs⟩ := h.reads
  exact ⟨files, mapM_eq_ok_iff.1 hdocs,
    run_eq_reportAll h.accepted h.noSnippet h.loads hfiles hne⟩

/-- The reports on the documents of a run fit them, or one is not clean and the run is cut off. -/
theorem run_cases (h : Selects host words o settings docs)
    (hcan : (toolFor host settings o).CanWrite host.files) (hrun : host.runner.Follows behave) :
    (∃ rs, List.Forall₂ (Document.Fits (toolAnswer host settings o behave) settings) docs rs ∧
      (CommandLine.run host words).exit = (concludeReports o.json o.verbose rs).exit ∧
      (CommandLine.run host words).output = unlines (concludeReports o.json o.verbose rs).output) ∨
    (∃ d ∈ docs, ¬ d.IsClean (toolAnswer host settings o behave) settings) ∧
      ∃ e, (CommandLine.run host words).exit = .fault e := by
  obtain ⟨files, hdocs, hrun_eq⟩ := h.run_eq
  rw [hrun_eq]
  have hfollows : ((toolFor host settings o).check host.runner).Follows
      (fun space => (toolFor host settings o).CanWrite space.files)
      (toolAnswer host settings o behave) := Tool.check_follows hrun
  -- No scratch file changes the directories, so a tool that can write at the start always can.
  have hstart : (fun space : Workspace => (toolFor host settings o).CanWrite space.files)
      { files := host.files } := hcan
  rcases Document.reportAll_cases hfollows hstart settings hdocs with
    ⟨rs, texts, space, hends, hfits⟩ | ⟨hd, e, hfault⟩
  · exact .inl ⟨rs, hfits, conclude_of_ends hends _ _⟩
  · exact .inr ⟨hd, e, exit_conclude_of_faults hfault _ _⟩

theorem code_exit_eq_one (h : Selects host words o settings docs)
    (hcan : (toolFor host settings o).CanWrite host.files) (hrun : host.runner.Follows behave)
    (hd : ∃ d ∈ docs, ¬ d.IsClean (toolAnswer host settings o behave) settings) :
    (CommandLine.run host words).exit.code = 1 := by
  rcases h.run_cases hcan hrun with ⟨rs, hfits, hexit, -⟩ | ⟨-, e, hexit⟩
  · rw [hexit]
    exact code_exit_concludeReports _ _ (Document.exists_isOk_eq_false hfits hd)
  · rw [hexit]
    rfl

theorem exit_of_isClean (h : Selects host words o settings docs)
    (hcan : (toolFor host settings o).CanWrite host.files) (hrun : host.runner.Follows behave)
    (hd : ∀ d ∈ docs, d.IsClean (toolAnswer host settings o behave) settings)
    (hjson : o.json = true →
      ∀ d ∈ docs, (Fence.scan d.flavor d.text).length < Nat.pow 10 digitLimit) :
    (CommandLine.run host words).exit = .status 0 ∧
      (o.json = false →
        (CommandLine.run host words).output =
          unlines [Report.summary (docs.map (Document.passed settings))]) := by
  rcases h.run_cases hcan hrun with ⟨rs, hfits, hexit, houtput⟩ | ⟨⟨d, hmem, hdirty⟩, -⟩
  · obtain rfl := Document.eq_map_passed hfits hd
    have hok : ∀ r ∈ docs.map (Document.passed settings), r.isOk = true :=
      fun r hr => Document.isOk_of_mem_map_passed hr
    rw [hexit, houtput]
    cases hj : o.json with
    | false =>
      obtain ⟨hstatus, hlines⟩ := concludeReports_of_isOk hok o.verbose
      exact ⟨hstatus, fun _ => by rw [hlines]⟩
    | true =>
      refine ⟨exit_concludeReports_json hok o.verbose ?_, by simp⟩
      intro r hr
      obtain ⟨d, hmem, rfl⟩ := List.mem_map.1 hr
      have hlen := hjson hj d hmem
      rw [Document.checked_passed, Document.skipped_passed]
      exact ⟨Nat.lt_of_le_of_lt List.countP_le_length hlen,
        Nat.lt_of_le_of_lt List.countP_le_length hlen⟩
  · exact absurd (hd d hmem) hdirty

end Selects

/-- A sample on which the command exits with 0, or with another status on the sample and with 0 on
its first fallback that applies. -/
def IsSettled (behave : Text → Ending) (t : Text) : Prop :=
  (behave t).IsAcceptance ∨ (behave t).IsRejection ∧
    ∃ s : Strategy, Strategy.fallback? t = some s ∧ (behave (s.apply t)).IsAcceptance

/-- What the tool makes of the commands that reject a text can be read. -/
def ReadsRejections (tool : Tool) (behave : Text → Ending) : Prop :=
  ∀ t status output errors, behave t = .exited status output errors → status ≠ 0 →
    Diagnostic.Readable (tool.stream status output errors)

theorem settles_iff_isSettled {tool : Tool} (hread : ReadsRejections tool behave) {t : Text} :
    Settles (fun t => tool.outcome (behave t)) t ↔ IsSettled behave t := by
  have hrejects : Rejects (fun t => tool.outcome (behave t)) t ↔ (behave t).IsRejection := by
    rw [Rejects, Tool.outcome_syntaxError_iff]
    constructor
    · rintro ⟨status, output, errors, d, he, hs, -⟩
      exact ⟨status, output, errors, he, hs⟩
    · rintro ⟨status, output, errors, he, hs⟩
      obtain ⟨d, hd⟩ := Diagnostic.exists_parse (hread t status output errors he hs)
      exact ⟨status, output, errors, d, he, hs, hd⟩
  simp only [Settles, IsSettled, hrejects, Accepts, Tool.outcome_isSuccess_iff]

theorem not_settles_of_parse_eq_error {tool : Tool} {t : Text} {status : Int}
    {output errors : Text} {e : LongNumeral} (hb : behave t = .exited status output errors)
    (hs : status ≠ 0) (hp : Diagnostic.parse (tool.stream status output errors) = .error e) :
    ¬ Settles (fun t => tool.outcome (behave t)) t := by
  have ho : tool.outcome (behave t) = .error (.longNumeral e) := by
    rw [hb, Tool.outcome, Tool.fst_judge_exited hs, hp]
  rintro (⟨o, haccept, -⟩ | ⟨⟨o, hreject, -⟩, -⟩)
  · cases ho.symm.trans haccept
  · cases ho.symm.trans hreject

def countFences (kind : Fence → Bool) : List Document → Nat
  | [] => 0
  | d :: docs => (Fence.scan d.flavor d.text).countP kind + countFences kind docs

theorem total_map_passed {count : Report → Nat} {kind : Fence → Bool}
    (h : ∀ d, count (Document.passed settings d) = (Fence.scan d.flavor d.text).countP kind)
    (docs : List Document) :
    Report.total count (docs.map (Document.passed settings)) = countFences kind docs := by
  induction docs with
  | nil => rfl
  | cons d docs ih => rw [List.map_cons, Report.total, h, ih, countFences]

theorem summary_map_passed (settings : Settings) (docs : List Document) :
    Report.summary (docs.map (Document.passed settings)) =
      "Validated " ++ Text.ofNat (countFences (Fence.isCheckable settings) docs) ++
        " scaf snippet(s) in " ++ Text.ofNat docs.length ++ " document(s) (" ++
        Text.ofNat (countFences (Fence.isLeftOut settings) docs) ++ " skipped)." := by
  have hok : ∀ r ∈ docs.map (Document.passed settings), r.isOk = true :=
    fun r hr => Document.isOk_of_mem_map_passed hr
  have hchecked := total_map_passed (Document.checked_passed settings) docs
  have hskipped := total_map_passed (Document.skipped_passed settings) docs
  rw [Report.summary, Report.failures_eq_nil_iff.2 hok, hchecked, hskipped, List.length_map]
  rfl

/-- A run over documents fails exactly if one of them has a sample that is checked and does not
settle; otherwise it succeeds and tells the number of samples, documents and samples left out. -/
theorem exit_of_documents (h : Selects host words o settings docs)
    (hcan : (toolFor host settings o).CanWrite host.files) (hrun : host.runner.Follows behave)
    (hread : ReadsRejections (toolFor host settings o) behave)
    (hjson : o.json = true →
      ∀ d ∈ docs, (Fence.scan d.flavor d.text).length < Nat.pow 10 digitLimit) :
    ((CommandLine.run host words).exit.code = 1 ↔ ∃ d ∈ docs, ∃ f ∈ Fence.scan d.flavor d.text,
      f.isCheckable settings = true ∧ ¬ IsSettled behave f.text) ∧
    ((CommandLine.run host words).exit.code ≠ 1 →
      (CommandLine.run host words).exit = .status 0 ∧
      (o.json = false → (CommandLine.run host words).output = unlines [
        "Validated " ++ Text.ofNat (countFences (Fence.isCheckable settings) docs) ++
          " scaf snippet(s) in " ++ Text.ofNat docs.length ++ " document(s) (" ++
          Text.ofNat (countFences (Fence.isLeftOut settings) docs) ++ " skipped)."])) := by
  have hclean : ∀ d : Document, ¬ d.IsClean (toolAnswer host settings o behave) settings ↔
      ∃ f ∈ Fence.scan d.flavor d.text,
        f.isCheckable settings = true ∧ ¬ IsSettled behave f.text := by
    intro d
    simp only [Document.IsClean, settles_iff_isSettled hread, not_forall, exists_prop]
  by_cases hd : ∃ d ∈ docs, ¬ d.IsClean (toolAnswer host settings o behave) settings
  · have hcode := h.code_exit_eq_one hcan hrun hd
    simp only [hclean] at hd
    exact ⟨iff_of_true hcode hd, fun hne => absurd hcode hne⟩
  · have hd' : ∀ d ∈ docs, d.IsClean (toolAnswer host settings o behave) settings := by
      intro d hmem
      by_contra hdirty
      exact hd ⟨d, hmem, hdirty⟩
    obtain ⟨hexit, houtput⟩ := h.exit_of_isClean hcan hrun hd' hjson
    have hcode : ¬ (CommandLine.run host words).exit.code = 1 := by
      rw [hexit]
      decide
    simp only [hclean] at hd
    rw [← summary_map_passed]
    exact ⟨iff_of_false hcode hd, fun _ => ⟨hexit, houtput⟩⟩

def acceptsFunctions (t : Text) : Ending :=
  if (Utf8.encode t).take 2 = Utf8.encode "fn" then .exited 0 [] [] else .exited 1 [] []

def functionRunner : Runner := fun _ command =>
  match command.files.read command.file with
  | .ok bytes =>
    ⟨if bytes.take 2 = Utf8.encode "fn" then .exited 0 [] [] else .exited 1 [] [], false⟩
  | .error _ => ⟨.notFound, false⟩

theorem functionRunner_follows : functionRunner.Follows acceptsFunctions := by
  intro done command t h
  simp only [functionRunner, acceptsFunctions, h]

/-- A host with one document, whose one sample is an assertion. -/
def assertionHost (environment : Option Text) : Host where
  files := ⟨[(["tmp"], .directory), (["docs"], .directory),
    (["docs", "a.md"], .file (Utf8.encode Document.indentedAssertion.text))], ["docs"]⟩
  project := ⟨1, ["project"]⟩
  environment := environment
  input := []
  scratch := ⟨1, ["tmp"]⟩
  scratchName _ := "x"
  runner := functionRunner

def assertionOptions : Options := { paths := ["a.md"] }

def assertionSettings (tool : Text) : Settings := { Settings.default ⟨1, ["project"]⟩ with tool }

def assertionDocument : Document :=
  ⟨some ⟨0, ["a.md"]⟩, .markdown, Document.indentedAssertion.text.unifyBreaks⟩

theorem scan_assertionDocument :
    Fence.scan assertionDocument.flavor assertionDocument.text =
      [Block.indentedAssertion.fence] := by
  rw [← List.nil_append [_], ← Document.scan_indentedAssertion]
  simp only [assertionDocument, Fence.scan, Text.lines, Text.unifyBreaks_idem]
  rfl

theorem documents_assertionHost (environment : Option Text) :
    (assertionHost environment).files.documents [".md", ".mdx"] [Path.ofText "a.md"] =
      .ok [⟨0, ["a.md"]⟩] := by
  have hfound : (assertionHost environment).files.documentsAt [".md", ".mdx"] (Path.ofText "a.md") =
      .ok [⟨0, ["a.md"]⟩] := by rfl
  simp only [FileTree.documents, List.mapM_cons, List.mapM_nil, hfound, bind, Except.bind, pure,
    Except.pure, List.flatten_cons, List.flatten_nil, List.append_nil, List.eraseDups_cons,
    List.filter_nil, List.eraseDups_nil, List.mergeSort_singleton]

theorem selects_assertionHost {environment : Option Text} {tool : Text}
    (h : (Settings.default ⟨1, ["project"]⟩).withEnvironment environment = assertionSettings tool) :
    Selects (assertionHost environment) ["a.md"] assertionOptions (assertionSettings tool)
      [assertionDocument] where
  accepted := by rfl
  noSnippet := rfl
  loads := by
    refine ⟨assertionSettings tool, ?_, (Overrides.apply_nothing _).symm⟩
    rw [← h]
    rfl
  reads := ⟨_, documents_assertionHost environment, by simp, by rfl⟩

theorem canWrite_assertionHost (environment : Option Text) (settings : Settings) :
    (toolFor (assertionHost environment) settings assertionOptions).CanWrite
      (assertionHost environment).files := by
  intro n
  exact ⟨_, by rfl⟩

theorem isSettled_assertion : IsSettled acceptsFunctions "assert (x)" :=
  .inr ⟨⟨1, [], [], by decide, by decide⟩, .testWrap, by decide, ⟨[], [], by decide⟩⟩

theorem readsRejections_assertionHost :
    ReadsRejections (toolFor (assertionHost none) (assertionSettings "scaf") assertionOptions)
      acceptsFunctions := by
  intro t status output errors h hs
  unfold acceptsFunctions at h
  split at h
  · cases h
    contradiction
  · cases h
    intro ds hds _
    exact Nat.le_trans hds.length_le (by decide)

theorem exit_of_assertionHost :
    (run (assertionHost none) ["a.md"]).exit = .status 0 ∧
      (run (assertionHost none) ["a.md"]).output =
        unlines ["Validated 1 scaf snippet(s) in 1 document(s) (0 skipped)."] := by
  have hselects : Selects (assertionHost none) ["a.md"] assertionOptions (assertionSettings "scaf")
      [assertionDocument] := by
    apply selects_assertionHost
    simp only [assertionSettings, Settings.default, Settings.withEnvironment_none]
  have hrun : (assertionHost none).runner.Follows acceptsFunctions := functionRunner_follows
  have hjson : assertionOptions.json = true → ∀ d ∈ [assertionDocument],
      (Fence.scan d.flavor d.text).length < Nat.pow 10 digitLimit := by
    intro hj
    cases hj
  obtain ⟨hcode, hexit⟩ := exit_of_documents hselects (canWrite_assertionHost none _) hrun
    readsRejections_assertionHost hjson
  have hne : (run (assertionHost none) ["a.md"]).exit.code ≠ 1 := by
    rw [Ne, hcode]
    rintro ⟨d, hd, f, hf, -, hsettled⟩
    cases List.mem_singleton.1 hd
    rw [scan_assertionDocument] at hf
    cases List.mem_singleton.1 hf
    exact hsettled isSettled_assertion
  obtain ⟨hstatus, houtput⟩ := hexit hne
  refine ⟨hstatus, ?_⟩
  rw [houtput rfl]
  simp only [countFences, scan_assertionDocument]
  decide

def placeLikeName : Text := ':' :: List.replicate (digitLimit + 1) '9' ++ ":1:x"

theorem trim_placeLikeName : placeLikeName.trim = placeLikeName := by
  apply Text.trim_of_stopsAt
  · exact .cons (by decide)
  · rw [placeLikeName, List.reverse_append]
    exact .cons (by decide)

theorem withEnvironment_placeLikeName :
    (Settings.default ⟨1, ["project"]⟩).withEnvironment (some placeLikeName) =
      assertionSettings placeLikeName := by
  simp only [Settings.withEnvironment, Option.getD_some, trim_placeLikeName]
  rfl

theorem stream_placeLikeName :
    (toolFor (assertionHost (some placeLikeName)) (assertionSettings placeLikeName)
      assertionOptions).stream 1 [] [] =
        ':' :: (List.replicate (digitLimit + 1) '9' ++
          ':' :: (['1'] ++ ':' :: "x fmt exited with status 1".toList)) := by
  change placeLikeName ++ " ".toList ++ "fmt".toList ++ " exited with status ".toList ++ ['1'] = _
  unfold placeLikeName
  generalize List.replicate (digitLimit + 1) '9' = ds
  simp only [List.cons_append, List.append_assoc]
  rfl

theorem parse_stream_placeLikeName : ∃ e, Diagnostic.parse
    ((toolFor (assertionHost (some placeLikeName)) (assertionSettings placeLikeName)
      assertionOptions).stream 1 [] []) = .error e := by
  have hline : List.replicate (digitLimit + 1) '9' ≠ [] ∧
      ∀ c ∈ List.replicate (digitLimit + 1) '9', isDigit c = true :=
    Diagnostic.digits_replicate (Nat.succ_ne_zero _) (by decide)
  have hlong : digitLimit < (List.replicate (digitLimit + 1) '9').length := by
    rw [List.length_replicate]
    exact Nat.lt_succ_self _
  have hcolumn : ['1'] ≠ [] ∧ ∀ c ∈ ['1'], isDigit c = true :=
    Diagnostic.digits_replicate Nat.one_ne_zero (by decide)
  have htells : ∃ c ∈ "x fmt exited with status 1".toList, c ≠ '\n' :=
    ⟨'x', List.mem_cons_self, by decide⟩
  have hfirst := Diagnostic.locatedFirst_of_front hline hcolumn htells
  rw [stream_placeLikeName]
  exact ⟨_, Diagnostic.parse_eq_error_iff.2 ⟨_, _, hfirst, hlong, rfl⟩⟩

theorem not_settles_placeLikeName :
    ¬ Settles (toolAnswer (assertionHost (some placeLikeName)) (assertionSettings placeLikeName)
      assertionOptions acceptsFunctions) "assert (x)" := by
  obtain ⟨e, he⟩ := parse_stream_placeLikeName
  exact not_settles_of_parse_eq_error (by decide) (by decide) he

/-- A command line that is refused ends with 2, and a run may end early on a name of the tool that
is told in the place of what a silent command wrote, though the sample settles. -/
theorem status_beyond_reports :
    (run (assertionHost none) ["--strategy", "identity", "a.md"]).exit = .status 2 ∧
    (run (assertionHost (some placeLikeName)) ["a.md"]).exit.code = 1 ∧
    Selects (assertionHost (some placeLikeName)) ["a.md"] assertionOptions
      (assertionSettings placeLikeName) [assertionDocument] ∧
    ∀ f ∈ Fence.scan assertionDocument.flavor assertionDocument.text,
      IsSettled acceptsFunctions f.text := by
  have hselects := selects_assertionHost withEnvironment_placeLikeName
  refine ⟨by rfl, ?_, hselects, ?_⟩
  · apply hselects.code_exit_eq_one (canWrite_assertionHost _ _) functionRunner_follows
    refine ⟨assertionDocument, List.mem_cons_self, fun hclean => not_settles_placeLikeName ?_⟩
    have hmem : Block.indentedAssertion.fence ∈
        Fence.scan assertionDocument.flavor assertionDocument.text := by
      rw [scan_assertionDocument]
      exact List.mem_cons_self
    exact hclean Block.indentedAssertion.fence hmem (by decide)
  · intro f hf
    rw [scan_assertionDocument] at hf
    cases List.mem_singleton.1 hf
    exact isSettled_assertion

end CommandLine

end DocSamples
