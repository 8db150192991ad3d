import DocSamples.Proofs.ScratchRuns
import DocSamples.Proofs.ToolLockstep
import DocSamples.Proofs.Utf8Coding
import DocSamples.Proofs.VerdictLines
import DocSamples.Proofs.WalkCourse

namespace DocSamples

open Run

variable {σ : Type} {check : Checker σ} {settings : Settings} {d : Document} {f : Fence}
  {m m' : σ} {t : Text} {v : Verdict} {texts : List Text} {n : Nat} {tree : FileTree} {path : Path}

/-- The report on a document with one sample goes by the verdict on it. -/
structure Report.GoesBy (settings : Settings) (d : Document) (f : Fence) (v : Verdict)
    (r : Report) : Prop where
  checked_le : r.checked ≤ 1
  skipped_le : r.skipped ≤ 1
  failure_eq : r.failure =
    if v.isFailure then some (Document.failureOf settings d.path f v) else none

namespace Document

structure HasSample (settings : Settings) (f : Fence) (d : Document) : Prop where
  tagged_eq : d.tagged settings = [f]
  isSkipped_eq : f.isSkipped settings.skipToken = false

theorem HasSample.report_eq (h : d.HasSample settings f) (check : Checker σ) :
    d.report check settings =
      DocSamples.validate check f.text >>= resume check settings f [] { path := d.path } := by
  have hmem : f ∈ d.tagged settings := h.tagged_eq ▸ List.mem_cons_self
  have hvalidated : f.isValidated settings = true := by
    rw [Fence.isValidated, (List.mem_filter.1 hmem).2, h.isSkipped_eq]
    rfl
  rw [report, walk_eq_walk_tagged, ← tagged, h.tagged_eq, walk_of_isValidated hvalidated]

theorem exists_resume_eq (check : Checker σ) (settings : Settings) (f : Fence) (v : Verdict) :
    ∃ r, resume check settings f [] { path := d.path } v = pure r ∧ r.GoesBy settings d f v := by
  unfold resume
  cases v with
  | skipped => exact ⟨_, rfl, Nat.zero_le 1, Nat.le_refl 1, rfl⟩
  | succeeded | failed => exact ⟨_, rfl, Nat.le_refl 1, Nat.zero_le 1, rfl⟩

theorem HasSample.ends_report (h : d.HasSample settings f)
    (hv : Ends (DocSamples.validate check f.text) m v texts m') :
    ∃ r, Ends (d.report check settings) m r texts m' ∧ r.GoesBy settings d f v := by
  obtain ⟨r, hr, hgoes⟩ := exists_resume_eq (d := d) check settings f v
  refine ⟨r, ?_, hgoes⟩
  rw [h.report_eq]
  apply hv.bind_silent
  rw [hr]
  exact .pure _ _

theorem HasSample.ends_reportAll (h : d.HasSample settings f) (hd : ofFile tree path = .ok d)
    (hv : Ends (DocSamples.validate check f.text) m v texts m') :
    ∃ r, Ends (reportAll check settings tree [path]) m [r] texts m' ∧ r.GoesBy settings d f v := by
  obtain ⟨r, hreport, hgoes⟩ := h.ends_report hv
  exact ⟨r, ends_reportAll_singleton hd hreport, hgoes⟩

theorem HasSample.comes_error_reportAll (h : d.HasSample settings f)
    (hd : ofFile tree path = .ok d) {e : Fault}
    (hv : Comes (DocSamples.validate check f.text) m (.error e) texts m') :
    Comes (reportAll check settings tree [path]) m (.error e) texts m' := by
  apply comes_error_reportAll_cons hd
  rw [h.report_eq]
  exact hv.bind_error

end Document

namespace CommandLine

variable {host host' : Host} {words words' : List Text} {o o' : Options} {source : Text}
  {behave : Text → Ending} {r : Report}

theorem run_eq_runSnippet (ho : Options.ofWords words = .ok o)
    (hsnippet : o.snippet = some (.value source)) (hgoes : GoesBy host o settings) :
    CommandLine.run host words =
      runSnippet host ((toolFor host settings o).check host.runner) o source := by
  obtain ⟨loaded, hload, rfl⟩ := hgoes
  simp only [CommandLine.run, runOn, ho, runOptions, hload, hsnippet, Tool.check]

/-- The bytes of a source: those of its file, and for a dash those of the standard input. -/
def sourceBytes (host : Host) (source : Text) : Except FileError Bytes :=
  if source = ['-'] then .ok host.input else host.files.read (.ofText source)

/-- A source has bytes, which decode to the text but for its line breaks. -/
def Supplies (host : Host) (source t : Text) : Prop :=
  ∃ bytes text, sourceBytes host source = .ok bytes ∧ Utf8.decode bytes = .ok text ∧
    t = text.unifyBreaks

def Lacks (host : Host) (source : Text) : Prop :=
  source ≠ ['-'] ∧ host.files.look (.ofText source) = .ok none

/-- A source of which there are bytes is read if they decode. -/
theorem readSource_of_bytes {bytes : Bytes} (h : sourceBytes host source = .ok bytes) :
    readSource host source =
      match Utf8.decode bytes with
      | .ok t => .text t.unifyBreaks
      | .error d => .fault (.undecodable d) := by
  by_cases hdash : source = ['-']
  · subst hdash
    cases h
    exact if_pos rfl
  · rw [sourceBytes, if_neg hdash] at h
    obtain ⟨found, hlook⟩ := FileTree.look_of_read h
    rw [readSource, if_neg hdash, hlook, Document.readText, h]
    cases hdecode : Utf8.decode bytes <;> simp only [hdecode]

/-- A source of which there are no bytes is missing, or something else stands in its place. -/
theorem readSource_of_error {e : FileError} (h : sourceBytes host source = .error e) :
    readSource host source = .missing ∧ Lacks host source ∨
      ∃ f, readSource host source = .fault f ∧ ¬ Lacks host source := by
  by_cases hdash : source = ['-']
  · rw [sourceBytes, if_pos hdash] at h
    contradiction
  · rw [sourceBytes, if_neg hdash] at h
    cases hlook : host.files.look (.ofText source) with
    | error e' =>
      refine .inr ⟨.file e', by rw [readSource, if_neg hdash, hlook], ?_⟩
      rintro ⟨-, hnone⟩
      cases hlook.symm.trans hnone
    | ok found =>
      cases found with
      | none => exact .inl ⟨by rw [readSource, if_neg hdash, hlook], hdash, hlook⟩
      | some found =>
        refine .inr ⟨.file e, by rw [readSource, if_neg hdash, hlook, Document.readText, h], ?_⟩
        rintro ⟨-, hnone⟩
        cases hlook.symm.trans hnone

theorem not_lacks_of_bytes {bytes : Bytes} (h : sourceBytes host source = .ok bytes) :
    ¬ Lacks host source := by
  rintro ⟨hdash, hnone⟩
  rw [sourceBytes, if_neg hdash] at h
  obtain ⟨found, hlook⟩ := FileTree.look_of_read h
  cases hlook.symm.trans hnone

theorem readSource_eq_text_iff {t : Text} :
    readSource host source = .text t ↔ Supplies host source t := by
  cases hbytes : sourceBytes host source with
  | error e =>
    have hread : readSource host source ≠ .text t := by
      rcases readSource_of_error hbytes with ⟨h, -⟩ | ⟨f, h, -⟩ <;> simp [h]
    refine iff_of_false hread ?_
    rintro ⟨bytes, text, h, -⟩
    cases hbytes.symm.trans h
  | ok bytes =>
    rw [readSource_of_bytes hbytes]
    constructor
    · intro h
      cases hdecode : Utf8.decode bytes with
      | error d =>
        rw [hdecode] at h
        cases h
      | ok text =>
        rw [hdecode] at h
        cases h
        exact ⟨bytes, text, hbytes, hdecode, rfl⟩
    · rintro ⟨bytes', text, h, hdecode, rfl⟩
      cases hbytes.symm.trans h
      rw [hdecode]

theorem readSource_eq_missing_iff : readSource host source = .missing ↔ Lacks host source := by
  cases hbytes : sourceBytes host source with
  | error e =>
    rcases readSource_of_error hbytes with ⟨h, hlacks⟩ | ⟨f, h, hlacks⟩
    · exact iff_of_true h hlacks
    · exact iff_of_false (by simp [h]) hlacks
  | ok bytes =>
    refine iff_of_false ?_ (not_lacks_of_bytes hbytes)
    rw [readSource_of_bytes hbytes]
    cases Utf8.decode bytes <;> simp

/-- A command line leads to a run over a sample, which a file holds: it is checked by the settings
that are loaded. -/
structure Samples (host : Host) (words : List Text) (o : Options) (settings : Settings)
    (source t : Text) : Prop where
  accepted : Options.ofWords words = .ok o
  snippet : o.snippet = some (.value source)
  noStrategy : o.strategy = none
  goesBy : GoesBy host o settings
  isFile : source ≠ ['-']
  reads : host.files.read (Path.ofText source) = .ok (Utf8.encode t)
  unbroken : '\r' ∉ t

theorem Samples.readSource_eq (h : Samples host words o settings source t) :
    readSource host source = .text t := by
  apply readSource_eq_text_iff.2
  refine ⟨Utf8.encode t, t, ?_, Utf8.decode_encode t, (Text.unifyBreaks_of_not_mem h.unbroken).symm⟩
  rw [sourceBytes, if_neg h.isFile, h.reads]

theorem Samples.run_eq (h : Samples host words o settings source t) :
    CommandLine.run host words =
      conclude host o.verbose
        (DocSamples.validate ((toolFor host settings o).check host.runner) t)
        (concludeVerdict source o.json) := by
  rw [run_eq_runSnippet h.accepted h.snippet h.goesBy]
  simp only [runSnippet, h.readSource_eq, h.noStrategy]

theorem alike_toolFor (host host' : Host) (settings : Settings) (h : o.tool = o'.tool) :
    (toolFor host settings o).Alike (toolFor host' settings o') := by
  unfold toolFor
  rw [h]
  split <;> exact ⟨rfl, rfl, rfl⟩

/-- The scratch file for a text can be written. -/
def Host.WritesScratch (host : Host) (n : Nat) : Prop :=
  ∃ after, host.files.write (host.scratch.child (host.scratchName n)) [] = .ok after

theorem writes_toolFor (host : Host) (settings : Settings) (o : Options) (n : Nat) :
    (toolFor host settings o).Writes host.files n ↔ host.WritesScratch n := by
  unfold toolFor
  split <;> exact .rfl

/-- A response tells of some reports, after a log. -/
def TellsReports (o : Options) (rs : List Report) (response : Response) : Prop :=
  response.exit = (concludeReports o.json o.verbose rs).exit ∧
    response.output = unlines (concludeReports o.json o.verbose rs).output ∧
    ∃ log, response.errors = unlines (log ++ (concludeReports o.json o.verbose rs).errors)

/-- A run over a document and a run on the one sample that it has go by the same settings. The
commands of both go by the text in their file, and the same scratch files can be written. -/
structure RunsOnSample (host host' : Host) (words words' : List Text) (o o' : Options)
    (settings : Settings) (d : Document) (f : Fence) (source : Text) (behave : Text → Ending) :
    Prop where
  selects : Selects host words o settings [d]
  samples : Samples host' words' o' settings source f.text
  sameTool : o.tool = o'.tool
  hasSample : d.HasSample settings f
  follows : host.runner.Follows behave
  follows' : host'.runner.Follows behave
  writes_iff : ∀ n, host.WritesScratch n ↔ host'.WritesScratch n

namespace RunsOnSample

/-- Both runs make the same calls. They are ended by faults, or tell the report and the verdict that
belong together. -/
theorem lockstep (h : RunsOnSample host host' words words' o o' settings d f source behave) :
    (CommandLine.run host words).workspace.commands.map Command.call =
      (CommandLine.run host' words').workspace.commands.map Command.call ∧
    ((∃ e e',
        Faults (DocSamples.validate ((toolFor host settings o).check host.runner) f.text)
          { files := host.files } e ∧
        (CommandLine.run host words).exit = .fault e ∧
        (CommandLine.run host' words').exit = .fault e' ∧
        (CommandLine.run host' words').output = []) ∨
      ∃ (v : Verdict) (r : Report) (n : Nat), r.GoesBy settings d f v ∧
        isWritable (v.attempts : Int) = true ∧ v.line.getD 1 = n ∧ n < Nat.pow 10 digitLimit ∧
        TellsReports o [r] (CommandLine.run host words) ∧
        (CommandLine.run host' words').exit = (concludeVerdict source o'.json v).exit ∧
        (CommandLine.run host' words').output =
          unlines (concludeVerdict source o'.json v).output) := by
  obtain ⟨files, hdocs, hrun⟩ := h.selects.run_eq
  cases hdocs with
  | cons hd hnil =>
  cases hnil
  have halike := alike_toolFor host host' settings h.sameTool
  have hagree := Tool.check_agree halike h.follows h.follows'
  have hstart : Tool.Alongside (toolFor host settings o) (toolFor host' settings o')
      { files := host.files } { files := host'.files } := by
    refine ⟨rfl, rfl, ?_⟩
    intro n
    rw [writes_toolFor, writes_toolFor, h.writes_iff]
  have hplan : Planned (Embeds f.text) (fun _ => False)
      fun _ check => DocSamples.validate check f.text := planned_validate f.text
  -- The document's run does nothing else with the checker than the sample's.
  obtain ⟨result, result', texts, space, space', hcomes, hcomes', heq, hspaces⟩ :=
    hplan.lockstep hagree hstart
  obtain ⟨journal', hconclude'⟩ :=
    conclude_of_comes hcomes' o'.verbose (concludeVerdict source o'.json)
  rw [← h.samples.run_eq] at hconclude'
  cases result with
  | error e =>
    cases result' with
    | ok v => contradiction
    | error e' =>
      have hreports := h.hasSample.comes_error_reportAll hd hcomes
      obtain ⟨journal, hconclude⟩ :=
        conclude_of_comes hreports o.verbose (concludeReports o.json o.verbose)
      rw [← hrun] at hconclude
      rw [hconclude, hconclude']
      exact ⟨hspaces.calls, .inl ⟨e, e', hcomes.faults, rfl, rfl, rfl⟩⟩
  | ok v =>
    cases result' with
    | error e' => contradiction
    | ok v' =>
      cases heq
      obtain ⟨r, hreports, hgoes⟩ := h.hasSample.ends_reportAll hd hcomes.ends
      obtain ⟨journal, hconclude⟩ :=
        conclude_of_comes hreports.comes o.verbose (concludeReports o.json o.verbose)
      rw [← hrun] at hconclude
      obtain ⟨tried, hclimb, rfl⟩ := hcomes.climbs
      obtain ⟨n, hline, hn⟩ := hclimb.getD_line_verdict (Tool.check_reportsWritable _ _)
      rw [hconclude, hconclude']
      exact ⟨hspaces.calls, .inr ⟨_, r, n, hgoes, hclimb.isWritable_attempts, hline, hn,
        ⟨rfl, rfl, _, rfl⟩, rfl, rfl⟩⟩

end RunsOnSample

theorem code_exit_concludeReports_of_goesBy (json verbose : Bool) (h : r.GoesBy settings d f v) :
    (concludeReports json verbose [r]).exit.code = 1 ↔ v.isFailure = true := by
  cases hfail : v.isFailure with
  | true =>
    have hr : r.isOk = false := by
      rw [Report.isOk, h.failure_eq, hfail]
      rfl
    exact iff_of_true (code_exit_concludeReports json verbose ⟨r, List.mem_cons_self, hr⟩) rfl
  | false =>
    have hok : ∀ r' ∈ [r], r'.isOk = true := by
      intro r' hr'
      cases List.mem_singleton.1 hr'
      rw [Report.isOk, h.failure_eq, hfail]
      rfl
    have hstatus : (concludeReports json verbose [r]).exit = .status 0 := by
      cases json with
      | false => exact (concludeReports_of_isOk hok verbose).1
      | true =>
        have hcount : ∀ k : Nat, k ≤ 1 → k < Nat.pow 10 digitLimit :=
          fun k hk => Nat.lt_of_lt_of_le (Nat.lt_of_le_of_lt hk (by decide)) ten_le_pow_digitLimit
        apply exit_concludeReports_json hok
        intro r' hr'
        cases List.mem_singleton.1 hr'
        exact ⟨hcount _ h.checked_le, hcount _ h.skipped_le⟩
    rw [hstatus]
    exact iff_of_false Nat.zero_ne_one Bool.false_ne_true

/-- A failure is at a line of the sample below the line of its fence, and has a message, exactly if
they are what is written about the sample. Where no line is named, it is the first. -/
structure FailureMatches (settings : Settings) (f : Fence) (source : Text) (failure : Failure)
    (output : Text) : Prop where
  written_iff : ∀ (l : Nat) (message : Text),
    failure.line = f.startLine + l ∧
        failure.message = settings.language ++ " syntax error: " ++ message ↔
      output = unlines [rejectionLine source l message]
  noLine : failure.verdict.line = none → failure.line = f.startLine + 1 ∧
    output = unlines [rejectionLine source 1 failure.verdict.message]

theorem failureMatches_of_line {path : Option Path} (hline : v.line.getD 1 = n) :
    FailureMatches settings f source (Document.failureOf settings path f v)
      (unlines [rejectionLine source n v.message]) := by
  refine ⟨?_, ?_⟩
  · intro l message
    simp only [Document.failureOf, hline]
    constructor
    · rintro ⟨hl, hmessage⟩
      obtain rfl : n = l := by omega
      rw [List.append_cancel_left hmessage]
    · intro hwritten
      obtain ⟨rfl, rfl⟩ := rejectionLine_inj (unlines_singleton_injective hwritten)
      exact ⟨rfl, rfl⟩
  · intro hnone
    change v.line = none at hnone
    rw [hnone] at hline
    cases hline
    refine ⟨?_, rfl⟩
    rw [Document.failureOf, hnone]
    rfl

/-- Every text can be given to a command, and what the command does has an outcome. -/
structure Regular (host : Host) (settings : Settings) (o : Options) (behave : Text → Ending) :
    Prop where
  canWrite : ∀ n, host.WritesScratch n
  reads : ReadsRejections (toolFor host settings o) behave
  ends : ∀ t reason, behave t ≠ .failed reason

theorem Regular.exists_outcome (h : Regular host settings o behave) (t : Text) :
    ∃ outcome, (toolFor host settings o).outcome (behave t) = .ok outcome := by
  cases hb : behave t with
  | exited status output errors =>
    by_cases hs : status = 0
    · subst hs
      exact ⟨_, rfl⟩
    · obtain ⟨diagnostic, hparse⟩ := Diagnostic.exists_parse (h.reads t status output errors hb hs)
      rw [Tool.outcome, Tool.fst_judge_exited hs, hparse]
      exact ⟨_, rfl⟩
  | failed reason => exact absurd hb (h.ends t reason)
  | notFound | notPermitted | timedOut => exact ⟨_, rfl⟩

theorem Regular.not_faults (h : Regular host settings o behave) (hrun : host.runner.Follows behave)
    (t : Text) {e : Fault} :
    ¬ Faults (DocSamples.validate ((toolFor host settings o).check host.runner) t)
      { files := host.files } e := by
  have hfollows : ((toolFor host settings o).check host.runner).Follows
      (fun space => (toolFor host settings o).CanWrite space.files)
      (toolAnswer host settings o behave) := Tool.check_follows hrun
  have hplan : Planned (Embeds t) (fun _ => False) fun _ check => DocSamples.validate check t :=
    planned_validate t
  have htotal := hfollows.isTotalOn h.exists_outcome
  have hcan : (fun space : Workspace => (toolFor host settings o).CanWrite space.files)
      { files := host.files } := fun n => (writes_toolFor host settings o n).2 (h.canWrite n)
  obtain ⟨result, texts, space, hcomes, -, hown⟩ := hplan.result_of_isTotalOn htotal hcan
  intro hfault
  cases result with
  | error e' => exact hown e' rfl
  | ok v =>
    have hresult := hcomes.ends.perform_fst
    rw [hfault.perform_fst] at hresult
    contradiction

/-- A run over a document with one sample and a run on the sample fail together and make the same
calls. A failure has the line and the message that are written about the sample, unless both runs
are ended by faults, of which there are none where the tool has an outcome for every text. -/
theorem sample_and_document_agree
    (h : RunsOnSample host host' words words' o o' settings d f source behave) :
    ((CommandLine.run host words).exit.code = 1 ↔
      (CommandLine.run host' words').exit.code = 1) ∧
    (CommandLine.run host words).workspace.commands.map Command.call =
      (CommandLine.run host' words').workspace.commands.map Command.call ∧
    ((CommandLine.run host words).exit.code = 1 → o'.json = false →
      (∃ r failure, r.failure = some failure ∧ TellsReports o [r] (CommandLine.run host words) ∧
        FailureMatches settings f source failure (CommandLine.run host' words').output) ∨
      ¬ Regular host settings o behave ∧
        ∃ e e', (CommandLine.run host words).exit = .fault e ∧
          (CommandLine.run host' words').exit = .fault e' ∧
          (CommandLine.run host' words').output = []) := by
  obtain ⟨hcalls, hends⟩ := h.lockstep
  rcases hends with ⟨e, e', hfault, hexit, hexit', houtput⟩ |
    ⟨v, r, n, hgoes, hattempts, hline, hn, htells, hexit', houtput'⟩
  · refine ⟨?_, hcalls, ?_⟩
    · rw [hexit, hexit']
      exact iff_of_true rfl rfl
    · intro _ _
      have hirregular : ¬ Regular host settings o behave :=
        fun hregular => hregular.not_faults h.follows f.text hfault
      exact .inr ⟨hirregular, e, e', hexit, hexit', houtput⟩
  · have hcode := code_exit_concludeReports_of_goesBy o.json o.verbose hgoes
    have hcode' := code_exit_concludeVerdict source o'.json hattempts
    rw [← htells.1] at hcode
    rw [← hexit'] at hcode'
    refine ⟨hcode.trans hcode'.symm, hcalls, ?_⟩
    intro hfail htext
    have hfailure := hcode.1 hfail
    have hwritten : (concludeVerdict source o'.json v).output =
        [rejectionLine source n v.message] := by
      rw [concludeVerdict, htext, hfailure, rejection_eq hline hn]
      rfl
    have hr := hgoes.failure_eq
    rw [hfailure, if_pos rfl] at hr
    rw [houtput', hwritten]
    exact .inl ⟨r, _, hr, htells, failureMatches_of_line hline⟩

/-- Commands that reject every text at its fourth line. -/
def rejectsText : Text → Ending := fun _ => .exited 1 [] "x:4:2: expected"

def rejectingRunner : Runner := fun _ _ => ⟨rejectsText [], false⟩

def rejectingHost : Host := { assertionHost none with runner := rejectingRunner }

def sampleHost : Host where
  files := ⟨[(["var"], .directory), (["a.scaf"], .file (Utf8.encode "assert (x)"))], []⟩
  project := ⟨1, ["project"]⟩
  environment := none
  input := []
  scratch := ⟨1, ["var"]⟩
  scratchName _ := "y"
  runner := rejectingRunner

theorem withEnvironment_assertionSettings :
    (Settings.default ⟨1, ["project"]⟩).withEnvironment none = assertionSettings "scaf" := by
  simp only [assertionSettings, Settings.default, Settings.withEnvironment_none]

theorem goesBy_assertionSettings
    (hload : Settings.load host.files host.project host.environment (o.config.bind Given.value?) =
      .ok ((Settings.default ⟨1, ["project"]⟩).withEnvironment none))
    (htool : o.tool.bind Given.value? = none) (htimeout : o.timeout = none) :
    GoesBy host o (assertionSettings "scaf") := by
  rw [withEnvironment_assertionSettings] at hload
  refine ⟨_, hload, ?_⟩
  rw [htool, htimeout]
  exact (Overrides.apply_nothing _).symm

theorem samples_sampleHost :
    Samples sampleHost ["--snippet", "a.scaf"] { snippet := some (.value "a.scaf") }
      (assertionSettings "scaf") "a.scaf" "assert (x)" where
  accepted := by rfl
  snippet := rfl
  noStrategy := rfl
  goesBy := goesBy_assertionSettings (by rfl) rfl rfl
  isFile := by decide
  reads := by rfl
  unbroken := by decide

theorem hasSample_assertionDocument :
    assertionDocument.HasSample (assertionSettings "scaf") Block.indentedAssertion.fence where
  tagged_eq := by
    rw [Document.tagged, scan_assertionDocument]
    rfl
  isSkipped_eq := by decide

theorem runsOnSample_assertion :
    RunsOnSample rejectingHost sampleHost ["a.md"] ["--snippet", "a.scaf"] assertionOptions
      { snippet := some (.value "a.scaf") } (assertionSettings "scaf") assertionDocument
      Block.indentedAssertion.fence "a.scaf" rejectsText where
  selects := by
    have hselects : Selects (assertionHost none) ["a.md"] assertionOptions
        (assertionSettings "scaf") [assertionDocument] :=
      selects_assertionHost withEnvironment_assertionSettings
    exact ⟨hselects.accepted, hselects.noSnippet, hselects.loads, hselects.reads⟩
  samples := samples_sampleHost
  sameTool := rfl
  hasSample := hasSample_assertionDocument
  follows := fun _ _ _ _ => rfl
  follows' := fun _ _ _ _ => rfl
  writes_iff := fun _ => iff_of_true ⟨_, by rfl⟩ ⟨_, by rfl⟩

theorem regular_rejectingHost :
    Regular rejectingHost (assertionSettings "scaf") assertionOptions rejectsText where
  canWrite := fun _ => ⟨_, by rfl⟩
  reads := by
    intro t status output errors h _
    cases h
    intro ds hds _
    exact Nat.le_trans hds.length_le (by decide)
  ends := by
    intro t reason h
    cases h

/-- The fourth line of the test around the sample is its first line, and the second of the
document. -/
theorem sample_and_document_agree_assertion :
    (run rejectingHost ["a.md"]).exit.code = 1 ∧
    (run sampleHost ["--snippet", "a.scaf"]).output =
      unlines ["a.scaf:1:1: scaf syntax error: expected"] ∧
    (run rejectingHost ["a.md"]).workspace.commands.map Command.call =
      (run sampleHost ["--snippet", "a.scaf"]).workspace.commands.map Command.call ∧
    ∃ r failure, r.failure = some failure ∧
      TellsReports assertionOptions [r] (run rejectingHost ["a.md"]) ∧
      failure.line = 2 ∧ failure.message = ("scaf syntax error: expected" : Text) := by
  obtain ⟨hcode, hcalls, htold⟩ := sample_and_document_agree runsOnSample_assertion
  have hcode' : (run sampleHost ["--snippet", "a.scaf"]).exit.code = 1 := by decide +kernel
  have houtput : (run sampleHost ["--snippet", "a.scaf"]).output =
      unlines ["a.scaf:1:1: scaf syntax error: expected"] := by decide +kernel
  have hline : rejectionLine "a.scaf" 1 "expected" = "a.scaf:1:1: scaf syntax error: expected" := by
    decide
  refine ⟨hcode.2 hcode', houtput, hcalls, ?_⟩
  rcases htold (hcode.2 hcode') rfl with ⟨r, failure, hr, htells, hmatches⟩ | ⟨hirregular, -⟩
  · rw [← hline] at houtput
    obtain ⟨hfailure, hmessage⟩ := (hmatches.written_iff 1 "expected").2 houtput
    exact ⟨r, failure, hr, htells, hfailure, hmessage⟩
  · exact absurd regular_rejectingHost hirregular

end CommandLine

end DocSamples
