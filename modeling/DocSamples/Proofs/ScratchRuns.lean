import DocSamples.Proofs.CommandOptions
import DocSamples.Proofs.DocumentRun
import DocSamples.Proofs.PlannedRuns
import DocSamples.Proofs.ScratchFiles

namespace DocSamples

open Run

namespace CommandLine

variable {host : Host} {words : List Text} {o : Options} {α : Type} {own : Fault → Prop}
  {kind : Text → Prop}

def GoesBy (host : Host) (o : Options) (settings : Settings) : Prop :=
  ∃ loaded,
    Settings.load host.files host.project host.environment (o.config.bind Given.value?) =
      .ok loaded ∧
    settings = Overrides.apply { tool := o.tool.bind Given.value?, timeout := o.timeout } loaded

/-- A program that a run checks: it embeds the sample that the command line names, or the sample of
a document that the command line selects. -/
inductive Candidate (host : Host) (words : List Text) : Text → Prop
  | sample {o : Options} {source t program : Text} (ho : Options.ofWords words = .ok o)
      (hsnippet : o.snippet = some (.value source)) (hread : readSource host source = .text t)
      (h : Embeds t program) : Candidate host words program
  | document {o : Options} {settings : Settings} {paths : List Path} {program : Text}
      (ho : Options.ofWords words = .ok o) (hsnippet : o.snippet = none)
      (hsettings : GoesBy host o settings)
      (hpaths : host.files.documents settings.suffixes
        (if o.paths.isEmpty then [settings.docsDir] else o.paths.map Path.ofText) = .ok paths)
      (h : Document.EmbedsSampleOfFile settings host.files paths program) :
      Candidate host words program

/-- The files and commands of a response are those that a tool leaves on a disk after some
candidates, of which only the last may have no outcome. -/
def LeavesBy (disk : Disk) (host : Host) (words : List Text) (tool : Tool) (r : Response) : Prop :=
  ∃ texts, (∀ t ∈ texts, Candidate host words t) ∧
    (tool.checkOn disk host.runner).Proceeds { files := host.files } texts ∧
    r.workspace = (tool.checkOn disk host.runner).after { files := host.files } texts

theorem scratch_toolFor (host : Host) (settings : Settings) (o : Options) :
    (toolFor host settings o).scratch = host.scratch ∧
      (toolFor host settings o).scratchName = host.scratchName := by
  unfold toolFor
  split <;> exact ⟨rfl, rfl⟩

theorem leavesBy_respond (disk : Disk) (host : Host) (words : List Text) (tool : Tool)
    (exit : Exit) (output errors : Text) :
    LeavesBy disk host words tool (respond host exit output errors) :=
  ⟨[], by simp, trivial, rfl⟩

theorem leavesBy_conclude {run : ∀ σ : Type, Checker σ → Run σ α}
    (h : Planned (Candidate host words) own run) (disk : Disk) (tool : Tool) (verbose : Bool)
    (conclusion : α → Conclusion) :
    LeavesBy disk host words tool
      (conclude host verbose (run Workspace (tool.checkOn disk host.runner)) conclusion) := by
  obtain ⟨result, texts, hcomes, hkind, hproceeds⟩ :=
    h.exists_comes (tool.checkOn disk host.runner) { files := host.files }
  obtain ⟨s, hperform, -, hmemory⟩ := hcomes.exists_perform
  refine ⟨texts, hkind, hproceeds, ?_⟩
  rw [conclude, hperform]
  cases result <;> exact hmemory

theorem leavesBy_runSnippet (disk : Disk) (tool : Tool) {source : Text}
    (ho : Options.ofWords words = .ok o) (hsnippet : o.snippet = some (.value source)) :
    LeavesBy disk host words tool
      (runSnippet host (tool.checkOn disk host.runner) o source) := by
  unfold runSnippet
  cases hread : readSource host source with
  | missing | fault => exact leavesBy_respond disk host words _ _ _ _
  | text t =>
    have hsample : ∀ program, Embeds t program → Candidate host words program :=
      fun _ h => .sample ho hsnippet hread h
    cases hstrategy : o.strategy with
    | none =>
      have hplan : Planned (Candidate host words) (fun _ => True)
          fun _ check => DocSamples.validate check t :=
        (planned_validate t).mono hsample fun _ h => h
      exact leavesBy_conclude hplan _ _ _ _
    | some given =>
      cases given with
      | nothing => exact leavesBy_respond disk host words _ _ _ _
      | value s =>
        have hs := Options.namesStrategy_ofWords ho s hstrategy
        have hplan : Planned (Candidate host words) (fun _ => True)
            fun _ check => s.attempt check t :=
          (Strategy.planned_attempt hs).mono hsample fun _ h => h
        exact leavesBy_conclude hplan _ _ _ _

theorem leavesBy_runDocuments (disk : Disk) (tool : Tool) {settings : Settings}
    (ho : Options.ofWords words = .ok o) (hsnippet : o.snippet = none)
    (hsettings : GoesBy host o settings) :
    LeavesBy disk host words tool
      (runDocuments host (tool.checkOn disk host.runner) settings o) := by
  simp only [runDocuments]
  split
  · exact leavesBy_respond disk host words _ _ _ _
  · exact leavesBy_respond disk host words _ _ _ _
  · rename_i files _ hpaths
    have hplan : Planned (Candidate host words)
        (fun e => ∃ path ∈ files, Document.ofFile host.files path = .error e)
        fun _ check => Document.reportAll check settings host.files files :=
      (Document.planned_reportAll settings host.files files).mono
        (fun _ h => .document ho hsnippet hsettings hpaths h) fun _ h => h
    exact leavesBy_conclude hplan _ _ _ _

/-- A run that has its settings works with the tool that they lead to. -/
theorem leavesBy_runOn {settings : Settings} (disk : Disk) (ho : Options.ofWords words = .ok o)
    (hsettings : GoesBy host o settings) :
    LeavesBy disk host words (toolFor host settings o) (runOn disk host words) := by
  have hgoes := hsettings
  obtain ⟨loaded, hload, rfl⟩ := hsettings
  simp only [runOn, ho, runOptions, hload]
  split
  · rename_i source hsnippet
    exact leavesBy_runSnippet disk _ ho hsnippet
  · exact leavesBy_respond disk host words _ _ _ _
  · rename_i hsnippet
    exact leavesBy_runDocuments disk _ ho hsnippet hgoes

theorem exists_workspace_run {settings : Settings} (ho : Options.ofWords words = .ok o)
    (hsettings : GoesBy host o settings) :
    ∃ texts, (run host words).workspace =
      ((toolFor host settings o).check host.runner).after { files := host.files } texts := by
  obtain ⟨texts, -, -, hworkspace⟩ := leavesBy_runOn .ample ho hsettings
  exact ⟨texts, hworkspace⟩

/-- Whatever a run comes to, it leaves what a tool of the host leaves. -/
theorem exists_leavesBy_runOn (disk : Disk) (host : Host) (words : List Text) :
    ∃ tool : Tool, tool.scratch = host.scratch ∧ tool.scratchName = host.scratchName ∧
      LeavesBy disk host words tool (runOn disk host words) := by
  have hrespond : ∀ exit output errors, ∃ tool : Tool, tool.scratch = host.scratch ∧
      tool.scratchName = host.scratchName ∧
        LeavesBy disk host words tool (respond host exit output errors) := by
    intro exit output errors
    obtain ⟨hscratch, hname⟩ := scratch_toolFor host (.default host.project) {}
    exact ⟨_, hscratch, hname, leavesBy_respond disk host words _ exit output errors⟩
  cases ho : Options.ofWords words with
  | error stop =>
    simp only [runOn, ho]
    cases stop <;> exact hrespond _ _ _
  | ok o =>
    cases hload : Settings.load host.files host.project host.environment
        (o.config.bind Given.value?) with
    | error e =>
      simp only [runOn, ho, runOptions, hload]
      split <;> exact hrespond _ _ _
    | ok loaded =>
      refine ⟨_, ?_, ?_, leavesBy_runOn disk ho ⟨loaded, hload, rfl⟩⟩
      · exact (scratch_toolFor host _ o).1
      · exact (scratch_toolFor host _ o).2

/-- On a disk with room for everything a run leaves the files as they were. -/
theorem files_run (hfresh : host.files.HasFreshNames host.scratch host.scratchName)
    (words : List Text) : (run host words).workspace.files = host.files := by
  obtain ⟨tool, hscratch, hname, texts, -, hproceeds, hworkspace⟩ :=
    exists_leavesBy_runOn .ample host words
  rw [← hscratch, ← hname] at hfresh
  have hfiles := (Tool.files_after_iff hfresh hproceeds).2 (tool.eachFits_ample _ texts)
  rw [← hworkspace] at hfiles
  exact hfiles

/-- Checks, and the checks of a whole run, leave no file behind, whatever the commands do, exactly
if all fits that they put into a file: a file stays that was created for points without bytes, or on
a disk without room. Each command is given its text in the one new file, and there are no commands
if no file can be created. -/
theorem no_file_stays_iff (tool : Tool) (disk : Disk) (runner : Runner) (space : Workspace)
    (htool : space.files.HasFreshNames tool.scratch tool.scratchName) (pss : List Points)
    (hhost : host.files.HasFreshNames host.scratch host.scratchName) (words : List Text) :
    ((∀ before ps later, pss = before ++ ps :: later →
        tool.Tidies disk runner (tool.afterPoints disk runner space before) ps) ↔
      tool.EachFits disk space pss) ∧
    ∃ (used : Tool) (texts : List Text), used.scratch = host.scratch ∧
      used.scratchName = host.scratchName ∧ (∀ t ∈ texts, Candidate host words t) ∧
      (runOn disk host words).workspace =
        (used.checkOn disk host.runner).after { files := host.files } texts ∧
      ((runOn disk host words).workspace.files = host.files ↔
        used.EachFits disk { files := host.files } (texts.map .ofText)) ∧
      (∀ c ∈ (runOn disk host words).workspace.commands,
        ∃ t ∈ texts, c.ChecksIn host.scratch host.files t) ∧
      ((∀ n, ¬ used.Writes host.files n) →
        (runOn disk host words).workspace.commands = []) := by
  refine ⟨Tool.tidies_afterPoints_iff htool disk runner pss, ?_⟩
  obtain ⟨used, hscratch, hname, texts, hkind, hproceeds, hworkspace⟩ :=
    exists_leavesBy_runOn disk host words
  rw [← hscratch, ← hname] at hhost
  obtain ⟨cs, hcommands, hcs, hnone⟩ := Tool.commands_after hhost hproceeds
  refine ⟨used, texts, hscratch, hname, hkind, hworkspace, ?_, ?_, ?_⟩
  · rw [hworkspace]
    exact Tool.files_after_iff hhost hproceeds
  · rw [hworkspace, hcommands, ← hscratch]
    exact hcs
  · rw [hworkspace, hcommands]
    exact hnone

def killedRunner : Runner := fun _ _ => ⟨.failed "killed", true⟩

def assertionTool : Tool := toolFor (assertionHost none) (assertionSettings "scaf") {}

theorem hasFreshNames_assertionHost :
    (assertionHost none).files.HasFreshNames ⟨1, ["tmp"]⟩ fun _ => "x" := by
  intro n
  have hname : ("x" : Text) ≠ ['.', '.'] := by decide
  refine ⟨hname, ?_⟩
  intro place h
  have hplace : (assertionHost none).files.place? (Path.child ⟨1, ["tmp"]⟩ "x") =
      .ok ["tmp", "x"] := by rfl
  cases hplace.symm.trans h
  rfl

/-- A surrogate has no bytes, and a disk may have room for one byte only: the file stays, empty or
with this byte in it, and there is no command. -/
theorem file_stays_of_surrogate :
    (∃ left, assertionTool.checkPoints .ample killedRunner [.surrogate 0xDCFF]
        { files := (assertionHost none).files } =
          ⟨.error (.unencodable [.surrogate 0xDCFF]), { files := left, count := 1 }, []⟩ ∧
      left.read ⟨1, ["tmp", "x"]⟩ = .ok [] ∧ left ≠ (assertionHost none).files) ∧
    ∃ left, assertionTool.checkPoints (fun _ => some 1) killedRunner (.ofText "ab")
        { files := (assertionHost none).files } =
          ⟨.error .noSpace, { files := left, count := 1 }, []⟩ ∧
      left.read ⟨1, ["tmp", "x"]⟩ = .ok (Utf8.encode "a") ∧ left ≠ (assertionHost none).files := by
  refine ⟨⟨_, rfl, rfl, ?_⟩, ⟨_, rfl, rfl, ?_⟩⟩
  all_goals
    intro h
    exact absurd (congrArg FileTree.entries h) (by decide)

theorem no_file_stays_iff_killedRunner :
    (∀ before ps later, ["a", "b"].map Points.ofText = before ++ ps :: later →
      assertionTool.Tidies .ample killedRunner
        (assertionTool.afterPoints .ample killedRunner
          { files := (assertionHost none).files } before) ps) ∧
    (runOn .ample (assertionHost none) ["a.md"]).workspace.files = (assertionHost none).files ∧
    ¬ ∀ before ps later, ["a", "ab"].map Points.ofText = before ++ ps :: later →
      assertionTool.Tidies (fun _ => some 1) killedRunner
        (assertionTool.afterPoints (fun _ => some 1) killedRunner
          { files := (assertionHost none).files } before) ps := by
  obtain ⟨htidies, used, texts, -, -, -, -, hfiles, -⟩ := no_file_stays_iff assertionTool .ample
    killedRunner { files := (assertionHost none).files } hasFreshNames_assertionHost
    (["a", "b"].map Points.ofText) hasFreshNames_assertionHost ["a.md"]
  obtain ⟨hfull, -⟩ := no_file_stays_iff assertionTool (fun _ => some 1) killedRunner
    { files := (assertionHost none).files } hasFreshNames_assertionHost
    (["a", "ab"].map Points.ofText) hasFreshNames_assertionHost ["a.md"]
  refine ⟨htidies.2 (Tool.eachFits_ample _ _ ["a", "b"]),
    hfiles.2 (used.eachFits_ample _ texts), ?_⟩
  intro h
  have hfits := hfull.1 h [.ofText "a"] (.ofText "ab") [] rfl ⟨_, by rfl⟩
  exact absurd (Points.fits_ofText_iff.1 hfits 1 rfl) (by decide)

end CommandLine

end DocSamples
