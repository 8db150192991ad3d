import DocSamples.Proofs.FileSelection
import DocSamples.Proofs.OrdinaryEndings
import Mathlib.Algebra.GroupWithZero.Nat

namespace DocSamples

open Run

def JsonValue.member? (name : Text) : JsonValue → Option JsonValue
  | object members => members.lookup name
  | _ => none

namespace CommandLine

/-- Whether an entry of the report says that its document failed. -/
def tellsFailure (entry : JsonValue) : Bool :=
  match entry.member? "ok" with
  | some (.bool ok) => !ok
  | _ => false

/-- A line tells of a failure as the entry of its document does: the path, the line and the column,
then the message. -/
inductive LineOf (entry : JsonValue) : Text → Prop
  | intro {error : JsonValue} {path message : Text} {line column : Int}
      (hpath : entry.member? "path" = some (.text path))
      (herror : entry.member? "error" = some error)
      (hline : error.member? "line" = some (.int line))
      (hcolumn : error.member? "column" = some (.int column))
      (hmessage : error.member? "message" = some (.text message)) :
      LineOf entry
        (path ++ ":" ++ Text.ofInt line ++ ":" ++ Text.ofInt column ++ ": " ++ message)

/-- Lines that tell some texts, lines of the log aside. -/
inductive TellBesideLog (verbose : Bool) : List Text → List Text → Prop
  | nil : TellBesideLog verbose [] []
  | note {n : Note} {lines told : List Text} (hn : n.isShown verbose = true)
      (h : TellBesideLog verbose lines told) : TellBesideLog verbose (n.line :: lines) told
  | told {line : Text} {lines told : List Text} (h : TellBesideLog verbose lines told) :
      TellBesideLog verbose (line :: lines) (line :: told)

/-- A response in text and one in JSON report alike on some files, of which each has its entry. -/
structure ReportAlike (files : List Path) (verbose : Bool) (text json : Response)
    (entries : List JsonValue) (failed : Nat) : Prop where
  output_json : json.output =
    unlines [(JsonValue.object [("documents", .array entries), ("failed", .int failed)]).renderAt 0]
  listed : entries.map (·.member? "path") = files.map fun path => some (.text path.text)
  once : files.Nodup
  failed_eq : failed = entries.countP tellsFailure
  exit : text.exit = .status (if failed = 0 then 0 else 1)
  told : ∃ lines told, text.errors = unlines lines ∧ TellBesideLog verbose lines told ∧
    told.length = failed ∧ List.Forall₂ LineOf (entries.filter tellsFailure) told
  errors_json : ∃ lines, json.errors = unlines lines ∧ TellBesideLog verbose lines []
  summary_of_failed : failed ≠ 0 → text.output = unlines [
    "scaf snippet validation failed in " ++ Text.ofNat failed ++ "/" ++ Text.ofNat files.length
      ++ " document(s)."]
  summary_of_passed : failed = 0 → ∃ checked skipped : List Nat,
    entries.map (·.member? "checked") = checked.map (fun n => some (.int n)) ∧
    entries.map (·.member? "skipped") = skipped.map (fun n => some (.int n)) ∧
    text.output = unlines [
      "Validated " ++ Text.ofNat checked.sum ++ " scaf snippet(s) in " ++ Text.ofNat files.length
        ++ " document(s) (" ++ Text.ofNat skipped.sum ++ " skipped)."]

section Reports

variable {r : Report} {rs : List Report} {f : Failure} {p : Path} {verbose : Bool}
  {lines lines' told told' : List Text}

theorem TellBesideLog.append (h : TellBesideLog verbose lines told)
    (h' : TellBesideLog verbose lines' told') :
    TellBesideLog verbose (lines ++ lines') (told ++ told') := by
  induction h with
  | nil => exact h'
  | note hn _ ih => exact .note hn ih
  | told _ ih => exact .told ih

theorem tellBesideLog_logLines (verbose : Bool) (journal : List Note) :
    TellBesideLog verbose (logLines verbose journal) [] := by
  induction journal with
  | nil => exact .nil
  | cons n journal ih =>
    cases hn : n.isShown verbose with
    | false =>
      rw [logLines, List.filter_cons_of_neg (by simp [hn])]
      exact ih
    | true =>
      rw [logLines, List.filter_cons_of_pos hn]
      exact .note hn ih

/-- The lines about failures, whatever their numbers. -/
def failureTexts (rs : List Report) : List Text :=
  rs.filterMap fun r => r.failure.map Failure.written

/-- Every line at which a report has a failure can be written. -/
def LinesWritable (rs : List Report) : Prop :=
  ∀ r ∈ rs, ∀ f, r.failure = some f → isWritable f.line = true

theorem find?_failureLines_eq_none_iff :
    (Report.failureLines rs).find? (!isWritable ·) = none ↔ LinesWritable rs := by
  simp only [List.find?_eq_none, Report.failureLines, List.mem_filterMap, Option.map_eq_some_iff,
    Bool.not_eq_true', Bool.not_eq_false, LinesWritable]
  constructor
  · intro h r hr f hf
    exact h _ ⟨r, hr, f, hf, rfl⟩
  · rintro h _ ⟨r, hr, f, hf, rfl⟩
    exact h r hr f hf

theorem tellBesideLog_reportLines (verbose : Bool) (h : LinesWritable rs) :
    TellBesideLog verbose (reportLines verbose rs).1 (failureTexts rs) := by
  induction rs with
  | nil => exact .nil
  | cons r rs ih =>
    obtain ⟨hr, hrs⟩ := List.forall_mem_cons.1 h
    have hrest := ih hrs
    rw [reportLines, reportLine]
    cases hf : r.failure with
    | none =>
      rw [failureTexts, List.filterMap_cons_none (by rw [hf]; rfl)]
      exact (tellBesideLog_logLines verbose _).append hrest
    | some f =>
      rw [failureTexts, List.filterMap_cons_some (by rw [hf]; rfl)]
      simp only [f.text_eq, hr f hf, if_true]
      exact .told hrest

theorem tellsFailure_toJson (r : Report) : tellsFailure r.toJson = !r.isOk := by
  obtain ⟨path, checked, skipped, failure⟩ := r
  cases failure <;> rfl

theorem lineOf_toJson (hf : r.failure = some f) (hp : r.path = some p) (hfp : f.path = r.path) :
    LineOf r.toJson f.written := by
  obtain ⟨path, checked, skipped, failure⟩ := r
  cases hf
  cases hp
  have hline : f.toJson.member? "line" = some (.int f.line) := rfl
  have hcolumn : f.toJson.member? "column" = some (.int Failure.column) := rfl
  have hmessage : f.toJson.member? "message" = some (.text f.message) := rfl
  rw [Failure.written, hfp]
  exact .intro rfl rfl hline hcolumn hmessage

theorem forall₂_lineOf (hpath : ∀ r ∈ rs, ∃ p, r.path = some p)
    (hfailure : ∀ r ∈ rs, ∀ f, r.failure = some f → f.path = r.path) :
    List.Forall₂ LineOf ((rs.map Report.toJson).filter tellsFailure) (failureTexts rs) := by
  induction rs with
  | nil => exact .nil
  | cons r rs ih =>
    obtain ⟨⟨p, hp⟩, hpaths⟩ := List.forall_mem_cons.1 hpath
    obtain ⟨hr, hrs⟩ := List.forall_mem_cons.1 hfailure
    have hrest := ih hpaths hrs
    have htells := tellsFailure_toJson r
    cases hf : r.failure with
    | none =>
      rw [Report.isOk, hf] at htells
      rw [List.map_cons, List.filter_cons_of_neg (by simp [htells]), failureTexts,
        List.filterMap_cons_none (by rw [hf]; rfl)]
      exact hrest
    | some f =>
      rw [Report.isOk, hf] at htells
      rw [List.map_cons, List.filter_cons_of_pos (by simp [htells]), failureTexts,
        List.filterMap_cons_some (by rw [hf]; rfl)]
      exact .cons (lineOf_toJson hf hp (hr f hf)) hrest

theorem length_failures (rs : List Report) :
    (Report.failures rs).length = (rs.map Report.toJson).countP tellsFailure := by
  have htells : tellsFailure ∘ Report.toJson = fun r => !r.isOk := funext tellsFailure_toJson
  rw [List.countP_map, htells, List.countP_eq_length_filter, Report.failures]

theorem total_eq_sum (count : Report → Nat) (rs : List Report) :
    Report.total count rs = (rs.map count).sum := by
  induction rs with
  | nil => rfl
  | cons r rs ih => rw [Report.total, ih, List.map_cons, List.sum_cons]

theorem summary_of_failures (h : (Report.failures rs).length ≠ 0) :
    Report.summary rs =
      "scaf snippet validation failed in " ++ Text.ofNat (Report.failures rs).length ++ "/" ++
        Text.ofNat rs.length ++ " document(s)." := by
  simp only [Report.summary, if_neg h]

theorem summary_of_no_failures (h : (Report.failures rs).length = 0) :
    Report.summary rs =
      "Validated " ++ Text.ofNat (rs.map Report.checked).sum ++ " scaf snippet(s) in " ++
        Text.ofNat rs.length ++ " document(s) (" ++ Text.ofNat (rs.map Report.skipped).sum ++
        " skipped)." := by
  simp only [Report.summary, if_pos h, total_eq_sum]

end Reports

/-- Two command lines lead to runs over the same files, the second of which writes JSON. There are
no more files, and no more fences in each, than can be told. -/
structure InBothForms (host : Host) (words words' : List Text) (o : Options) (settings : Settings)
    (files : List Path) : Prop where
  accepted : Options.ofWords words = .ok o
  accepted' : Options.ofWords words' = .ok { o with json := true }
  noJson : o.json = false
  noSnippet : o.snippet = none
  goesBy : GoesBy host o settings
  selected : host.files.documents settings.suffixes
    (if o.paths.isEmpty then [settings.docsDir] else o.paths.map Path.ofText) = .ok files
  ne_nil : files ≠ []
  decodes : ∀ path ∈ files, host.files.HoldsText path
  fewFiles : files.length < Nat.pow 10 digitLimit
  fewFences : ∀ path ∈ files, ∀ d, Document.ofFile host.files path = .ok d →
    (Fence.scan d.flavor d.text).length < Nat.pow 10 digitLimit

variable {host : Host} {words words' : List Text} {o : Options} {settings : Settings}
  {files : List Path} {rs : List Report} {texts : List Text} {space : Workspace}
  {verbose : Bool}

abbrev reporting (host : Host) (settings : Settings) (o : Options) (files : List Path) :
    Run Workspace (List Report) :=
  Document.reportAll ((toolFor host settings o).check host.runner) settings host.files files

/-- Reports on some files: one on each, with counts that can be told. -/
structure ReportsOn (files : List Path) (rs : List Report) : Prop where
  paths : rs.map Report.path = files.map some
  counts : ∀ r ∈ rs, r.checked < Nat.pow 10 digitLimit ∧ r.skipped < Nat.pow 10 digitLimit
  failed : (Report.failures rs).length < Nat.pow 10 digitLimit
  failure : ∀ r ∈ rs, ∀ f, r.failure = some f → f.path = r.path

theorem exists_comes_reporting (host : Host) (settings : Settings) (o : Options)
    (files : List Path) : ∃ result texts space,
      Comes (reporting host settings o files) { files := host.files } result texts space := by
  have hplan : Planned (Document.EmbedsSampleOfFile settings host.files files)
      (fun e => ∃ path ∈ files, Document.ofFile host.files path = .error e)
      fun _ check => Document.reportAll check settings host.files files :=
    Document.planned_reportAll settings host.files files
  obtain ⟨result, texts, hcomes, -⟩ :=
    hplan.exists_comes ((toolFor host settings o).check host.runner) { files := host.files }
  exact ⟨result, texts, _, hcomes⟩

theorem exists_comes_of_perform
    (hrs : (perform { files := host.files } (reporting host settings o files)).1 = .ok rs) :
    ∃ texts space,
      Comes (reporting host settings o files) { files := host.files } (.ok rs) texts space := by
  obtain ⟨result, texts, space, hcomes⟩ := exists_comes_reporting host settings o files
  obtain ⟨s, hperform, -, -⟩ := hcomes.exists_perform
  rw [hperform] at hrs
  cases hrs
  exact ⟨texts, space, hcomes⟩

theorem ReportsOn.length_eq (h : ReportsOn files rs) : rs.length = files.length := by
  simpa using congrArg List.length h.paths

theorem ReportsOn.exists_path (h : ReportsOn files rs) : ∀ r ∈ rs, ∃ p, r.path = some p := by
  intro r hr
  have hmem : r.path ∈ rs.map Report.path := List.mem_map_of_mem hr
  rw [h.paths] at hmem
  obtain ⟨p, -, hp⟩ := List.mem_map.1 hmem
  exact ⟨p, hp.symm⟩

/-- The entries name the files. -/
theorem ReportsOn.listed (h : ReportsOn files rs) :
    (rs.map Report.toJson).map (·.member? "path") =
      files.map fun path => some (.text path.text) := by
  have hentry : (fun j : JsonValue => j.member? "path") ∘ Report.toJson =
      (fun path => some (.ofOption (fun p => .text p.text) path)) ∘ Report.path := rfl
  rw [List.map_map, hentry, ← List.map_map, h.paths, List.map_map]
  rfl

/-- What is said about reports all of whose lines can be written. -/
theorem ReportsOn.concludeReports_eq (h : ReportsOn files rs) (hlines : LinesWritable rs)
    (verbose : Bool) :
    concludeReports false verbose rs =
        { exit := .status (if (Report.failures rs).isEmpty then 0 else 1)
          output := [Report.summary rs]
          errors := (reportLines verbose rs).1 } ∧
      concludeReports true verbose rs =
        { exit := .status (if (Report.failures rs).isEmpty then 0 else 1)
          output := [(Report.allToJson rs).renderAt 0] } := by
  have hfind := find?_failureLines_eq_none_iff.2 hlines
  have hsnd := reportLines_snd verbose rs
  have hrender := Report.render_allToJson h.counts h.failed
  rw [hfind] at hsnd hrender
  constructor
  · simp only [concludeReports, Bool.false_eq_true, if_false]
    cases hl : reportLines verbose rs with
    | mk errors e =>
      rw [hl] at hsnd
      cases hsnd
      rfl
  · simp only [concludeReports, if_true, hrender]
    rfl

theorem ReportsOn.output_json_eq_nil (h : ReportsOn files rs) (hlines : ¬ LinesWritable rs)
    (verbose : Bool) : (concludeReports true verbose rs).output = [] := by
  simp only [concludeReports, if_true, Report.render_allToJson h.counts h.failed]
  cases hfind : (Report.failureLines rs).find? (!isWritable ·) with
  | none => exact absurd (find?_failureLines_eq_none_iff.1 hfind) hlines
  | some i => rfl

theorem unlines_singleton_ne_nil (line : Text) : unlines [line] ≠ [] := by
  simp [unlines]

namespace InBothForms

variable (h : InBothForms host words words' o settings files)
include h

theorem run_eq :
    CommandLine.run host words =
        conclude host o.verbose (reporting host settings o files)
          (concludeReports false o.verbose) ∧
      CommandLine.run host words' =
        conclude host o.verbose (reporting host settings o files)
          (concludeReports true o.verbose) := by
  constructor
  · rw [run_eq_reportAll h.accepted h.noSnippet h.goesBy h.selected h.ne_nil, h.noJson]
  · exact run_eq_reportAll h.accepted' h.noSnippet h.goesBy h.selected h.ne_nil

theorem reportsOn
    (hrs : Comes (reporting host settings o files) { files := host.files } (.ok rs) texts space) :
    ReportsOn files rs := by
  obtain ⟨journal, hexec⟩ := hrs [] []
  obtain ⟨hpaths, hall⟩ := Document.reports_of_exec hexec
  have hlength : rs.length = files.length := by simpa using congrArg List.length hpaths
  refine ⟨hpaths, ?_, ?_, ?_⟩
  · intro r hr
    obtain ⟨path, hpath, d, hd, hreport⟩ := hall r hr
    have hle := hreport.counts_le
    have hfew := h.fewFences path hpath d hd
    omega
  · refine Nat.lt_of_le_of_lt (List.length_filter_le _ _) ?_
    rw [hlength]
    exact h.fewFiles
  · intro r hr f hf
    obtain ⟨path, hpath, d, hd, hreport⟩ := hall r hr
    exact hreport.path_failure hf

theorem exit_eq : (CommandLine.run host words').exit = (CommandLine.run host words).exit := by
  obtain ⟨hrun, hrun'⟩ := h.run_eq
  obtain ⟨result, texts, space, hcomes⟩ := exists_comes_reporting host settings o files
  obtain ⟨journal, hconclude⟩ :=
    conclude_of_comes hcomes o.verbose (concludeReports false o.verbose)
  obtain ⟨journal', hconclude'⟩ :=
    conclude_of_comes hcomes o.verbose (concludeReports true o.verbose)
  rw [hrun, hrun', hconclude, hconclude']
  cases result with
  | error e => rfl
  | ok rs =>
    have hreports := h.reportsOn hcomes
    simp only [exit_concludeReports _ _ hreports.counts hreports.failed]

/-- Both responses of runs that come to reports: what they write goes by the reports. -/
theorem exists_responses
    (hrs : Comes (reporting host settings o files) { files := host.files } (.ok rs) texts space) :
    ∃ journal journal',
      CommandLine.run host words =
        { exit := (concludeReports false o.verbose rs).exit
          output := unlines (concludeReports false o.verbose rs).output
          errors := unlines
            (logLines o.verbose journal ++ (concludeReports false o.verbose rs).errors)
          workspace := space } ∧
      CommandLine.run host words' =
        { exit := (concludeReports true o.verbose rs).exit
          output := unlines (concludeReports true o.verbose rs).output
          errors := unlines
            (logLines o.verbose journal' ++ (concludeReports true o.verbose rs).errors)
          workspace := space } := by
  obtain ⟨hrun, hrun'⟩ := h.run_eq
  obtain ⟨journal, hconclude⟩ :=
    conclude_of_comes hrs o.verbose (concludeReports false o.verbose)
  obtain ⟨journal', hconclude'⟩ :=
    conclude_of_comes hrs o.verbose (concludeReports true o.verbose)
  exact ⟨journal, journal', hrun.trans hconclude, hrun'.trans hconclude'⟩

/-- Reports all of whose lines can be written are told alike. -/
theorem reportAlike
    (hrs : Comes (reporting host settings o files) { files := host.files } (.ok rs) texts space)
    (hlines : LinesWritable rs) :
    ReportAlike files o.verbose (CommandLine.run host words) (CommandLine.run host words')
      (rs.map Report.toJson) (Report.failures rs).length := by
  have hreports := h.reportsOn hrs
  have htold := forall₂_lineOf hreports.exists_path hreports.failure
  have hfailures := length_failures rs
  obtain ⟨journal, journal', hrun, hrun'⟩ := h.exists_responses hrs
  obtain ⟨htext, hjson⟩ := hreports.concludeReports_eq hlines o.verbose
  rw [htext] at hrun
  rw [hjson] at hrun'
  rw [hrun, hrun']
  refine ⟨rfl, hreports.listed, FileTree.nodup_documents h.selected, hfailures, ?_, ?_, ?_, ?_, ?_⟩
  · simp only [List.isEmpty_iff_length_eq_zero]
  · refine ⟨_, failureTexts rs, rfl, (tellBesideLog_logLines o.verbose journal).append
      (tellBesideLog_reportLines o.verbose hlines), ?_, htold⟩
    rw [← htold.length_eq, ← List.countP_eq_length_filter, hfailures]
  · refine ⟨_, rfl, ?_⟩
    rw [List.append_nil]
    exact tellBesideLog_logLines o.verbose journal'
  · intro hne
    rw [summary_of_failures hne, hreports.length_eq]
  · intro hzero
    refine ⟨rs.map Report.checked, rs.map Report.skipped, ?_, ?_, ?_⟩
    · rw [List.map_map, List.map_map]
      rfl
    · rw [List.map_map, List.map_map]
      rfl
    · rw [summary_of_no_failures hzero, hreports.length_eq]

/-- Nothing is told in JSON where a run comes to a fault, or a line cannot be written. -/
theorem linesWritable_of_reportAlike {entries : List JsonValue} {failed : Nat}
    (halike : ReportAlike files o.verbose (CommandLine.run host words)
      (CommandLine.run host words') entries failed) :
    ∃ rs, (perform { files := host.files } (reporting host settings o files)).1 = .ok rs ∧
      LinesWritable rs := by
  have houtput := halike.output_json
  obtain ⟨result, texts, space, hcomes⟩ := exists_comes_reporting host settings o files
  cases result with
  | error e =>
    obtain ⟨journal, hconclude⟩ :=
      conclude_of_comes hcomes o.verbose (concludeReports true o.verbose)
    rw [h.run_eq.2, hconclude] at houtput
    exact absurd houtput.symm (unlines_singleton_ne_nil _)
  | ok rs =>
    refine ⟨rs, hcomes.ends.perform_fst, ?_⟩
    by_contra hlines
    obtain ⟨journal, journal', -, hrun'⟩ := h.exists_responses hcomes
    rw [(h.reportsOn hcomes).output_json_eq_nil hlines] at hrun'
    rw [hrun'] at houtput
    exact absurd houtput.symm (unlines_singleton_ne_nil _)

theorem exists_reports (hreliable : Reliable host settings o) :
    ∃ rs, (perform { files := host.files } (reporting host settings o files)).1 = .ok rs := by
  have hplan : Planned (Document.EmbedsSampleOfFile settings host.files files) (fun _ => False)
      fun _ check => Document.reportAll check settings host.files files := by
    apply (Document.planned_reportAll settings host.files files).mono (fun _ ht => ht)
    rintro e ⟨path, hpath, he⟩
    obtain ⟨d, hd⟩ := (h.decodes path hpath).exists_ofFile
    cases hd.symm.trans he
  exact hreliable.exists_result hplan

end InBothForms

/-- The runs end alike, and report alike exactly if the run over the files has reports and the line
of each failure can be written; where the commands end ordinarily, it has reports. -/
theorem reports_alike_iff (h : InBothForms host words words' o settings files) :
    (run host words').exit = (run host words).exit ∧
    ((∃ entries failed,
        ReportAlike files o.verbose (run host words) (run host words') entries failed) ↔
      ∃ rs, (perform { files := host.files } (reporting host settings o files)).1 = .ok rs ∧
        LinesWritable rs) ∧
    (Reliable host settings o →
      ∃ rs, (perform { files := host.files } (reporting host settings o files)).1 = .ok rs) := by
  refine ⟨h.exit_eq, ⟨?_, ?_⟩, h.exists_reports⟩
  · rintro ⟨entries, failed, halike⟩
    exact h.linesWritable_of_reportAlike halike
  · rintro ⟨rs, hrs, hlines⟩
    obtain ⟨texts, space, hcomes⟩ := exists_comes_of_perform hrs
    exact ⟨_, _, h.reportAlike hcomes hlines⟩

def pageHost (pages : List (Place × Node)) (runner : Runner) : Host where
  files := ⟨(["tmp"], .directory) :: pages, []⟩
  project := ⟨1, ["project"]⟩
  environment := none
  input := []
  scratch := ⟨1, ["tmp"]⟩
  scratchName _ := "x"
  runner := runner

theorem few_of_one_fence {tree : FileTree} {path : Path}
    (hone : (Document.ofFile tree path).map (fun d => (Fence.scan d.flavor d.text).length) = .ok 1)
    (d : Document) (hd : Document.ofFile tree path = .ok d) :
    (Fence.scan d.flavor d.text).length < Nat.pow 10 digitLimit := by
  have hlength : (Fence.scan d.flavor d.text).length = 1 := by
    rw [hd] at hone
    exact Except.ok.inj hone
  rw [hlength]
  exact Nat.lt_of_lt_of_le (by decide) ten_le_pow_digitLimit

def pairHost : Host := pageHost
  [(["a.md"], .file (Utf8.encode "```scaf\nfn A() `q`\n```\n")),
    (["b.md"], .file (Utf8.encode "```scaf\nBAD\n```\n"))] functionRunner

def pairPaths : List Path := [⟨0, ["a.md"]⟩, ⟨0, ["b.md"]⟩]

def pairOptions : Options := { paths := ["a.md", "b.md"] }

def pairReports : List Report := [
  ⟨some ⟨0, ["a.md"]⟩, 1, 0, none⟩,
  ⟨some ⟨0, ["b.md"]⟩, 1, 0, some ⟨some ⟨0, ["b.md"]⟩, 2,
    "scaf syntax error: scaf fmt exited with status 1",
    .failed .identity .fullProgram 1 ⟨.syntaxError, "scaf fmt exited with status 1", none⟩⟩⟩]

theorem inBothForms_pairHost :
    InBothForms pairHost ["a.md", "b.md"] ["--json", "a.md", "b.md"] pairOptions
      (assertionSettings "scaf") pairPaths where
  accepted := by rfl
  accepted' := by rfl
  noJson := rfl
  noSnippet := rfl
  goesBy := goesBy_assertionSettings (by rfl) rfl rfl
  selected := by
    have hfound : pairPaths.mapM (pairHost.files.documentsAt [".md", ".mdx"]) =
        .ok [[⟨0, ["a.md"]⟩], [⟨0, ["b.md"]⟩]] := by rfl
    exact FileTree.documents_of_mapM hfound rfl (by decide +kernel)
  ne_nil := by simp [pairPaths]
  decodes := by
    intro path hpath
    simp only [pairPaths, List.mem_cons, List.not_mem_nil, or_false] at hpath
    rcases hpath with rfl | rfl <;> exact ⟨_, _, by rfl, by rfl⟩
  fewFiles := Nat.lt_of_lt_of_le (by decide) ten_le_pow_digitLimit
  fewFences := by
    intro path hpath
    simp only [pairPaths, List.mem_cons, List.not_mem_nil, or_false] at hpath
    rcases hpath with rfl | rfl <;> exact few_of_one_fence (by decide +kernel)

theorem perform_pairHost :
    (perform { files := pairHost.files }
      (reporting pairHost (assertionSettings "scaf") pairOptions pairPaths)).1 =
        .ok pairReports := by
  decide +kernel

theorem reports_alike_iff_pairHost :
    (run pairHost ["a.md", "b.md"]).exit = .status 1 ∧
    (run pairHost ["--json", "a.md", "b.md"]).exit = .status 1 ∧
    ∃ entries failed, failed ≠ 0 ∧ ReportAlike pairPaths false (run pairHost ["a.md", "b.md"])
      (run pairHost ["--json", "a.md", "b.md"]) entries failed := by
  obtain ⟨hexit, halike, -⟩ := reports_alike_iff inBothForms_pairHost
  obtain ⟨texts, space, hcomes⟩ := exists_comes_of_perform perform_pairHost
  obtain ⟨journal, journal', hrun, -⟩ := inBothForms_pairHost.exists_responses hcomes
  have hstatus : (concludeReports false pairOptions.verbose pairReports).exit = .status 1 := by
    decide +kernel
  have hone : (run pairHost ["a.md", "b.md"]).exit = .status 1 := by
    simp only [hrun, hstatus]
  have hlines : LinesWritable pairReports :=
    find?_failureLines_eq_none_iff.1 (by decide +kernel)
  obtain ⟨entries, failed, h⟩ := halike.2 ⟨pairReports, perform_pairHost, hlines⟩
  refine ⟨hone, hexit.trans hone, entries, failed, ?_, h⟩
  rintro rfl
  cases hone.symm.trans h.exit

/-- Commands that name the last line whose number is read. -/
def lastLineRunner : Runner := fun _ _ =>
  ⟨.exited 1 [] (':' :: (List.replicate digitLimit '9' ++ ':' :: ("1:x" : Text))), false⟩

/-- A host with a page whose failure is at a line the number of which cannot be written. -/
def lastLineHost : Host := pageHost
  [(["a.md"], .file (Utf8.encode "```scaf\nBAD\n```\n"))] lastLineRunner

def lastLineOptions : Options := { paths := ["a.md"] }

def lastLine : Int := (Nat.pow 10 digitLimit : Nat) - 1

def lastLineReports : List Report := [
  ⟨some ⟨0, ["a.md"]⟩, 1, 0, some ⟨some ⟨0, ["a.md"]⟩, 1 + lastLine, "scaf syntax error: x",
    .failed .identity .fullProgram 1 ⟨.syntaxError, "x", some lastLine⟩⟩⟩]

theorem inBothForms_lastLineHost :
    InBothForms lastLineHost ["a.md"] ["--json", "a.md"] lastLineOptions (assertionSettings "scaf")
      [⟨0, ["a.md"]⟩] where
  accepted := by rfl
  accepted' := by rfl
  noJson := rfl
  noSnippet := rfl
  goesBy := goesBy_assertionSettings (by rfl) rfl rfl
  selected := by
    have hfound : [Path.ofText "a.md"].mapM (lastLineHost.files.documentsAt [".md", ".mdx"]) =
        .ok [[⟨0, ["a.md"]⟩]] := by rfl
    exact FileTree.documents_of_mapM hfound rfl (List.pairwise_singleton _ _)
  ne_nil := by simp
  decodes := by
    intro path hpath
    cases List.mem_singleton.1 hpath
    exact ⟨_, _, by rfl, by rfl⟩
  fewFiles := Nat.lt_of_lt_of_le (by decide) ten_le_pow_digitLimit
  fewFences := by
    intro path hpath
    cases List.mem_singleton.1 hpath
    exact few_of_one_fence (by decide +kernel)

theorem reliable_lastLineHost :
    Reliable lastLineHost (assertionSettings "scaf") lastLineOptions where
  canWrite := fun _ => ⟨_, by rfl⟩
  isOrdinary := by
    intro done command
    have hshort : ∀ t : Text, t.length ≤ digitLimit → Diagnostic.Readable t :=
      fun _ => Diagnostic.readable_of_length_le
    have hdigits : Diagnostic.Readable (List.replicate digitLimit '9') :=
      hshort _ (Nat.le_of_eq List.length_replicate)
    have hrest := hdigits.append_cons (hshort "1:x" (by decide)) (c := ':') (by decide)
    exact .exited 1 (hshort [] (by decide)) ((hshort [] (by decide)).append_cons hrest (by decide))
  program := (readable_words _ (by simp [lastLineOptions])).1
  subcommand := (readable_words _ (by simp [lastLineOptions])).2

theorem perform_lastLineHost :
    (perform { files := lastLineHost.files }
      (reporting lastLineHost (assertionSettings "scaf") lastLineOptions [⟨0, ["a.md"]⟩])).1 =
        .ok lastLineReports := by
  decide +kernel

/-- The failure at that line is told in neither form. -/
theorem last_line_told_nowhere :
    InBothForms lastLineHost ["a.md"] ["--json", "a.md"] lastLineOptions (assertionSettings "scaf")
      [⟨0, ["a.md"]⟩] ∧
    Reliable lastLineHost (assertionSettings "scaf") lastLineOptions ∧
    (run lastLineHost ["a.md"]).exit = .unwritable ⟨Nat.pow 10 digitLimit⟩ ∧
    (run lastLineHost ["a.md"]).output = [] ∧
    (run lastLineHost ["--json", "a.md"]).exit = .unwritable ⟨Nat.pow 10 digitLimit⟩ ∧
    (run lastLineHost ["--json", "a.md"]).output = [] ∧
    ¬ ∃ entries failed, ReportAlike [⟨0, ["a.md"]⟩] false (run lastLineHost ["a.md"])
      (run lastLineHost ["--json", "a.md"]) entries failed := by
  obtain ⟨texts, space, hcomes⟩ := exists_comes_of_perform perform_lastLineHost
  obtain ⟨journal, journal', hrun, hrun'⟩ := inBothForms_lastLineHost.exists_responses hcomes
  have hexit : ∀ json, (concludeReports json lastLineOptions.verbose lastLineReports).exit =
      .unwritable ⟨Nat.pow 10 digitLimit⟩ := by decide +kernel
  have houtput : ∀ json,
      (concludeReports json lastLineOptions.verbose lastLineReports).output = [] := by
    decide +kernel
  have hlines : ¬ LinesWritable lastLineReports := by
    rw [← find?_failureLines_eq_none_iff]
    decide +kernel
  refine ⟨inBothForms_lastLineHost, reliable_lastLineHost, ?_, ?_, ?_, ?_, ?_⟩
  · simp only [hrun, hexit]
  · simp only [hrun, houtput, unlines, List.flatMap_nil]
  · simp only [hrun', hexit]
  · simp only [hrun', houtput, unlines, List.flatMap_nil]
  · rintro ⟨entries, failed, halike⟩
    obtain ⟨rs, hrs, hwritable⟩ := inBothForms_lastLineHost.linesWritable_of_reportAlike halike
    cases hrs.symm.trans perform_lastLineHost
    exact hlines hwritable

end CommandLine

end DocSamples
