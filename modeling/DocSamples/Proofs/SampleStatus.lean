import DocSamples.Proofs.ForcedStrategy
import DocSamples.Proofs.OrdinaryEndings

namespace DocSamples.CommandLine

open Run

variable {host : Host} {words words' : List Text} {o : Options} {settings : Settings}
  {source t : Text} {v : Verdict} {s : Strategy} {outcome : Outcome} {n : Nat} {α : Type}
  {r : Response}

theorem exit_concludeVerdict (source : Text) (json : Bool) (hline : v.line.getD 1 = n)
    (hn : n < Nat.pow 10 digitLimit) (hattempts : isWritable (v.attempts : Int) = true) :
    (concludeVerdict source json v).exit = .status v.isFailure.toNat := by
  cases json with
  | true =>
    rw [concludeVerdict_json source hline hn hattempts]
    cases v.isFailure <;> rfl
  | false =>
    cases hfail : v.isFailure with
    | true => rw [concludeVerdict_of_isFailure source hfail hline hn]; rfl
    | false => rw [concludeVerdict, hfail]; rfl

theorem exit_concludeOutcome (source : Text) (s : Strategy) (json : Bool)
    (hline : outcome.line.getD 1 = n) (hn : n < Nat.pow 10 digitLimit) :
    (concludeOutcome source s json outcome).exit = .status (!outcome.isSuccess).toNat := by
  cases json with
  | true =>
    rw [concludeOutcome_json source s hline hn]
    cases outcome.isSuccess <;> rfl
  | false =>
    cases ho : outcome.isSuccess with
    | true => rw [concludeOutcome_of_isSuccess source s ho]; rfl
    | false => rw [concludeOutcome_of_not_isSuccess source s ho hline hn]; rfl

/-- How the program ends with the result of a run, which is a failure or none. -/
def exitBy (host : Host) (run : Run Workspace α) (isFailure : α → Bool) : Exit :=
  match (perform { files := host.files } run).1 with
  | .error f => .fault f
  | .ok a => .status (isFailure a).toNat

theorem exitBy_ne_two (run : Run Workspace α) (isFailure : α → Bool) :
    exitBy host run isFailure ≠ .status 2 := by
  unfold exitBy
  split
  · simp
  · rename_i a _
    cases isFailure a <;> simp

/-- What is written does not matter where all of it can be. -/
theorem exit_conclude_eq_exitBy {run : Run Workspace α} {conclusion : α → Conclusion}
    {isFailure : α → Bool} (verbose : Bool)
    (h : ∀ a, (perform { files := host.files } run).1 = .ok a →
      (conclusion a).exit = .status (isFailure a).toNat) :
    (conclude host verbose run conclusion).exit = exitBy host run isFailure := by
  unfold conclude exitBy
  cases hp : perform { files := host.files } run with
  | mk result s =>
    cases result with
    | error f => rfl
    | ok a => exact h a (by rw [hp])

/-- A command line leads to a run on a source, by the settings that are loaded. -/
structure TakesSource (host : Host) (words : List Text) (o : Options) (settings : Settings)
    (source : Text) : Prop where
  accepted : Options.ofWords words = .ok o
  snippet : o.snippet = some (.value source)
  goesBy : GoesBy host o settings

namespace TakesSource

variable (h : TakesSource host words o settings source)
include h

theorem run_of_missing (hread : readSource host source = .missing) :
    CommandLine.run host words =
      respond host (.status 2) [] (unlines ["Error: snippet file not found: " ++ source]) := by
  rw [run_eq_runSnippet h.accepted h.snippet h.goesBy, runSnippet, hread]

theorem run_of_fault {f : Fault} (hread : readSource host source = .fault f) :
    CommandLine.run host words = respond host (.fault f) [] [] := by
  rw [run_eq_runSnippet h.accepted h.snippet h.goesBy, runSnippet, hread]

/-- A text that is read is judged by the ladder or by the strategy that is given. -/
theorem exit_of_text (hread : readSource host source = .text t) :
    (CommandLine.run host words).exit =
      match o.strategy with
      | none =>
        exitBy host (DocSamples.validate ((toolFor host settings o).check host.runner) t)
          Verdict.isFailure
      | some (.value s) =>
        exitBy host (s.attempt ((toolFor host settings o).check host.runner) t)
          fun outcome => !outcome.isSuccess
      | some .nothing => .unknownStrategy noStrategy := by
  have hcheck := Tool.check_reportsWritable (toolFor host settings o) host.runner
  rw [run_eq_runSnippet h.accepted h.snippet h.goesBy, runSnippet, hread]
  cases hstrategy : o.strategy with
  | none =>
    apply exit_conclude_eq_exitBy
    intro v hv
    obtain ⟨tried, space, hclimb, rfl⟩ := exists_climbs_of_perform hv
    obtain ⟨n, hline, hn⟩ := hclimb.getD_line_verdict hcheck
    exact exit_concludeVerdict source o.json hline hn hclimb.isWritable_attempts
  | some given =>
    cases given with
    | nothing => rfl
    | value s =>
      apply exit_conclude_eq_exitBy
      intro outcome ho
      have hs := Options.namesStrategy_ofWords h.accepted s hstrategy
      obtain ⟨n, hline, hn⟩ := Strategy.getD_line_attempt hs hcheck ho
      exact exit_concludeOutcome source s o.json hline hn

theorem exit_of_text_ne_two (hread : readSource host source = .text t) :
    (CommandLine.run host words).exit ≠ .status 2 := by
  rw [h.exit_of_text hread]
  split
  · exact exitBy_ne_two _ _
  · exact exitBy_ne_two _ _
  · simp

end TakesSource

/-- A run refuses its source: it says so, ends with status 2 and starts no command. -/
structure Refuses (r : Response) : Prop where
  exit : r.exit = .status 2
  told : ∃ message, r.errors = unlines ["Error: " ++ message]
  startsNothing : r.workspace.commands = []

inductive Judged (host : Host) (settings : Settings) (o : Options) (t : Text) : Bool → Prop
  | verdict {v : Verdict} (hs : o.strategy = none)
      (hv : (perform { files := host.files }
        (validate ((toolFor host settings o).check host.runner) t)).1 = .ok v) :
      Judged host settings o t v.isFailure
  | outcome {s : Strategy} {outcome : Outcome} (hs : o.strategy = some (.value s))
      (ho : (perform { files := host.files }
        (s.attempt ((toolFor host settings o).check host.runner) t)).1 = .ok outcome) :
      Judged host settings o t (!outcome.isSuccess)

theorem TakesSource.refuses_iff (h : TakesSource host words o settings source) :
    Refuses (CommandLine.run host words) ↔ Lacks host source := by
  rw [← readSource_eq_missing_iff]
  cases hread : readSource host source with
  | text t => exact iff_of_false (fun hr => h.exit_of_text_ne_two hread hr.exit) (by simp)
  | missing =>
    rw [h.run_of_missing hread]
    exact iff_of_true ⟨rfl, ⟨"snippet file not found: " ++ source, rfl⟩, rfl⟩ rfl
  | fault f =>
    rw [h.run_of_fault hread]
    refine iff_of_false ?_ (by simp)
    rintro ⟨hexit, -, -⟩
    cases hexit

theorem TakesSource.faults_of_unreadable (h : TakesSource host words o settings source)
    (hlacks : ¬ Lacks host source) (hsupplies : ¬ ∃ t, Supplies host source t) :
    ∃ f, CommandLine.run host words = respond host (.fault f) [] [] := by
  cases hread : readSource host source with
  | text t => exact absurd ⟨t, readSource_eq_text_iff.1 hread⟩ hsupplies
  | missing => exact absurd (readSource_eq_missing_iff.1 hread) hlacks
  | fault f => exact ⟨f, h.run_of_fault hread⟩

/-- The run breaks off where there is something else than a text. -/
theorem TakesSource.breaks_off (h : TakesSource host words o settings source) {f : Fault}
    (hread : readSource host source = .fault f) :
    (¬ ∃ t, Supplies host source t) ∧
      CommandLine.run host words = respond host (.fault f) [] [] := by
  refine ⟨?_, h.run_of_fault hread⟩
  rintro ⟨t, ht⟩
  cases hread.symm.trans (readSource_eq_text_iff.2 ht)

/-- The status does not go by the form of what is written. -/
theorem TakesSource.exit_json (h : TakesSource host words o settings source) {json : Bool}
    (h' : TakesSource host words' { o with json } settings source) :
    (CommandLine.run host words').exit = (CommandLine.run host words).exit := by
  cases hread : readSource host source with
  | text t => rw [h.exit_of_text hread, h'.exit_of_text hread]; rfl
  | missing => rw [h.run_of_missing hread, h'.run_of_missing hread]
  | fault f => rw [h.run_of_fault hread, h'.run_of_fault hread]

theorem TakesSource.exists_judged (h : TakesSource host words o settings source)
    (hreliable : Reliable host settings o) (hs : o.strategy ≠ some .nothing)
    (ht : Supplies host source t) :
    ∃ failed, Judged host settings o t failed ∧
      (CommandLine.run host words).exit = .status failed.toNat := by
  rw [h.exit_of_text (readSource_eq_text_iff.2 ht)]
  cases hstrategy : o.strategy with
  | none =>
    obtain ⟨v, hv⟩ := hreliable.exists_result (planned_validate t)
    exact ⟨_, .verdict hstrategy hv, by simp only [exitBy, hv]⟩
  | some given =>
    cases given with
    | nothing => exact absurd hstrategy hs
    | value s =>
      have hmem := Options.namesStrategy_ofWords h.accepted s hstrategy
      obtain ⟨outcome, ho⟩ := hreliable.exists_result (Strategy.planned_attempt hmem (t := t))
      exact ⟨_, .outcome hstrategy ho, by simp only [exitBy, ho]⟩

/-- A run that ends with a status had a text to check and, if a strategy was given, one to check it
with, unless its source was missing. -/
theorem TakesSource.readable_of_exit (h : TakesSource host words o settings source)
    (hexit : (CommandLine.run host words).exit = .status n) :
    Lacks host source ∨ (∃ t, Supplies host source t) ∧ o.strategy ≠ some .nothing := by
  cases hread : readSource host source with
  | missing => exact .inl (readSource_eq_missing_iff.1 hread)
  | fault f =>
    rw [h.run_of_fault hread] at hexit
    cases hexit
  | text t =>
    refine .inr ⟨⟨t, readSource_eq_text_iff.1 hread⟩, ?_⟩
    intro hstrategy
    rw [h.exit_of_text hread, hstrategy] at hexit
    cases hexit

/-- A source is refused exactly if nothing stands in its place, and anything else that cannot be
read ends the run early. The status of a run on a text is that of its verdict, or of its outcome
with the one strategy, and the same in both forms of the output. -/
theorem status_of_source (h : TakesSource host words o settings source) :
    (Refuses (run host words) ↔ Lacks host source) ∧
    (¬ Lacks host source → (¬ ∃ t, Supplies host source t) →
      ∃ f, run host words = respond host (.fault f) [] []) ∧
    (∀ words' json, Options.ofWords words' = .ok { o with json } →
      (run host words').exit = (run host words).exit) ∧
    (Reliable host settings o →
      ((∃ n, (run host words).exit = .status n) ↔
        Lacks host source ∨ (∃ t, Supplies host source t) ∧ o.strategy ≠ some .nothing) ∧
      ∀ t, Supplies host source t → o.strategy ≠ some .nothing →
        ∃ failed, Judged host settings o t failed ∧
          (run host words).exit = .status failed.toNat) := by
  refine ⟨h.refuses_iff, h.faults_of_unreadable, ?_, ?_⟩
  · intro words' json haccepted
    exact h.exit_json ⟨haccepted, h.snippet, h.goesBy⟩
  · intro hreliable
    refine ⟨⟨fun ⟨n, hn⟩ => h.readable_of_exit hn, ?_⟩, fun t ht hs => ?_⟩
    · rintro (hlacks | ⟨⟨t, ht⟩, hs⟩)
      · exact ⟨2, (h.refuses_iff.2 hlacks).exit⟩
      · obtain ⟨failed, -, hexit⟩ := h.exists_judged hreliable hs ht
        exact ⟨_, hexit⟩
    · exact h.exists_judged hreliable hs ht

theorem reliable_sampleHost (files : FileTree) (input : Bytes) (source : Text)
    (hfiles : ∀ n, Host.WritesScratch { sampleHost with files, input } n) :
    Reliable { sampleHost with files, input } (assertionSettings "scaf")
      { snippet := some (.value source) } where
  canWrite := hfiles
  isOrdinary := fun _ _ =>
    .exited 1 (Diagnostic.readable_of_length_le (by decide))
      (Diagnostic.readable_of_length_le (by decide))
  program := (readable_words _ (by simp)).1
  subcommand := (readable_words _ (by simp)).2

def dashHost : Host := { sampleHost with input := Utf8.encode "assert (x)" }

theorem takesSource_dashHost (source : Text)
    (h : Options.ofWords ["--snippet", source] = .ok { snippet := some (.value source) }) :
    TakesSource dashHost ["--snippet", source] { snippet := some (.value source) }
      (assertionSettings "scaf") source :=
  ⟨h, rfl, samples_sampleHost.goesBy⟩

/-- The sample is rejected, and nothing stands in the place of the other source. -/
theorem status_of_source_dashHost :
    (run dashHost ["--snippet", "-"]).exit = .status 1 ∧
    (run dashHost ["--snippet", "-", "--json"]).exit = .status 1 ∧
    Refuses (run dashHost ["--snippet", "b.scaf"]) := by
  obtain ⟨-, -, hjson, hstatus⟩ := status_of_source (takesSource_dashHost "-" (by rfl))
  have hreliable := reliable_sampleHost dashHost.files dashHost.input "-" (fun _ => ⟨_, by rfl⟩)
  have hsupplies : Supplies dashHost "-" "assert (x)" :=
    ⟨_, "assert (x)", by rfl, by decide, by decide⟩
  obtain ⟨failed, hfailed, hexit⟩ := (hstatus hreliable).2 _ hsupplies (by simp)
  have hfail : failed = true := by
    cases hfailed with
    | outcome hs => cases hs
    | verdict _ hv =>
      cases hv.symm.trans perform_validate_sample
      rfl
  subst hfail
  refine ⟨hexit, (hjson _ true (by rfl)).trans hexit, ?_⟩
  exact (status_of_source (takesSource_dashHost "b.scaf" (by rfl))).1.2
    ⟨by decide, by rfl⟩

def unreadableHost : Host :=
  { sampleHost with
    files := ⟨[(["var"], .directory), (["d"], .directory), (["s.scaf"], .file [0xFF])], []⟩ }

theorem goesBy_unreadableHost (source : Text) :
    GoesBy unreadableHost { snippet := some (.value source) } (assertionSettings "scaf") :=
  goesBy_assertionSettings (by rfl) rfl rfl

theorem reliable_unreadableHost (source : Text) :
    Reliable unreadableHost (assertionSettings "scaf") { snippet := some (.value source) } :=
  reliable_sampleHost _ _ _ fun _ => ⟨_, by rfl⟩

/-- Neither a directory nor a file that does not decode is refused. -/
theorem unreadable_sources_break_off :
    Reliable unreadableHost (assertionSettings "scaf") { snippet := some (.value "d") } ∧
    TakesSource unreadableHost ["--snippet", "d"] { snippet := some (.value "d") }
      (assertionSettings "scaf") "d" ∧
    (¬ ∃ t, Supplies unreadableHost "d" t) ∧
    run unreadableHost ["--snippet", "d"] =
      respond unreadableHost (.fault (.file .isDirectory)) [] [] ∧
    Reliable unreadableHost (assertionSettings "scaf") { snippet := some (.value "s.scaf") } ∧
    TakesSource unreadableHost ["--snippet", "s.scaf"] { snippet := some (.value "s.scaf") }
      (assertionSettings "scaf") "s.scaf" ∧
    (¬ ∃ t, Supplies unreadableHost "s.scaf" t) ∧
    run unreadableHost ["--snippet", "s.scaf"] =
      respond unreadableHost (.fault (.undecodable ⟨0, [0xFF], .invalidStart⟩)) [] [] := by
  have hdirectory : TakesSource unreadableHost ["--snippet", "d"] { snippet := some (.value "d") }
      (assertionSettings "scaf") "d" := ⟨by rfl, rfl, goesBy_unreadableHost _⟩
  have hfile : TakesSource unreadableHost ["--snippet", "s.scaf"]
      { snippet := some (.value "s.scaf") } (assertionSettings "scaf") "s.scaf" :=
    ⟨by rfl, rfl, goesBy_unreadableHost _⟩
  obtain ⟨hdirectory', hrun⟩ := hdirectory.breaks_off (f := .file .isDirectory) (by rfl)
  obtain ⟨hfile', hrun'⟩ :=
    hfile.breaks_off (f := .undecodable ⟨0, [0xFF], .invalidStart⟩) (by rfl)
  exact ⟨reliable_unreadableHost _, hdirectory, hdirectory', hrun, reliable_unreadableHost _,
    hfile, hfile', hrun'⟩

end DocSamples.CommandLine
