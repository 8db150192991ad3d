import DocSamples.Proofs.Acceptance
import DocSamples.Proofs.SampleRun

namespace DocSamples

open Run

section Ladder

variable {σ : Type} {check : Checker σ} {inv : σ → Prop} {answer : Text → Except Fault Outcome}
  {t : Text} {m m₀ m' : σ} {tried : List Attempt} {a : Attempt} {v : Verdict}

/-- An outcome says about a sample what a verdict says: whether it is in order, and if it is not, of
which kind the failure is, what its message is and at which line it is. -/
structure Outcome.Repeats (o : Outcome) (v : Verdict) : Prop where
  isSuccess_iff : o.isSuccess = true ↔ v.isSuccess = true
  failed : v.isFailure = true → v.kind? = some o.kind ∧ o.message = v.message ∧ o.line = v.line

theorem Attempt.reported_repeats (t : Text) (tried : List Attempt) (a : Attempt) :
    a.reported.Repeats (.ofAttempts t (tried ++ [a])) := by
  cases ha : a.outcome.isSuccess with
  | true =>
    rw [Verdict.ofAttempts_of_success ha]
    refine ⟨?_, fun hfail => absurd hfail Bool.false_ne_true⟩
    rw [reported_isSuccess, ha]
    exact iff_of_true rfl rfl
  | false =>
    rw [Verdict.ofAttempts_of_failure ha]
    refine ⟨?_, fun _ => ⟨rfl, rfl, rfl⟩⟩
    rw [reported_isSuccess, ha]
    exact iff_of_false Bool.false_ne_true Bool.false_ne_true

theorem Verdict.strategyName_ofAttempts (t : Text) (tried : List Attempt) (a : Attempt) :
    (ofAttempts t (tried ++ [a])).strategyName = a.strategy.name := by
  cases ha : a.outcome.isSuccess with
  | true => rw [ofAttempts_of_success ha, strategyName]
  | false => rw [ofAttempts_of_failure ha, strategyName]

namespace Climbs

theorem answer_eq (hc : Climbs check t m tried m') (h : check.Follows inv answer) (hm : inv m)
    (ha : a ∈ tried) : answer (a.program t) = .ok a.outcome := by
  have hkeep : ∀ t m o m', check.Answers t m o m' → inv m → inv m' :=
    fun _ _ _ _ hans hm => (hans.follows h hm).2
  obtain ⟨m₁, m₂, hm₁, hans⟩ := hc.exists_answers inv hkeep hm ha
  exact (hans.follows h hm₁).1

/-- The last attempt has the same outcome when it is made by itself. -/
theorem ends_last (hc : Climbs check t m (tried ++ [a]) m') (h : check.Follows inv answer)
    (hm : inv m) (hm₀ : inv m₀) :
    ∃ m₁, Ends (a.strategy.attempt check t) m₀ a.reported [a.program t] m₁ := by
  have heq := hc.answer_eq h hm (a := a) (by simp)
  exact ⟨_, Strategy.ends_attempt (h.answers hm₀ heq)⟩

end Climbs

theorem exists_climbs_of_perform (hv : (perform m (validate check t)).1 = .ok v) :
    ∃ tried m', Climbs check t m tried m' ∧ v = .ofAttempts t tried := by
  rcases climbs_or_faults check t m with ⟨tried, m', hclimb⟩ | ⟨e, hfault⟩
  · rw [hclimb.ends.perform_fst] at hv
    cases hv
    exact ⟨tried, m', hclimb, rfl⟩
  · rw [hfault.perform_fst] at hv
    contradiction

/-- The strategy that a verdict names gives by itself what the verdict says. -/
theorem exists_repeats (h : check.Follows inv answer) (hm : inv m) (hm₀ : inv m₀)
    (hp : Shape.classify t ≠ .pseudoCode) (hv : (perform m (validate check t)).1 = .ok v) :
    ∃ s o, Strategy.named v.strategyName = .ok s ∧ (perform m₀ (s.attempt check t)).1 = .ok o ∧
      o.Repeats v := by
  obtain ⟨tried, m', hclimb, rfl⟩ := exists_climbs_of_perform hv
  rcases List.eq_nil_or_concat tried with rfl | ⟨tried, a, rfl⟩
  · exact absurd (hclimb.eq_nil_iff.1 rfl) hp
  · rw [List.concat_eq_append] at hclimb ⊢
    obtain ⟨m₁, hends⟩ := hclimb.ends_last h hm hm₀
    have hname := Strategy.named_name (hclimb.strategy_mem_all (a := a) (by simp))
    rw [← Verdict.strategyName_ofAttempts t tried a] at hname
    exact ⟨a.strategy, a.reported, hname, hends.perform_fst, a.reported_repeats t tried⟩

end Ladder

namespace CommandLine

variable {host : Host} {words words' : List Text} {o : Options} {settings : Settings}
  {source t : Text} {v : Verdict} {s : Strategy} {outcome : Outcome} {n : Nat} {json : Bool}

/-- Two command lines ask for the same sample, the second with a strategy as well. -/
structure Forces (host : Host) (words words' : List Text) (o : Options) (s : Strategy)
    (settings : Settings) (source t : Text) : Prop where
  accepted : Options.ofWords words = .ok o
  accepted' : Options.ofWords words' = .ok { o with strategy := some (.value s) }
  snippet : o.snippet = some (.value source)
  noStrategy : o.strategy = none
  goesBy : GoesBy host o settings
  reads : readSource host source = .text t

theorem Forces.run_eq (h : Forces host words words' o s settings source t) :
    CommandLine.run host words =
        conclude host o.verbose
          (DocSamples.validate ((toolFor host settings o).check host.runner) t)
          (concludeVerdict source o.json) ∧
      CommandLine.run host words' =
        conclude host o.verbose (s.attempt ((toolFor host settings o).check host.runner) t)
          (concludeOutcome source s o.json) := by
  constructor
  · rw [run_eq_runSnippet h.accepted h.snippet h.goesBy]
    simp only [runSnippet, h.reads, h.noStrategy]
  · rw [run_eq_runSnippet h.accepted' h.snippet h.goesBy]
    simp only [runSnippet, h.reads]
    rfl

theorem ofTexts_cons {word : Text} {w : Word} (hne : word ≠ ['-', '-'])
    (hw : Word.ofText word = .ok w) (words : List Text) :
    Word.ofTexts (word :: words) = (Word.ofTexts words).map fun marked => (word, w) :: marked := by
  rw [Word.ofTexts, if_neg hne, hw]
  rfl

theorem ofTexts_cons_of_head? {word : Text} (h : word.head? ≠ some '-') (words : List Text) :
    Word.ofTexts (word :: words) =
      (Word.ofTexts words).map fun marked => (word, .plain) :: marked := by
  apply ofTexts_cons
  · rintro rfl
    exact h rfl
  · rw [Word.ofText, if_pos (bne_iff_ne.2 h)]

/-- The snippet and the strategy as they are usually given. -/
theorem forces_of_words (hsource : source.head? ≠ some '-') (hs : s ∈ Strategy.all)
    (hgoes : GoesBy host { snippet := some (.value source) } settings)
    (hreads : readSource host source = .text t) :
    Forces host ["--snippet", source] ["--snippet", source, "--strategy", s.name]
      { snippet := some (.value source) } s settings source t where
  accepted := by
    have hmarked : Word.ofTexts ["--snippet", source] =
        .ok [("--snippet", .flag .snippet "--snippet" none), (source, .plain)] := by
      rw [ofTexts_cons (by decide) (by rfl), ofTexts_cons_of_head? hsource]
      rfl
    rw [Options.ofWords, hmarked]
    rfl
  accepted' := by
    have hname : Word.ofTexts [s.name] = .ok [(s.name, .plain)] := by
      rcases Strategy.mem_all_iff.1 hs with rfl | rfl | rfl <;> rfl
    have hmarked : Word.ofTexts ["--snippet", source, "--strategy", s.name] =
        .ok [("--snippet", .flag .snippet "--snippet" none), (source, .plain),
          ("--strategy", .flag .strategy "--strategy" none), (s.name, .plain)] := by
      rw [ofTexts_cons (by decide) (by rfl), ofTexts_cons_of_head? hsource,
        ofTexts_cons (by decide) (by rfl), hname]
      rfl
    rw [Options.ofWords, hmarked]
    rcases Strategy.mem_all_iff.1 hs with rfl | rfl | rfl <;> rfl
  snippet := rfl
  noStrategy := rfl
  goesBy := hgoes
  reads := hreads

theorem isWritable_of_mem_toList {line : Option Int} (hline : line.getD 1 = n)
    (hn : n < Nat.pow 10 digitLimit) : ∀ i ∈ line.toList, isWritable i = true := by
  intro i hi
  rw [Option.mem_toList] at hi
  cases hi
  rw [Option.getD_some] at hline
  rw [hline]
  exact isWritable_natCast_iff.2 hn

theorem concludeVerdict_json (source : Text) (hline : v.line.getD 1 = n)
    (hn : n < Nat.pow 10 digitLimit) (hattempts : isWritable (v.attempts : Int) = true) :
    concludeVerdict source true v =
      { exit := .status (if v.isFailure then 1 else 0), output := [v.toJson.renderAt 0] } := by
  have hrender : v.toJson.render = .ok (v.toJson.renderAt 0) := by
    apply JsonValue.render_of_isWritable
    rw [Verdict.numbers_toJson]
    intro i hi
    rcases List.mem_append.1 hi with hi | hi
    · exact isWritable_of_mem_toList hline hn i hi
    · cases List.mem_singleton.1 hi
      exact hattempts
  rw [concludeVerdict, hrender]
  rfl

theorem concludeOutcome_json (source : Text) (s : Strategy) (hline : outcome.line.getD 1 = n)
    (hn : n < Nat.pow 10 digitLimit) :
    concludeOutcome source s true outcome =
      { exit := .status (if outcome.isSuccess then 0 else 1)
        output := [(outcome.toJson s).renderAt 0] } := by
  have hrender : (outcome.toJson s).render = .ok ((outcome.toJson s).renderAt 0) := by
    apply JsonValue.render_of_isWritable
    rw [Outcome.numbers_toJson]
    exact isWritable_of_mem_toList hline hn
  rw [concludeOutcome, hrender]
  rfl

theorem concludeVerdict_of_isFailure (source : Text) (hv : v.isFailure = true)
    (hline : v.line.getD 1 = n) (hn : n < Nat.pow 10 digitLimit) :
    concludeVerdict source false v =
      { exit := .status 1, output := [rejectionLine source n v.message] } := by
  rw [concludeVerdict, hv, rejection_eq hline hn]
  rfl

theorem concludeVerdict_succeeded (source : Text) (hs : s ∈ Strategy.all) (shape : Shape)
    (k : Nat) :
    concludeVerdict source false (.succeeded s shape k) =
      { exit := .status 0
        output := [source ++ ": succeeded (" ++ shape.name ++ ", " ++ s.name ++ ")"] } := by
  have hname : s.name.isEmpty = false := by
    rcases Strategy.mem_all_iff.1 hs with rfl | rfl | rfl <;> rfl
  have hstatus : (Verdict.succeeded s shape k).status = "succeeded" := rfl
  have hword : (": " : Text) ++ (("succeeded" : Text) ++ " (") = ": succeeded (" := by decide
  have hstart : source ++ ": " ++ "succeeded" ++ " (" = source ++ ": succeeded (" := by
    rw [List.append_assoc, List.append_assoc, hword]
  simp only [concludeVerdict, Verdict.isFailure, Verdict.strategyName, Verdict.shape, hname,
    hstatus, hstart, Bool.false_eq_true, if_false]
  rfl

theorem concludeOutcome_of_not_isSuccess (source : Text) (s : Strategy)
    (ho : outcome.isSuccess = false) (hline : outcome.line.getD 1 = n)
    (hn : n < Nat.pow 10 digitLimit) :
    concludeOutcome source s false outcome =
      { exit := .status 1
        output := [rejectionLine source n (outcome.message ++ " (" ++ s.name ++ ")")] } := by
  rw [concludeOutcome, ho, rejection_eq hline hn]
  rfl

theorem concludeOutcome_of_isSuccess (source : Text) (s : Strategy)
    (ho : outcome.isSuccess = true) :
    concludeOutcome source s false outcome =
      { exit := .status 0, output := [source ++ ": succeeded (" ++ s.name ++ ")"] } := by
  rw [concludeOutcome, ho]
  rfl

/-- Two responses tell of a verdict and of one strategy: with the same status, and with the same
line and message where they tell of any. -/
structure TellAlike (source : Text) (v : Verdict) (s : Strategy) (json : Bool)
    (response response' : Response) : Prop where
  exit : response.exit = .status (if v.isFailure then 1 else 0)
  exit' : response'.exit = response.exit
  failed : json = false → v.isFailure = true → ∃ n : Nat, v.line.getD 1 = n ∧
    response.output = unlines [rejectionLine source n v.message] ∧
    response'.output = unlines [rejectionLine source n (v.message ++ " (" ++ s.name ++ ")")]
  succeeded : json = false → v.isFailure = false → response.output =
      unlines [source ++ ": succeeded (" ++ v.shape.name ++ ", " ++ s.name ++ ")"] ∧
    response'.output = unlines [source ++ ": succeeded (" ++ s.name ++ ")"]
  json : json = true → ∃ outcome : Outcome,
    outcome.line = v.line ∧ outcome.message = v.message ∧
    response.output = unlines [v.toJson.renderAt 0] ∧
    response'.output = unlines [(outcome.toJson s).renderAt 0]

section LastAttempt

variable {tool : Tool} {runner : Runner} {space space' : Workspace} {tried : List Attempt}
  {a : Attempt} {response response' : Response}

/-- The last attempt with a tool passes on the line and the message of the verdict, also where the
text is in order. -/
theorem reported_eq_verdict (h : Climbs (tool.check runner) t space (tried ++ [a]) space') :
    a.reported.line = (Verdict.ofAttempts t (tried ++ [a])).line ∧
      a.reported.message = (Verdict.ofAttempts t (tried ++ [a])).message := by
  cases ha : a.outcome.isSuccess with
  | true =>
    obtain ⟨space₁, hres⟩ := h.result_eq (a := a) (by simp)
    obtain ⟨e, he⟩ := Tool.exists_outcome_of_check hres
    rw [Verdict.ofAttempts_of_success ha, Attempt.reported, if_pos ha,
      Tool.eq_accepted_of_outcome he ha]
    exact ⟨rfl, rfl⟩
  | false =>
    rw [Verdict.ofAttempts_of_failure ha]
    exact ⟨rfl, rfl⟩

theorem tellAlike_of_climbs (h : Climbs (tool.check runner) t space (tried ++ [a]) space')
    (hv : v = .ofAttempts t (tried ++ [a])) (ho : outcome = a.reported)
    (hsaid : response.exit = (concludeVerdict source json v).exit ∧
      response.output = unlines (concludeVerdict source json v).output)
    (hsaid' : response'.exit = (concludeOutcome source a.strategy json outcome).exit ∧
      response'.output = unlines (concludeOutcome source a.strategy json outcome).output) :
    TellAlike source v a.strategy json response response' := by
  obtain ⟨n, hline, hn⟩ := h.getD_line_verdict (Tool.check_reportsWritable _ _)
  have hattempts := h.isWritable_attempts
  have hfailure := Verdict.isFailure_ofAttempts t tried a
  have hsuccess := a.reported_isSuccess
  obtain ⟨hsameLine, hsameMessage⟩ := reported_eq_verdict h
  rw [← hv] at hline hattempts hfailure hsameLine hsameMessage
  rw [← ho] at hsuccess hsameLine hsameMessage
  have hline' : outcome.line.getD 1 = n := by rw [hsameLine, hline]
  cases json with
  | true =>
    rw [concludeVerdict_json source hline hn hattempts] at hsaid
    rw [concludeOutcome_json source a.strategy hline' hn] at hsaid'
    refine ⟨hsaid.1, ?_, by simp, by simp, ?_⟩
    · rw [hsaid.1, hsaid'.1, hsuccess, hfailure]
      cases a.outcome.isSuccess <;> rfl
    · intro _
      exact ⟨outcome, hsameLine, hsameMessage, hsaid.2, hsaid'.2⟩
  | false =>
    cases ha : a.outcome.isSuccess with
    | true =>
      rw [ha] at hfailure hsuccess
      rw [Verdict.ofAttempts_of_success ha] at hv
      subst hv
      have hs := h.strategy_mem_all (a := a) (by simp)
      rw [concludeVerdict_succeeded source hs] at hsaid
      rw [concludeOutcome_of_isSuccess source a.strategy hsuccess] at hsaid'
      refine ⟨hsaid.1, hsaid'.1.trans hsaid.1.symm, ?_, fun _ _ => ⟨hsaid.2, hsaid'.2⟩, by simp⟩
      intro _ hfail
      rw [hfailure] at hfail
      cases hfail
    | false =>
      rw [ha] at hfailure hsuccess
      rw [concludeVerdict_of_isFailure source hfailure hline hn] at hsaid
      rw [concludeOutcome_of_not_isSuccess source a.strategy hsuccess hline' hn,
        hsameMessage] at hsaid'
      refine ⟨?_, hsaid'.1.trans hsaid.1.symm, ?_, ?_, by simp⟩
      · rw [hsaid.1, hfailure]
        rfl
      · intro _ _
        exact ⟨n, hline, hsaid.2, hsaid'.2⟩
      · intro _ hfail
        rw [hfailure] at hfail
        cases hfail

end LastAttempt

theorem Forces.tellAlike (h : Forces host words words' o s settings source t)
    {inv : Workspace → Prop} {answer : Text → Except Fault Outcome}
    (hcheck : ((toolFor host settings o).check host.runner).Follows inv answer)
    (hstart : inv { files := host.files })
    (hv : (perform { files := host.files }
      (DocSamples.validate ((toolFor host settings o).check host.runner) t)).1 = .ok v)
    (hs : Strategy.named v.strategyName = .ok s) :
    TellAlike source v s o.json (CommandLine.run host words) (CommandLine.run host words') := by
  obtain ⟨tried, space, hclimb, rfl⟩ := exists_climbs_of_perform hv
  rcases List.eq_nil_or_concat tried with rfl | ⟨tried, a, rfl⟩
  · cases hs
  rw [List.concat_eq_append] at *
  rw [Verdict.strategyName_ofAttempts,
    Strategy.named_name (hclimb.strategy_mem_all (a := a) (by simp))] at hs
  cases hs
  obtain ⟨space', hends'⟩ := hclimb.ends_last hcheck hstart hstart
  obtain ⟨hrun, hrun'⟩ := h.run_eq
  rw [hrun, hrun']
  exact tellAlike_of_climbs hclimb rfl rfl (conclude_of_ends hclimb.ends _ _)
    (conclude_of_ends hends' _ _)

/-- A strategy that is forced gives what the ladder says with it. In particular the program ends
with the same status and tells of the same line and message when it is given the strategy. -/
theorem forced_strategy_agrees :
    (∀ {σ : Type} (check : Checker σ) (inv : σ → Prop) (answer : Text → Except Fault Outcome)
      (t : Text) (m m₀ : σ) (v : Verdict), check.Follows inv answer → inv m → inv m₀ →
      Shape.classify t ≠ .pseudoCode → (perform m (validate check t)).1 = .ok v →
      ∃ s o, Strategy.named v.strategyName = .ok s ∧
        (perform m₀ (s.attempt check t)).1 = .ok o ∧ o.Repeats v) ∧
    ∀ (host : Host) (words words' : List Text) (o : Options) (s : Strategy) (settings : Settings)
      (source t : Text) (inv : Workspace → Prop) (answer : Text → Except Fault Outcome)
      (v : Verdict), Forces host words words' o s settings source t →
      ((toolFor host settings o).check host.runner).Follows inv answer →
      inv { files := host.files } →
      (perform { files := host.files }
        (validate ((toolFor host settings o).check host.runner) t)).1 = .ok v →
      Strategy.named v.strategyName = .ok s →
      TellAlike source v s o.json (run host words) (run host words') := by
  constructor
  · intro σ check inv answer t m m₀ v hcheck hm hm₀ hp hv
    exact exists_repeats hcheck hm hm₀ hp hv
  · intro host words words' o s settings source t inv answer v h hcheck hstart hv hs
    exact h.tellAlike hcheck hstart hv hs

def sampleOptions : Options := { snippet := some (.value "a.scaf") }

theorem forces_sampleHost :
    Forces sampleHost ["--snippet", "a.scaf"] ["--snippet", "a.scaf", "--strategy", "test-wrap"]
      sampleOptions .testWrap (assertionSettings "scaf") "a.scaf" "assert (x)" :=
  forces_of_words (s := .testWrap) (by decide) (by decide) samples_sampleHost.goesBy
    samples_sampleHost.readSource_eq

def sampleTool : Tool := toolFor sampleHost (assertionSettings "scaf") sampleOptions

theorem canWrite_sampleTool : sampleTool.CanWrite sampleHost.files := by
  intro n
  exact (writes_toolFor sampleHost _ sampleOptions n).2 ⟨_, by rfl⟩

theorem check_sampleTool_follows :
    (sampleTool.check rejectingRunner).Follows (fun space => sampleTool.CanWrite space.files)
      (fun t => sampleTool.outcome (rejectsText t)) :=
  Tool.check_follows fun _ _ _ _ => rfl

/-- The fourth line of the test around the sample is its first. -/
def sampleVerdict : Verdict :=
  .failed .testWrap .assertionFragment 2 ⟨.syntaxError, "expected", some 1⟩

theorem perform_validate_sample :
    (perform { files := sampleHost.files }
      (validate (sampleTool.check rejectingRunner) "assert (x)")).1 = .ok sampleVerdict := by
  decide +kernel

theorem forced_strategy_agrees_sample :
    (∃ o, (perform { files := sampleHost.files }
        (Strategy.testWrap.attempt (sampleTool.check rejectingRunner) "assert (x)")).1 = .ok o ∧
      o.Repeats sampleVerdict) ∧
    (run sampleHost ["--snippet", "a.scaf"]).output =
      unlines ["a.scaf:1:1: scaf syntax error: expected"] ∧
    (run sampleHost ["--snippet", "a.scaf", "--strategy", "test-wrap"]).exit = .status 1 ∧
    (run sampleHost ["--snippet", "a.scaf", "--strategy", "test-wrap"]).output =
      unlines ["a.scaf:1:1: scaf syntax error: expected (test-wrap)"] := by
  obtain ⟨s, o, hs, ho, hrepeats⟩ := forced_strategy_agrees.1 _ _ _ _ _
    { files := sampleHost.files } _ check_sampleTool_follows canWrite_sampleTool canWrite_sampleTool
    (by decide) perform_validate_sample
  obtain ⟨hexit, hexit', hfailed, -, -⟩ := forced_strategy_agrees.2 _ _ _ _ _ _ _ _ _ _ _
    forces_sampleHost check_sampleTool_follows canWrite_sampleTool perform_validate_sample rfl
  cases hs
  obtain ⟨n, hn, houtput, houtput'⟩ := hfailed rfl rfl
  cases hn
  exact ⟨⟨o, ho, hrepeats⟩, houtput, hexit'.trans hexit, houtput'⟩

end CommandLine

end DocSamples
