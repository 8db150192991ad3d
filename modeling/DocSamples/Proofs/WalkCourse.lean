import DocSamples.Proofs.Walking

namespace DocSamples

open Run

variable {σ : Type} {check : Checker σ} {settings : Settings} {m m' : σ} {f : Fence}
  {fs : List Fence} {texts : List Text} {v : Verdict} {s : Session σ} {r : Report}
  {path : Option Path} {d : Document}

/-- The samples of some fences are validated one after another and none of them fails: the texts
that the checker is asked about in these validations, and what it remembers in the end. -/
inductive Validated (check : Checker σ) : σ → List Fence → List Text → σ → Prop
  | nil {m : σ} : Validated check m [] [] m
  | cons {m m' : σ} {f : Fence} {fs : List Fence} {v : Verdict} {s : Session σ} {texts : List Text}
      (hv : perform m (validate check f.text) = (.ok v, s)) (hp : v.isFailure = false)
      (h : Validated check s.memory fs texts m') :
      Validated check m (f :: fs) (s.asked ++ texts) m'

inductive WalkEnding
  | passed
  | failed (f : Fence) (v : Verdict)
  | faulted (e : Fault)

/-- The course of a walk over the fences of the language: those that are reached, the texts that the
checker is asked about, and the ending. The texts are those of the validations of the fences that
are not exempt, up to the first that fails. -/
inductive Course (check : Checker σ) (settings : Settings) (m : σ) (tagged : List Fence) :
    List Fence → List Text → WalkEnding → Prop
  | passed {texts : List Text} {m' : σ}
      (h : Validated check m (tagged.filter (Fence.isValidated settings)) texts m') :
      Course check settings m tagged tagged texts .passed
  | failed {before after : List Fence} {f : Fence} {texts : List Text} {m' : σ} {v : Verdict}
      {s : Session σ} (hsplit : tagged = before ++ f :: after)
      (hf : f.isValidated settings = true)
      (h : Validated check m (before.filter (Fence.isValidated settings)) texts m')
      (hv : perform m' (validate check f.text) = (.ok v, s)) (hfail : v.isFailure = true) :
      Course check settings m tagged (before ++ [f]) (texts ++ s.asked) (.failed f v)
  | faulted {before after : List Fence} {f : Fence} {texts : List Text} {m' : σ} {e : Fault}
      {s : Session σ} (hsplit : tagged = before ++ f :: after)
      (hf : f.isValidated settings = true)
      (h : Validated check m (before.filter (Fence.isValidated settings)) texts m')
      (hv : perform m' (validate check f.text) = (.error e, s)) :
      Course check settings m tagged (before ++ [f]) (texts ++ s.asked) (.faulted e)

def WalkEnding.report (settings : Settings) (path : Option Path) (reached : List Fence) :
    WalkEnding → Except Fault Report
  | passed => .ok ⟨path, reached.countP (Fence.isCheckable settings),
      reached.countP (Fence.isLeftOut settings), none⟩
  | failed f v => .ok ⟨path, reached.countP (Fence.isCheckable settings),
      reached.countP (Fence.isLeftOut settings), some (Document.failureOf settings path f v)⟩
  | faulted e => .error e

theorem Validated.passes (h : Validated check m (fs.filter (Fence.isValidated settings)) texts m') :
    Passes check settings m fs texts m' := by
  induction fs generalizing m texts with
  | nil =>
    cases h
    exact .nil
  | cons f fs ih =>
    cases hf : f.isValidated settings with
    | false =>
      rw [List.filter_cons_of_neg (by simp [hf])] at h
      exact .exempt hf (ih h)
    | true =>
      rw [List.filter_cons_of_pos hf] at h
      cases h with
      | cons hv hp h =>
        obtain ⟨tried, hclimb, rfl, hasked⟩ := climbs_of_exec hv
        rw [hasked]
        exact .validated hf hclimb hp (ih h)

variable {reached : List Fence} {ending : WalkEnding}

/-- One fence more before the others adds what is asked for it, in every course alike. -/
theorem Course.cons {m₁ : σ} {asked : List Text}
    (hcons : ∀ before texts m',
      Validated check m₁ (before.filter (Fence.isValidated settings)) texts m' →
      Validated check m ((f :: before).filter (Fence.isValidated settings)) (asked ++ texts) m')
    (h : Course check settings m₁ fs reached texts ending) :
    Course check settings m (f :: fs) (f :: reached) (asked ++ texts) ending := by
  cases h with
  | passed h => exact .passed (hcons _ _ _ h)
  | @failed before after g _ _ _ _ hsplit hg h hv hfail =>
    have hsplit' : f :: fs = (f :: before) ++ g :: after := by rw [hsplit, List.cons_append]
    rw [← List.append_assoc]
    exact .failed hsplit' hg (hcons _ _ _ h) hv hfail
  | @faulted before after g _ _ _ _ hsplit hg h hv =>
    have hsplit' : f :: fs = (f :: before) ++ g :: after := by rw [hsplit, List.cons_append]
    rw [← List.append_assoc]
    exact .faulted hsplit' hg (hcons _ _ _ h) hv

theorem Course.exempt_cons (hf : f.isValidated settings = false)
    (h : Course check settings m fs reached texts ending) :
    Course check settings m (f :: fs) (f :: reached) texts ending := by
  rw [← List.nil_append texts]
  apply h.cons
  intro before texts m' h
  rw [List.filter_cons_of_neg (by simp [hf])]
  exact h

theorem Course.validated_cons (hf : f.isValidated settings = true)
    (hv : perform m (validate check f.text) = (.ok v, s)) (hp : v.isFailure = false)
    (h : Course check settings s.memory fs reached texts ending) :
    Course check settings m (f :: fs) (f :: reached) (s.asked ++ texts) ending := by
  apply h.cons
  intro before texts m' h
  rw [List.filter_cons_of_pos hf]
  exact .cons hv hp h

theorem exists_course (check : Checker σ) (settings : Settings) (m : σ) (fs : List Fence) :
    ∃ reached texts ending, Course check settings m fs reached texts ending := by
  induction fs generalizing m with
  | nil => exact ⟨_, _, _, .passed .nil⟩
  | cons f fs ih =>
    cases hf : f.isValidated settings with
    | false =>
      obtain ⟨reached, texts, ending, h⟩ := ih m
      exact ⟨_, _, _, h.exempt_cons hf⟩
    | true =>
      have hsplit : f :: fs = [] ++ f :: fs := rfl
      obtain ⟨result, s, hv⟩ : ∃ result s, perform m (validate check f.text) = (result, s) :=
        ⟨_, _, rfl⟩
      cases result with
      | error e => exact ⟨_, _, _, .faulted hsplit hf .nil hv⟩
      | ok v =>
        cases hfail : v.isFailure with
        | true => exact ⟨_, _, _, .failed hsplit hf .nil hv hfail⟩
        | false =>
          obtain ⟨reached, texts, ending, h⟩ := ih s.memory
          exact ⟨_, _, _, h.validated_cons hf hv hfail⟩

theorem Course.isPrefix (h : Course check settings m fs reached texts ending) : reached <+: fs := by
  cases h with
  | passed => exact List.prefix_rfl
  | failed hsplit => exact ⟨_, by rw [hsplit, List.append_assoc]; rfl⟩
  | faulted hsplit => exact ⟨_, by rw [hsplit, List.append_assoc]; rfl⟩

theorem Fence.isLeftOut_eq_not (hf : f.isTagged settings = true) :
    f.isLeftOut settings = !f.isCheckable settings := by
  cases hs : f.isSkipped settings.skipToken <;>
    simp [isLeftOut, isCheckable, isValidated, hf, hs, bne]

/-- Every fence of the language is either checked or left out. -/
theorem countP_isCheckable_add (h : ∀ f ∈ fs, f.isTagged settings = true) :
    fs.countP (Fence.isCheckable settings) + fs.countP (Fence.isLeftOut settings) = fs.length := by
  rw [List.length_eq_countP_add_countP (Fence.isCheckable settings)]
  congr 1
  apply List.countP_congr
  intro f hf
  simp [Fence.isLeftOut_eq_not (h f hf)]

theorem Verdict.isSkipped_of_isFailure (h : v.isFailure = true) : v.isSkipped = false := by
  cases v with
  | skipped => contradiction
  | succeeded => contradiction
  | failed => rfl

theorem isCheckable_of_failed (hf : f.isValidated settings = true)
    (hv : perform m (validate check f.text) = (.ok v, s)) (hfail : v.isFailure = true) :
    f.isCheckable settings = true ∧ f.isLeftOut settings = false := by
  obtain ⟨tried, hclimb, rfl, -⟩ := climbs_of_exec hv
  have hp : Shape.classify f.text ≠ .pseudoCode := by
    intro hp
    rw [hclimb.eq_nil_iff.2 hp] at hfail
    contradiction
  have hs := (Fence.isValidated_iff.1 hf).2
  exact ⟨by simp [Fence.isCheckable, hf, hp], by simp [Fence.isLeftOut, hs, hp]⟩

namespace Document

/-- The fences of the language among those of a document. -/
def tagged (settings : Settings) (d : Document) : List Fence :=
  (Fence.scan d.flavor d.text).filter (Fence.isTagged settings)

/-- The walk passes over the fences of other languages. -/
theorem walk_eq_walk_tagged (check : Checker σ) (settings : Settings) (fs : List Fence)
    (r : Report) :
    walk check settings fs r = walk check settings (fs.filter (Fence.isTagged settings)) r := by
  induction fs generalizing r with
  | nil => rfl
  | cons f fs ih =>
    cases hf : f.isTagged settings with
    | false =>
      rw [List.filter_cons_of_neg (by simp [hf]), walk, if_pos (by simpa [Fence.isTagged] using hf),
        ih]
    | true =>
      rw [List.filter_cons_of_pos hf, walk, walk]
      simp only [ih]

end Document

/-- The walk over the fences of the language goes as its course has it. -/
theorem Course.comes (h : Course check settings m fs reached texts ending) (path : Option Path) :
    ∃ m', Comes (Document.walk check settings fs { path }) m
      (ending.report settings path reached) texts m' := by
  cases h with
  | passed h =>
    have hends := h.passes.ends { path }
    simp only [Report.pass, Nat.zero_add] at hends
    exact ⟨_, hends.comes⟩
  | @failed before after f texts m₁ v s hsplit hf h hv hfail =>
    obtain ⟨hcheck, hleft⟩ := isCheckable_of_failed hf hv hfail
    have hlead := h.passes.leads (f :: after) { path }
    rw [← hsplit] at hlead
    have hstop : Ends (Document.walk check settings (f :: after)
        (Report.pass settings { path } before)) m₁
        ⟨path, (before ++ [f]).countP (Fence.isCheckable settings),
          (before ++ [f]).countP (Fence.isLeftOut settings),
          some (Document.failureOf settings path f v)⟩ s.asked s.memory := by
      rw [Document.walk_of_isValidated hf]
      apply ((steady_validate check f.text).comes hv).ends.bind_silent
      rw [Document.resume, Verdict.isSkipped_of_isFailure hfail, hfail,
        if_neg Bool.false_ne_true, if_pos rfl]
      simp only [Report.pass, List.countP_append, List.countP_singleton, hcheck, hleft,
        Nat.zero_add]
      exact .pure _ _
    exact ⟨_, hlead.comes hstop.comes⟩
  | @faulted before after f texts m₁ e s hsplit hf h hv =>
    have hlead := h.passes.leads (f :: after) { path }
    rw [← hsplit, Document.walk_of_isValidated hf] at hlead
    exact ⟨_, hlead.comes ((steady_validate check f.text).comes hv).bind_error⟩

namespace Document

theorem validate_comes {result : Except Fault Report}
    (h : Comes (d.report check settings) m result texts m') :
    Comes (d.validate check settings) m
      (result.map fun r => match r.failure with
        | some f => .error f
        | none => .ok r) texts m' := by
  unfold validate
  cases result with
  | error e => exact h.bind_error
  | ok r => exact Ends.comes (.bind_silent h.ends (.pure _ _))

theorem report_comes (h : Course check settings m (d.tagged settings) reached texts ending) :
    ∃ m', Comes (d.report check settings) m (ending.report settings d.path reached) texts m' := by
  rw [report, walk_eq_walk_tagged]
  exact h.comes d.path

theorem validate_eq_error_iff (h : Course check settings m (d.tagged settings) reached texts ending)
    {failure : Failure} :
    (perform m (d.validate check settings)).1 = .ok (.error failure) ↔
      ∃ f v, ending = .failed f v ∧ failure = failureOf settings d.path f v := by
  obtain ⟨m', hcomes⟩ := report_comes h
  obtain ⟨s, hrun, -⟩ := (validate_comes hcomes).exists_perform
  rw [hrun]
  cases ending with
  | passed => simp [WalkEnding.report, Except.map]
  | failed f v =>
    constructor
    · intro hfail
      cases hfail
      exact ⟨f, v, rfl, rfl⟩
    · rintro ⟨_, _, ⟨⟩, rfl⟩
      rfl
  | faulted e => simp [WalkEnding.report, Except.map]

/-- A walk has a course, and goes as it has it: the checker is asked about the texts of the
validations up to the first that fails, only that one gives rise to a failure, and the report counts
the fences up to there. -/
theorem walk_course (check : Checker σ) (settings : Settings) (m : σ) (d : Document) :
    (∃ reached texts ending, Course check settings m (d.tagged settings) reached texts ending) ∧
    (∀ reached texts ending, Course check settings m (d.tagged settings) reached texts ending →
      (∃ s, perform m (d.report check settings) = (ending.report settings d.path reached, s) ∧
        s.asked = texts) ∧
      (perform m (d.validate check settings)).2.asked = texts ∧
      reached.countP (Fence.isCheckable settings) + reached.countP (Fence.isLeftOut settings) =
        reached.length) ∧
    (∀ failure, (perform m (d.validate check settings)).1 = .ok (.error failure) ↔
      ∃ reached texts f v, Course check settings m (d.tagged settings) reached texts (.failed f v) ∧
        failure = failureOf settings d.path f v) ∧
    ∀ (f : Fence) (m : σ), Shape.classify f.text = .pseudoCode →
      (perform m (DocSamples.validate check f.text)).2.asked = [] := by
  refine ⟨exists_course check settings m _, ?_, ?_, ?_⟩
  · intro reached texts ending h
    obtain ⟨m', hcomes⟩ := report_comes h
    obtain ⟨s, hrun, hasked, -⟩ := hcomes.exists_perform
    obtain ⟨s', hrun', hasked', -⟩ := (validate_comes hcomes).exists_perform
    refine ⟨⟨s, hrun, hasked⟩, by rw [hrun']; exact hasked', countP_isCheckable_add ?_⟩
    intro f hf
    exact (List.mem_filter.1 (h.isPrefix.subset hf)).2
  · intro failure
    constructor
    · intro hfail
      obtain ⟨reached, texts, ending, h⟩ := exists_course check settings m (d.tagged settings)
      obtain ⟨f, v, rfl, hv⟩ := (validate_eq_error_iff h).1 hfail
      exact ⟨reached, texts, f, v, h, hv⟩
    · rintro ⟨reached, texts, f, v, h, hv⟩
      exact (validate_eq_error_iff h).2 ⟨f, v, rfl, hv⟩
  · intro f m hp
    obtain ⟨s, hrun, hasked, -⟩ := (Climbs.none hp).ends.comes.exists_perform
    rw [hrun]
    exact hasked

end Document

def rejectsThird : Checker Nat := fun _ n =>
  ⟨.ok (if n = 2 then ⟨.syntaxError, "expected", some 1⟩ else .accepted), n + 1, []⟩

/-- A document with a sample in another language, an exempt one, pseudo-code, and four samples that
are to be checked. -/
def Document.mixed : Document where
  path := none
  flavor := .markdown
  text := "```scaf\na\n```\n```go\nb\n```\n```scaf skip\nc\n```\n```scaf\n...\n```\n" ++
    "```scaf\nd\n```\n```scaf\ne\n```\n```scaf\nf\n```\n"

namespace Document

def mixedReached : List Fence :=
  [⟨"a", "scaf", none, 1⟩, ⟨"c", "scaf", some "skip", 7⟩, ⟨"...", "scaf", none, 10⟩,
    ⟨"d", "scaf", none, 13⟩]

theorem tagged_mixed : mixed.tagged (.default ⟨0, []⟩) =
    mixedReached ++ ⟨"e", "scaf", none, 16⟩ :: [⟨"f", "scaf", none, 19⟩] := by
  decide +kernel

theorem course_mixed :
    Course rejectsThird (.default ⟨0, []⟩) 0 (mixed.tagged (.default ⟨0, []⟩))
      (mixedReached ++ [⟨"e", "scaf", none, 16⟩]) ["a", "d", "e"]
      (.failed ⟨"e", "scaf", none, 16⟩
        (.failed .identity .fullProgram 1 ⟨.syntaxError, "expected", some 1⟩)) := by
  have hfilter : mixedReached.filter (Fence.isValidated (.default ⟨0, []⟩)) =
      [⟨"a", "scaf", none, 1⟩, ⟨"...", "scaf", none, 10⟩, ⟨"d", "scaf", none, 13⟩] := by decide
  have hbefore : Validated rejectsThird 0
      (mixedReached.filter (Fence.isValidated (.default ⟨0, []⟩))) ["a", "d"] 2 := by
    rw [hfilter]
    exact .cons (s := ⟨1, ["a"], _⟩) rfl rfl (.cons (s := ⟨1, [], _⟩) rfl rfl
      (.cons (s := ⟨2, ["d"], _⟩) rfl rfl .nil))
  have hlast : Climbs rejectsThird "e" 2 [⟨.identity, ⟨.syntaxError, "expected", some 1⟩⟩] 3 :=
    .direct (by decide) ⟨rfl, rfl⟩ (.inr (by decide))
  obtain ⟨s, hrun, hasked, -⟩ := hlast.ends.comes.exists_perform
  have hcourse := Course.failed tagged_mixed (by decide) hbefore hrun (by decide)
  rw [hasked] at hcourse
  exact hcourse

theorem walk_course_mixed :
    (∃ s, perform 0 (mixed.report rejectsThird (.default ⟨0, []⟩)) =
        (.ok ⟨none, 3, 2, some (failureOf (.default ⟨0, []⟩) none ⟨"e", "scaf", none, 16⟩
          (.failed .identity .fullProgram 1 ⟨.syntaxError, "expected", some 1⟩))⟩, s) ∧
      s.asked = [("a" : Text), "d", "e"]) ∧
    (∃ failure, (perform 0 (mixed.validate rejectsThird (.default ⟨0, []⟩))).1 =
      .ok (.error failure) ∧ failure.line = 17) ∧
    (perform 0 (DocSamples.validate rejectsThird "...")).2.asked = [] := by
  obtain ⟨-, hcourse, hfails, hpseudo⟩ := walk_course rejectsThird (.default ⟨0, []⟩) 0 mixed
  obtain ⟨hreport, -, -⟩ := hcourse _ _ _ course_mixed
  refine ⟨hreport, ⟨_, (hfails _).2 ⟨_, _, _, _, course_mixed, rfl⟩, rfl⟩, ?_⟩
  exact hpseudo ⟨"...", "scaf", none, 10⟩ 0 (by decide)

end Document

end DocSamples
