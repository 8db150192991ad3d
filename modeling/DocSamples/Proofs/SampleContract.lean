import DocSamples.Proofs.Embedding

namespace DocSamples

open Run

variable {σ : Type} {check : Checker σ} {t : Text} {m m' : σ} {tried : List Attempt}
  {s : Strategy}

namespace Checker

def IsTotal (check : Checker σ) : Prop := ∀ t m, ∃ o, (check t m).result = .ok o

/-- The outcomes of a checker that is asked about some texts, one after another. -/
inductive Replies (check : Checker σ) : σ → List Text → List Outcome → σ → Prop
  | nil {m : σ} : Replies check m [] [] m
  | cons {m m' m'' : σ} {t : Text} {o : Outcome} {texts : List Text} {outcomes : List Outcome}
      (ha : check.Answers t m o m') (h : Replies check m' texts outcomes m'') :
      Replies check m (t :: texts) (o :: outcomes) m''

end Checker

def Shape.wrap? : Shape → Option Strategy
  | scopeBody => some .scopeWrap
  | assertionFragment => some .testWrap
  | fullProgram | pseudoCode => none

/-- The texts that are asked about for a sample: none for pseudo-code, else the sample, and after a
rejection its program in the strategy for its shape. -/
structure AskedFor (t : Text) (asked : List Text) (outcomes : List Outcome) : Prop where
  cases : asked = [] ∨ asked = [t] ∨ asked = [t, Strategy.scopeWrap.apply t] ∨
    asked = [t, Strategy.testWrap.apply t]
  nil_iff : asked = [] ↔ Shape.classify t = .pseudoCode
  scopeWrap_iff : asked = [t, Strategy.scopeWrap.apply t] ↔
    Shape.classify t = .scopeBody ∧ ∃ o, outcomes.head? = some o ∧ o.kind = .syntaxError
  testWrap_iff : asked = [t, Strategy.testWrap.apply t] ↔
    Shape.classify t = .assertionFragment ∧ ∃ o, outcomes.head? = some o ∧ o.kind = .syntaxError

/-- A verdict on a sample tells of the last outcome and of the strategy of the last text. -/
structure Verdict.TellsOf (t : Text) (asked : List Text) (outcomes : List Outcome) (v : Verdict) :
    Prop where
  attempts : v.attempts = asked.length
  isSkipped_iff : v.isSkipped = true ↔ asked = []
  isSuccess_iff : v.isSuccess = true ↔ ∃ o, outcomes.getLast? = some o ∧ o.kind = .ok
  failed : v.isFailure = true → ∃ o s, outcomes.getLast? = some o ∧
    Strategy.named v.strategyName = .ok s ∧ asked.getLast? = some (s.apply t) ∧
    v.message = o.message ∧ v.kind? = some o.kind ∧ o.kind ≠ .ok ∧
    v.line = o.line.map fun l => max 1 (l - s.lineOffset)
  not_failed : v.isFailure = false → v.message = [] ∧ v.line = none ∧ v.kind? = none

namespace Strategy

/-- The first fallback whose test holds is the one for the shape of the sample. -/
theorem fallback?_eq_wrap? (hc : Shape.classify t ≠ .pseudoCode) :
    fallback? t = (Shape.classify t).wrap? := by
  have hp : Shape.isPseudoCode t = false := by
    cases hp : Shape.isPseudoCode t with
    | false => rfl
    | true => exact absurd (if_pos hp) hc
  cases hscope : Shape.looksLikeScope t with
  | true => simp [fallback?, fallbacks, Shape.classify, hp, hscope, Shape.wrap?]
  | false =>
    cases hassert : Shape.looksLikeAssert t with
    | true => simp [fallback?, fallbacks, Shape.classify, hp, hscope, hassert, Shape.wrap?]
    | false => simp [fallback?, fallbacks, Shape.classify, hp, hscope, hassert, Shape.wrap?]

theorem named_name (h : s ∈ all) : named s.name = .ok s := by
  rcases mem_all_iff.1 h with rfl | rfl | rfl <;> rfl

theorem scopeWrap_apply_ne (t : Text) : scopeWrap.apply t ≠ testWrap.apply t := by
  intro h
  have hlen := congrArg List.length h
  have hheader : scopeWrap.header.length < testWrap.header.length := by decide
  have hfooter : scopeWrap.footer.length < testWrap.footer.length := by decide
  simp only [apply, List.length_append] at hlen
  omega

end Strategy

theorem Shape.wrap?_eq_some_iff {shape : Shape} :
    shape.wrap? = some s ↔
      shape = .scopeBody ∧ s = .scopeWrap ∨ shape = .assertionFragment ∧ s = .testWrap := by
  cases shape <;> simp [wrap?, eq_comm]

theorem Verdict.tellsOf (hall : ∀ a ∈ tried, a.strategy ∈ Strategy.all) :
    (ofAttempts t tried).TellsOf t (tried.map (·.program t)) (tried.map (·.outcome)) := by
  rcases List.eq_nil_or_concat tried with rfl | ⟨before, a, rfl⟩
  · exact ⟨rfl, by simp [ofAttempts, isSkipped], by simp [ofAttempts, isSuccess],
      by simp [ofAttempts, isFailure], fun _ => ⟨rfl, rfl, rfl⟩⟩
  · rw [List.concat_eq_append] at hall ⊢
    have hs := Strategy.named_name (hall a (by simp))
    cases ha : a.outcome.isSuccess with
    | true =>
      rw [ofAttempts_of_success ha]
      have hk : a.outcome.kind = .ok := eq_of_beq ha
      exact ⟨by simp [attempts], by simp [isSkipped], by simp [isSuccess, hk],
        by simp [isFailure], fun _ => ⟨rfl, rfl, rfl⟩⟩
    | false =>
      rw [ofAttempts_of_failure ha]
      have hk : a.outcome.kind ≠ .ok := ne_of_beq_false ha
      refine ⟨by simp [attempts], by simp [isSkipped], by simp [isSuccess, hk], fun _ => ?_,
        by simp [isFailure]⟩
      refine ⟨a.outcome, a.strategy, by simp, hs, by simp [Attempt.program], ?_, ?_, hk, ?_⟩
      · simp [message, Attempt.reported, ha, Outcome.remap]
      · simp [kind?]
      · simp [line, Attempt.reported, ha, Outcome.remap]

namespace Climbs

theorem replies (h : Climbs check t m tried m') :
    check.Replies m (tried.map (·.program t)) (tried.map (·.outcome)) m' := by
  cases h with
  | none => exact .nil
  | direct _ ha _ => exact .cons ha .nil
  | retried _ ha _ _ ha' => exact .cons ha (.cons ha' .nil)

theorem askedFor (h : Climbs check t m tried m') :
    AskedFor t (tried.map (·.program t)) (tried.map (·.outcome)) := by
  cases h with
  | none hc => constructor <;> simp [hc]
  | direct hc ha hd =>
    rename_i o
    rw [Strategy.fallback?_eq_wrap? hc] at hd
    have hk : ∀ s, (Shape.classify t).wrap? = some s → o.kind ≠ .syntaxError := by
      intro s hs
      rw [hs] at hd
      exact hd.resolve_right (by simp)
    simp only [List.map_cons, List.map_nil, Attempt.program, Strategy.apply_identity]
    refine ⟨.inr (.inl rfl), by simpa using hc, ?_, ?_⟩
    · simpa using fun hshape => hk _ (Shape.wrap?_eq_some_iff.2 (.inl ⟨hshape, rfl⟩))
    · simpa using fun hshape => hk _ (Shape.wrap?_eq_some_iff.2 (.inr ⟨hshape, rfl⟩))
  | retried hc ha hk hs ha' =>
    rw [Strategy.fallback?_eq_wrap? hc] at hs
    simp only [List.map_cons, List.map_nil, Attempt.program, Strategy.apply_identity]
    rcases Shape.wrap?_eq_some_iff.1 hs with ⟨hshape, rfl⟩ | ⟨hshape, rfl⟩
    · have hne := Strategy.scopeWrap_apply_ne t
      constructor <;> simp [hshape, hk, hne]
    · have hne := (Strategy.scopeWrap_apply_ne t).symm
      constructor <;> simp [hshape, hk, hne]

end Climbs

theorem Checker.IsTotal.climbs (h : check.IsTotal) (t : Text) (m : σ) :
    ∃ tried m', Climbs check t m tried m' := by
  by_cases hc : Shape.classify t = .pseudoCode
  · exact ⟨_, _, .none hc⟩
  · obtain ⟨o, ho⟩ := h (Strategy.identity.apply t) m
    by_cases hk : o.kind = .syntaxError
    · cases hf : Strategy.fallback? t with
      | none => exact ⟨_, _, .direct hc ⟨ho, rfl⟩ (.inr hf)⟩
      | some s =>
        obtain ⟨o', ho'⟩ := h (s.apply t) (check (Strategy.identity.apply t) m).memory
        exact ⟨_, _, .retried hc ⟨ho, rfl⟩ hk hf ⟨ho', rfl⟩⟩
    · exact ⟨_, _, .direct hc ⟨ho, rfl⟩ (.inl hk)⟩

/-- A checker that never fails to have an outcome is asked about a sample as its shape has it, and
the verdict tells of the last outcome. -/
theorem validate_contract (hcheck : check.IsTotal) (t : Text) (m : σ) :
    ∃ v s outcomes, Run.perform m (validate check t) = (.ok v, s) ∧
      check.Replies m s.asked outcomes s.memory ∧ AskedFor t s.asked outcomes ∧
      v.TellsOf t s.asked outcomes := by
  obtain ⟨tried, m', hclimb⟩ := hcheck.climbs t m
  obtain ⟨journal, hrun⟩ := hclimb.ends [] []
  exact ⟨_, _, _, hrun, hclimb.replies, hclimb.askedFor,
    Verdict.tellsOf fun _ ha => hclimb.strategy_mem_all ha⟩

def rejectsOnce : Checker Bool := fun _ asked =>
  ⟨.ok (if asked then .accepted else ⟨.syntaxError, "expected", some 1⟩), true, []⟩

theorem rejectsOnce_isTotal : rejectsOnce.IsTotal := fun _ _ => ⟨_, rfl⟩

/-- Assertions that are rejected are accepted within a test. -/
theorem validate_contract_rejectsOnce :
    ∃ v s, Run.perform false (validate rejectsOnce "assert (x)") = (.ok v, s) ∧
      s.asked = [("assert (x)" : Text), Strategy.testWrap.apply "assert (x)"] ∧
      v.isSuccess = true ∧ v.attempts = 2 := by
  obtain ⟨v, ⟨_, asked, journal⟩, outcomes, hrun, hreplies, hasked, htells⟩ :=
    validate_contract rejectsOnce_isTotal "assert (x)" false
  refine ⟨v, _, hrun, ?_⟩
  cases hreplies with
  | nil => exact absurd (hasked.nil_iff.1 rfl) (by decide)
  | cons ha hreplies =>
    obtain ⟨ho, rfl⟩ := ha
    cases ho
    have htwo := hasked.testWrap_iff.2 ⟨by decide, _, rfl, rfl⟩
    cases htwo
    cases hreplies with
    | cons ha' hreplies =>
      obtain ⟨ho', rfl⟩ := ha'
      cases ho'
      cases hreplies
      exact ⟨rfl, htells.isSuccess_iff.2 ⟨_, rfl, rfl⟩, htells.attempts⟩

end DocSamples
