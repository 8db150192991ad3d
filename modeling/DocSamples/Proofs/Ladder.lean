import DocSamples.Proofs.Running
import DocSamples.Verdict

namespace DocSamples

open Run

variable {σ : Type} {check : Checker σ} {t : Text} {m m' m'' : σ} {o : Outcome} {s : Strategy}

/-- An attempt at a sample: how the sample was embedded, and the outcome in lines of the program. -/
structure Attempt where
  strategy : Strategy
  outcome : Outcome
  deriving DecidableEq, Repr

def Attempt.program (t : Text) (a : Attempt) : Text := a.strategy.apply t

theorem Strategy.apply_identity (t : Text) : identity.apply t = t := by
  change [] ++ t ++ [] = t
  rw [List.nil_append, List.append_nil]

/-- What a checker that remembers `m` answers about a text, and what it remembers then. -/
def Checker.Answers (check : Checker σ) (t : Text) (m : σ) (o : Outcome) (m' : σ) : Prop :=
  (check t m).result = .ok o ∧ (check t m).memory = m'

/-- The attempts that a sample takes: none at pseudo-code, one with the sample as it is, and one
more where that is rejected and a fallback applies. -/
inductive Climbs (check : Checker σ) (t : Text) : σ → List Attempt → σ → Prop
  | none {m : σ} (hc : Shape.classify t = .pseudoCode) : Climbs check t m [] m
  | direct {m m' : σ} {o : Outcome} (hc : Shape.classify t ≠ .pseudoCode)
      (ha : check.Answers (Strategy.identity.apply t) m o m')
      (hd : o.kind ≠ .syntaxError ∨ Strategy.fallback? t = Option.none) :
      Climbs check t m [⟨.identity, o⟩] m'
  | retried {m m' m'' : σ} {o o' : Outcome} {s : Strategy}
      (hc : Shape.classify t ≠ .pseudoCode)
      (ha : check.Answers (Strategy.identity.apply t) m o m') (hk : o.kind = .syntaxError)
      (hs : Strategy.fallback? t = some s) (ha' : check.Answers (s.apply t) m' o' m'') :
      Climbs check t m [⟨.identity, o⟩, ⟨s, o'⟩] m''

theorem Climbs.eq_nil_iff {tried : List Attempt} (h : Climbs check t m tried m') :
    tried = [] ↔ Shape.classify t = .pseudoCode := by
  cases h with
  | none hc => simp [hc]
  | direct hc => simp [hc]
  | retried hc => simp [hc]

/-- Every attempt is answered with a memory that has a property which answers keep. -/
theorem Climbs.exists_answers {tried : List Attempt} {a : Attempt}
    (h : Climbs check t m tried m') (inv : σ → Prop)
    (hkeep : ∀ t m o m', check.Answers t m o m' → inv m → inv m') (hm : inv m) (ha : a ∈ tried) :
    ∃ m₁ m₂, inv m₁ ∧ check.Answers (a.program t) m₁ a.outcome m₂ := by
  cases h with
  | none => contradiction
  | direct _ hans _ =>
    cases List.mem_singleton.1 ha
    exact ⟨_, _, hm, hans⟩
  | retried _ hans _ _ hans' =>
    simp only [List.mem_cons, List.not_mem_nil, or_false] at ha
    rcases ha with rfl | rfl
    · exact ⟨_, _, hm, hans⟩
    · exact ⟨_, _, hkeep _ _ _ _ hans hm, hans'⟩

/-- What is said about a sample after its attempts. Only the last one counts, and the line of a
failure is that of the sample. -/
def Verdict.ofAttempts (t : Text) (tried : List Attempt) : Verdict :=
  match tried.getLast? with
  | none => .skipped
  | some a =>
    if a.outcome.isSuccess then .succeeded a.strategy (Shape.classify t) tried.length
    else .failed a.strategy (Shape.classify t) tried.length (a.outcome.remap a.strategy.lineOffset)

/-- The outcome of an attempt as it is passed on. -/
def Attempt.reported (a : Attempt) : Outcome :=
  if a.outcome.isSuccess then a.outcome else a.outcome.remap a.strategy.lineOffset

@[simp] theorem Attempt.reported_isSuccess (a : Attempt) :
    a.reported.isSuccess = a.outcome.isSuccess := by
  unfold reported
  split <;> rfl

@[simp] theorem Attempt.reported_kind (a : Attempt) : a.reported.kind = a.outcome.kind := by
  unfold reported
  split <;> rfl

theorem Strategy.ends_attempt (h : check.Answers (s.apply t) m o m') :
    Ends (s.attempt check t) m (Attempt.reported ⟨s, o⟩) [s.apply t] m' := by
  obtain ⟨ho, rfl⟩ := h
  exact .bind_silent (.ask ho) (.silent_bind (.noteWritten _ _ _ _) (.pure _ _))

theorem Strategy.attempt_faults {e : Fault} (h : (check (s.apply t) m).result = .error e) :
    Faults (s.attempt check t) m e :=
  .bind (.ask h)

namespace Verdict

variable {tried : List Attempt} {a : Attempt}

theorem ofAttempts_of_success (h : a.outcome.isSuccess = true) :
    ofAttempts t (tried ++ [a]) = .succeeded a.strategy (Shape.classify t) (tried.length + 1) := by
  rw [ofAttempts, List.getLast?_concat]
  simp [h]

theorem ofAttempts_of_failure (h : a.outcome.isSuccess = false) :
    ofAttempts t (tried ++ [a]) =
      .failed a.strategy (Shape.classify t) (tried.length + 1) a.reported := by
  rw [ofAttempts, List.getLast?_concat, Attempt.reported]
  simp [h]

theorem isSkipped_ofAttempts (t : Text) (tried : List Attempt) :
    (ofAttempts t tried).isSkipped = decide (tried = []) := by
  rcases List.eq_nil_or_concat tried with rfl | ⟨before, a, rfl⟩
  · rfl
  · rw [List.concat_eq_append]
    cases h : a.outcome.isSuccess with
    | true => rw [ofAttempts_of_success h]; simp [isSkipped]
    | false => rw [ofAttempts_of_failure h]; simp [isSkipped]

theorem isFailure_ofAttempts (t : Text) (tried : List Attempt) (a : Attempt) :
    (ofAttempts t (tried ++ [a])).isFailure = !a.outcome.isSuccess := by
  cases h : a.outcome.isSuccess with
  | true => rw [ofAttempts_of_success h]; rfl
  | false => rw [ofAttempts_of_failure h]; rfl

end Verdict

theorem Outcome.kind_eq_syntaxError (hs : o.isSuccess = false) (ht : o.kind.isTerminal = false) :
    o.kind = .syntaxError := by
  cases o with
  | mk kind => cases kind <;> simp_all [isSuccess, OutcomeKind.isTerminal]

/-- The ladder makes the attempts that a sample takes, and its verdict is that of the last one. -/
theorem Climbs.ends {tried : List Attempt} (h : Climbs check t m tried m') :
    Ends (validate check t) m (.ofAttempts t tried) (tried.map (·.program t)) m' := by
  cases h with
  | none hc =>
    simp only [validate, hc, if_true]
    exact .bind (.note _ _ _ _) (.pure _ _)
  | direct hc ha hd =>
    rename_i o
    simp only [validate, hc, if_false]
    apply (Strategy.ends_attempt ha).bind_silent
    simp only [Attempt.reported_isSuccess, Attempt.reported_kind]
    cases hs : o.isSuccess with
    | true =>
      rw [← List.nil_append [_], Verdict.ofAttempts_of_success hs]
      exact .pure _ _
    | false =>
      rw [← List.nil_append [_], Verdict.ofAttempts_of_failure hs]
      cases ht : o.kind.isTerminal with
      | true => exact .pure _ _
      | false =>
        have hf := hd.resolve_left fun hn => hn (Outcome.kind_eq_syntaxError hs ht)
        rw [hf]
        exact .pure _ _
  | retried hc ha hk hf ha' =>
    rename_i o o' s
    simp only [validate, hc, if_false]
    apply (Strategy.ends_attempt ha).bind
    have hs : o.isSuccess = false := by rw [Outcome.isSuccess, hk]; rfl
    simp only [Attempt.reported_isSuccess, Attempt.reported_kind, hs, hk, OutcomeKind.isTerminal,
      Bool.false_eq_true, if_false, hf]
    apply (Strategy.ends_attempt ha').bind_silent
    rw [Attempt.reported_isSuccess]
    cases hs' : o'.isSuccess with
    | true =>
      rw [← List.singleton_append, Verdict.ofAttempts_of_success hs']
      exact .pure _ _
    | false =>
      rw [← List.singleton_append, Verdict.ofAttempts_of_failure hs']
      exact .pure _ _

theorem validate_faults_retried {e : Fault} (hc : Shape.classify t ≠ .pseudoCode)
    (ha : check.Answers (Strategy.identity.apply t) m o m') (hk : o.kind = .syntaxError)
    (hf : Strategy.fallback? t = some s) (he : (check (s.apply t) m').result = .error e) :
    Faults (validate check t) m e := by
  simp only [validate, hc, if_false]
  apply (Strategy.ends_attempt ha).bind_faults
  have hs : o.isSuccess = false := by rw [Outcome.isSuccess, hk]; rfl
  simp only [Attempt.reported_isSuccess, Attempt.reported_kind, hs, hk, OutcomeKind.isTerminal,
    Bool.false_eq_true, if_false, hf]
  exact .bind (Strategy.attempt_faults he)

theorem climbs_or_faults (check : Checker σ) (t : Text) (m : σ) :
    (∃ tried m', Climbs check t m tried m') ∨ ∃ e, Faults (validate check t) m e := by
  by_cases hc : Shape.classify t = .pseudoCode
  · exact .inl ⟨_, _, .none hc⟩
  cases hr : (check (Strategy.identity.apply t) m).result with
  | error e =>
    refine .inr ⟨e, ?_⟩
    simp only [validate, hc, if_false]
    exact .bind (Strategy.attempt_faults hr)
  | ok o =>
    by_cases hk : o.kind = .syntaxError
    · cases hf : Strategy.fallback? t with
      | none => exact .inl ⟨_, _, .direct hc ⟨hr, rfl⟩ (.inr hf)⟩
      | some s =>
        cases hr' : (check (s.apply t) (check (Strategy.identity.apply t) m).memory).result with
        | error e => exact .inr ⟨e, validate_faults_retried hc ⟨hr, rfl⟩ hk hf hr'⟩
        | ok o' => exact .inl ⟨_, _, .retried hc ⟨hr, rfl⟩ hk hf ⟨hr', rfl⟩⟩
    · exact .inl ⟨_, _, .direct hc ⟨hr, rfl⟩ (.inl hk)⟩

theorem Strategy.steady_attempt (s : Strategy) (check : Checker σ) (t : Text) :
    Steady (s.attempt check t) :=
  .bind (.ask check _) fun _ => .bind (.noteWritten _ _ _) fun _ => .pure _

theorem steady_validate (check : Checker σ) (t : Text) : Steady (validate check t) := by
  by_cases hc : Shape.classify t = .pseudoCode
  · simp only [validate, hc, if_true]
    exact .bind (.note _ _ _) fun _ => .pure _
  · simp only [validate, hc, if_false]
    apply Steady.bind (Strategy.steady_attempt _ check t)
    intro direct
    split
    · exact .pure _
    · split
      · exact .pure _
      · split
        · exact .pure _
        · exact .bind (Strategy.steady_attempt _ check t) fun _ => .pure _

theorem climbs_of_exec {v : Verdict} {s s' : Session σ}
    (h : exec (validate check t) s = (.ok v, s')) :
    ∃ tried, Climbs check t s.memory tried s'.memory ∧ v = .ofAttempts t tried ∧
      s'.asked = s.asked ++ tried.map (·.program t) := by
  rcases climbs_or_faults check t s.memory with ⟨tried, m', hclimb⟩ | ⟨e, hfault⟩
  · obtain ⟨rfl, rfl, hasked⟩ := hclimb.ends.exec_eq rfl h
    exact ⟨tried, hclimb, rfl, hasked⟩
  · exact absurd h (hfault.not_ok rfl)

theorem Run.Comes.climbs {v : Verdict} {texts : List Text}
    (h : Comes (validate check t) m (.ok v) texts m') :
    ∃ tried, Climbs check t m tried m' ∧ v = .ofAttempts t tried := by
  obtain ⟨journal, hexec⟩ := h [] []
  obtain ⟨tried, hclimb, hv, -⟩ := climbs_of_exec hexec
  exact ⟨tried, hclimb, hv⟩

end DocSamples
