import DocSamples.Proofs.Running

namespace DocSamples

open Run

/-- What a run does whatever checker it is given: it makes notes, asks about texts and goes on by
the outcomes, and comes to a result. -/
inductive Plan (α : Type)
  | result (r : Except Fault α)
  | note (n : Note) (next : Plan α)
  | ask (t : Text) (next : Outcome → Plan α)

variable {σ τ α β : Type} {check : Checker σ} {check' : Checker τ} {kind kind' : Text → Prop}
  {own own' : Fault → Prop} {inv : σ → Prop} {rel : σ → τ → Prop} {m : σ} {m' : τ}

namespace Checker

/-- What a checker remembers after it was asked about some texts, one after another. -/
def after (check : Checker σ) (m : σ) (texts : List Text) : σ :=
  texts.foldl (fun m t => (check t m).memory) m

/-- All of some texts have outcomes but the last, which may have none. -/
def Proceeds (check : Checker σ) : σ → List Text → Prop
  | _, [] => True
  | m, t :: texts =>
    (texts ≠ [] → ∃ o, (check t m).result = .ok o) ∧ Proceeds check (check t m).memory texts

/-- A checker that has an outcome for every text, as long as what it remembers has a property, which
it keeps. -/
def IsTotalOn (inv : σ → Prop) (check : Checker σ) : Prop :=
  ∀ t m, inv m → (∃ o, (check t m).result = .ok o) ∧ inv (check t m).memory

/-- Checkers that come to the same outcome of a text or both to none, as long as what they remember
is related, and keep it related. -/
def Agree (rel : σ → τ → Prop) (check : Checker σ) (check' : Checker τ) : Prop :=
  ∀ t m m', rel m m' →
    (check t m).result.toOption = (check' t m').result.toOption ∧
      rel (check t m).memory (check' t m').memory

end Checker

theorem Checker.Proceeds.exists_outcome {before later : List Text} {t : Text}
    (h : check.Proceeds m (before ++ t :: later)) (hlater : later ≠ []) :
    ∃ o, (check t (check.after m before)).result = .ok o := by
  induction before generalizing m with
  | nil => exact h.1 hlater
  | cons u before ih => exact ih h.2

theorem Run.Comes.result (r : Except Fault α) (m : σ) :
    Comes (ExceptT.mk (pure r) : Run σ α) m r [] m := by
  intro asked journal
  rw [List.append_nil]
  exact ⟨journal, rfl⟩

theorem Run.Comes.ask (check : Checker σ) (t : Text) (m : σ) :
    Comes (Run.ask check t) m (check t m).result [t] (check t m).memory :=
  fun _ _ => ⟨_, rfl⟩

namespace Plan

def run (check : Checker σ) : Plan α → Run σ α
  | result r => ExceptT.mk (pure r)
  | note n next => do
    Run.note n.level n.author n.text
    next.run check
  | ask t next => do
    let o ← Run.ask check t
    (next o).run check

def bind : Plan α → (α → Plan β) → Plan β
  | result (.ok a), next => next a
  | result (.error e), _ => result (.error e)
  | note n p, next => note n (p.bind next)
  | ask t p, next => ask t fun o => (p o).bind next

theorem run_bind (check : Checker σ) (p : Plan α) (next : α → Plan β) :
    (p.bind next).run check = p.run check >>= fun a => (next a).run check := by
  induction p with
  | result r => cases r <;> rfl
  | note n p ih => simp only [bind, run, bind_assoc, ih]
  | ask t p ih => simp only [bind, run, bind_assoc, ih]

/-- The texts that a plan asks about are of a kind, and so are the faults that it comes to by
itself. -/
def Within (kind : Text → Prop) (own : Fault → Prop) : Plan α → Prop
  | result r => ∀ e, r = .error e → own e
  | note _ p => p.Within kind own
  | ask t p => kind t ∧ ∀ o, (p o).Within kind own

theorem Within.mono {p : Plan α} (h : p.Within kind own) (hk : ∀ t, kind t → kind' t)
    (ho : ∀ e, own e → own' e) : p.Within kind' own' := by
  induction p with
  | result r => exact fun e he => ho e (h e he)
  | note n p ih => exact ih h
  | ask t p ih => exact ⟨hk t h.1, fun o => ih o (h.2 o)⟩

theorem Within.bind {p : Plan α} {next : α → Plan β} (h : p.Within kind own)
    (h' : ∀ a, (next a).Within kind own) : (p.bind next).Within kind own := by
  induction p with
  | result r =>
    cases r with
    | ok a => exact h' a
    | error e =>
      intro e' he
      cases he
      exact h e rfl
  | note n p ih => exact ih h
  | ask t p ih => exact ⟨h.1, fun o => ih o (h.2 o)⟩

theorem Within.exists_comes {p : Plan α} (h : p.Within kind own) (check : Checker σ) (m : σ) :
    ∃ result texts, Comes (p.run check) m result texts (check.after m texts) ∧
      (∀ t ∈ texts, kind t) ∧ check.Proceeds m texts := by
  -- What is left of a plan after an outcome starts from what the checker remembers then.
  induction p generalizing m with
  | result r => exact ⟨r, [], .result r m, by simp, trivial⟩
  | note n p ih =>
    obtain ⟨result, texts, hcomes, hkind, hproceeds⟩ := ih h m
    exact ⟨result, texts, ((Ends.note _ _ _ m).leads _).comes hcomes, hkind, hproceeds⟩
  | ask t p ih =>
    have hask := Comes.ask check t m
    cases hr : (check t m).result with
    | error e =>
      rw [hr] at hask
      exact ⟨_, [t], hask.bind_error, by simpa using h.1, fun hne => absurd rfl hne, trivial⟩
    | ok o =>
      rw [hr] at hask
      obtain ⟨result, texts, hcomes, hkind, hproceeds⟩ := ih o (h.2 o) (check t m).memory
      exact ⟨result, t :: texts, (hask.ends.leads _).comes hcomes,
        List.forall_mem_cons.2 ⟨h.1, hkind⟩, fun _ => ⟨o, hr⟩, hproceeds⟩

/-- With a checker that has an outcome for every text, a plan comes to no faults but its own. -/
theorem Within.result_of_isTotalOn {p : Plan α} (h : p.Within kind own)
    (hcheck : check.IsTotalOn inv) (hm : inv m) :
    ∃ result texts n, Comes (p.run check) m result texts n ∧ inv n ∧
      ∀ e, result = .error e → own e := by
  induction p generalizing m with
  | result r => exact ⟨r, [], m, .result r m, hm, h⟩
  | note n p ih =>
    obtain ⟨result, texts, n', hcomes, hn, hown⟩ := ih h hm
    exact ⟨result, texts, n', ((Ends.note _ _ _ m).leads _).comes hcomes, hn, hown⟩
  | ask t p ih =>
    obtain ⟨⟨o, ho⟩, hm'⟩ := hcheck t m hm
    have hask : Comes (Run.ask check t) m (.ok o) [t] (check t m).memory := ho ▸ .ask check t m
    obtain ⟨result, texts, n, hcomes, hn, hown⟩ := ih o (h.2 o) hm'
    exact ⟨result, t :: texts, n, (hask.ends.leads _).comes hcomes, hn, hown⟩

/-- With checkers that agree, a plan asks about the same texts and comes to the same result, or to
faults. -/
theorem lockstep (p : Plan α) (hcheck : Checker.Agree rel check check') (hm : rel m m') :
    ∃ result result' texts n n', Comes (p.run check) m result texts n ∧
      Comes (p.run check') m' result' texts n' ∧ result.toOption = result'.toOption ∧
      rel n n' := by
  induction p generalizing m m' with
  | result r => exact ⟨r, r, [], m, m', .result r m, .result r m', rfl, hm⟩
  | note n p ih =>
    obtain ⟨result, result', texts, k, k', hcomes, hcomes', heq, hk⟩ := ih hm
    exact ⟨result, result', texts, k, k', ((Ends.note _ _ _ m).leads _).comes hcomes,
      ((Ends.note _ _ _ m').leads _).comes hcomes', heq, hk⟩
  | ask t p ih =>
    have hask := Comes.ask check t m
    have hask' := Comes.ask check' t m'
    obtain ⟨heq, hrel⟩ := hcheck t m m' hm
    cases hr : (check t m).result with
    | error e =>
      cases hr' : (check' t m').result with
      | error e' =>
        rw [hr] at hask
        rw [hr'] at hask'
        exact ⟨_, _, [t], _, _, hask.bind_error, hask'.bind_error, rfl, hrel⟩
      | ok o' =>
        rw [hr, hr'] at heq
        contradiction
    | ok o =>
      cases hr' : (check' t m').result with
      | error e' =>
        rw [hr, hr'] at heq
        contradiction
      | ok o' =>
        rw [hr, hr'] at heq
        cases heq
        rw [hr] at hask
        rw [hr'] at hask'
        obtain ⟨result, result', texts, k, k', hcomes, hcomes', heq', hk⟩ := ih o hrel
        exact ⟨result, result', t :: texts, k, k', (hask.ends.leads _).comes hcomes,
          (hask'.ends.leads _).comes hcomes', heq', hk⟩

end Plan

/-- A computation that goes by one plan with every checker. -/
def Planned (kind : Text → Prop) (own : Fault → Prop) (run : ∀ σ : Type, Checker σ → Run σ α) :
    Prop :=
  ∃ plan : Plan α, plan.Within kind own ∧ ∀ σ (check : Checker σ), run σ check = plan.run check

namespace Planned

variable {run : ∀ σ : Type, Checker σ → Run σ α} {next : ∀ σ : Type, Checker σ → α → Run σ β}

theorem mono (h : Planned kind own run) (hk : ∀ t, kind t → kind' t) (ho : ∀ e, own e → own' e) :
    Planned kind' own' run := by
  obtain ⟨plan, hplan, hrun⟩ := h
  exact ⟨plan, hplan.mono hk ho, hrun⟩

theorem result (r : Except Fault α) (h : ∀ e, r = .error e → own e) :
    Planned kind own fun _ _ => ExceptT.mk (Pure.pure r) :=
  ⟨.result r, h, fun _ _ => rfl⟩

theorem pure (a : α) : Planned kind own fun _ _ => Pure.pure a := by
  refine ⟨.result (.ok a), ?_, fun _ _ => rfl⟩
  intro e he
  contradiction

theorem note (level : Level) (author : Author) (text : Text) :
    Planned kind own fun _ _ => Run.note level author text := by
  refine ⟨.note ⟨level, author, text⟩ (.result (.ok ())), ?_, fun _ _ => rfl⟩
  intro e he
  contradiction

theorem noteWritten (level : Level) (author : Author) (text : Except LongNumber Text) :
    Planned kind own fun _ _ => Run.noteWritten level author text := by
  cases text with
  | ok text => exact note level author text
  | error e => exact pure ()

theorem ask {t : Text} (ht : kind t) : Planned kind own fun _ check => Run.ask check t := by
  refine ⟨.ask t fun o => .result (.ok o), ⟨ht, ?_⟩, ?_⟩
  · intro o e he
    contradiction
  · intro σ check
    exact (bind_pure _).symm

theorem bind (h : Planned kind own run) (h' : ∀ a, Planned kind own fun σ check => next σ check a) :
    Planned kind own fun σ check => run σ check >>= next σ check := by
  obtain ⟨plan, hplan, hrun⟩ := h
  obtain ⟨next', hnext⟩ := Classical.skolem.1 h'
  refine ⟨plan.bind next', hplan.bind fun a => (hnext a).1, ?_⟩
  intro σ check
  simp only [Plan.run_bind, hrun]
  congr 1
  funext a
  exact (hnext a).2 σ check

theorem exists_comes (h : Planned kind own run) (check : Checker σ) (m : σ) :
    ∃ result texts, Comes (run σ check) m result texts (check.after m texts) ∧
      (∀ t ∈ texts, kind t) ∧ check.Proceeds m texts := by
  obtain ⟨plan, hplan, hrun⟩ := h
  rw [hrun]
  exact hplan.exists_comes check m

theorem result_of_isTotalOn (h : Planned kind own run) (hcheck : check.IsTotalOn inv) (hm : inv m) :
    ∃ result texts n, Comes (run σ check) m result texts n ∧ inv n ∧
      ∀ e, result = .error e → own e := by
  obtain ⟨plan, hplan, hrun⟩ := h
  rw [hrun]
  exact hplan.result_of_isTotalOn hcheck hm

theorem lockstep (h : Planned kind own run) (hcheck : Checker.Agree rel check check')
    (hm : rel m m') :
    ∃ result result' texts n n', Comes (run σ check) m result texts n ∧
      Comes (run τ check') m' result' texts n' ∧ result.toOption = result'.toOption ∧
      rel n n' := by
  obtain ⟨plan, -, hrun⟩ := h
  rw [hrun, hrun]
  exact plan.lockstep hcheck hm

end Planned

end DocSamples
