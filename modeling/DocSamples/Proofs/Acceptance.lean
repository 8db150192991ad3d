import DocSamples.Proofs.ToolAnswers
import DocSamples.Proofs.Walking

namespace DocSamples

open Run

variable {σ : Type} {check : Checker σ} {inv : σ → Prop} {answer : Text → Except Fault Outcome}
  {t : Text} {m m' : σ} {tried : List Attempt} {a : Attempt} {settings : Settings} {f : Fence}
  {fs : List Fence} {texts : List Text} {d : Document}

def Accepts (answer : Text → Except Fault Outcome) (t : Text) : Prop :=
  ∃ o, answer t = .ok o ∧ o.isSuccess = true

def Rejects (answer : Text → Except Fault Outcome) (t : Text) : Prop :=
  ∃ o, answer t = .ok o ∧ o.kind = .syntaxError

/-- A sample that is in order as it is, or is rejected as it is and in order in the first fallback
that applies. -/
def Settles (answer : Text → Except Fault Outcome) (t : Text) : Prop :=
  Accepts answer t ∨
    Rejects answer t ∧ ∃ s : Strategy, Strategy.fallback? t = some s ∧ Accepts answer (s.apply t)

theorem Checker.Follows.answers (h : check.Follows inv answer) (hm : inv m)
    {o : Outcome} (ho : answer t = .ok o) : check.Answers t m o (check t m).memory :=
  ⟨(h t m hm).1.trans ho, rfl⟩

theorem Checker.Answers.follows (ha : check.Answers t m o m') (h : check.Follows inv answer)
    (hm : inv m) : answer t = .ok o ∧ inv m' := by
  obtain ⟨ho, rfl⟩ := ha
  obtain ⟨hres, hm'⟩ := h t m hm
  exact ⟨hres.symm.trans ho, hm'⟩

namespace Climbs

theorem keeps (hc : Climbs check t m tried m') (h : check.Follows inv answer)
    (hm : inv m) : inv m' := by
  cases hc with
  | none => exact hm
  | direct _ ha _ => exact (ha.follows h hm).2
  | retried _ ha _ _ ha' => exact (ha'.follows h (ha.follows h hm).2).2

theorem of_settles (h : check.Follows inv answer) (hm : inv m)
    (hp : Shape.classify t ≠ .pseudoCode) (hs : Settles answer t) :
    ∃ tried m', Climbs check t m tried m' ∧ (Verdict.ofAttempts t tried).isFailure = false := by
  rcases hs with ⟨o, ho, hsucc⟩ | ⟨⟨o, ho, hk⟩, s, hf, o', ho', hsucc⟩
  · rw [← Strategy.apply_identity t] at ho
    refine ⟨[] ++ [⟨.identity, o⟩], _, .direct hp (h.answers hm ho) (.inl ?_), ?_⟩
    · intro hk
      simp [Outcome.isSuccess, hk] at hsucc
    · rw [Verdict.isFailure_ofAttempts, hsucc]
      rfl
  · rw [← Strategy.apply_identity t] at ho
    have ha := h.answers hm ho
    have ha' := h.answers (ha.follows h hm).2 ho'
    refine ⟨[⟨.identity, o⟩] ++ [⟨s, o'⟩], _, .retried hp ha hk hf ha', ?_⟩
    rw [Verdict.isFailure_ofAttempts, hsucc]
    rfl

theorem settles (hc : Climbs check t m tried m') (h : check.Follows inv answer)
    (hm : inv m) (hp : Shape.classify t ≠ .pseudoCode)
    (hv : (Verdict.ofAttempts t tried).isFailure = false) : Settles answer t := by
  cases hc with
  | none hc => contradiction
  | direct _ ha _ =>
    obtain ⟨ho, -⟩ := ha.follows h hm
    rw [Strategy.apply_identity] at ho
    rw [← List.nil_append [_], Verdict.isFailure_ofAttempts, Bool.not_eq_false'] at hv
    exact .inl ⟨_, ho, hv⟩
  | retried _ ha hk hf ha' =>
    obtain ⟨ho, hm'⟩ := ha.follows h hm
    rw [Strategy.apply_identity] at ho
    rw [← List.singleton_append, Verdict.isFailure_ofAttempts, Bool.not_eq_false'] at hv
    exact .inr ⟨⟨_, ho, hk⟩, _, hf, _, (ha'.follows h hm').1, hv⟩

end Climbs

namespace Passes

theorem keeps (hp : Passes check settings m fs texts m') (h : check.Follows inv answer)
    (hm : inv m) : inv m' := by
  induction hp with
  | nil => exact hm
  | exempt _ _ ih => exact ih hm
  | validated _ hc _ _ ih => exact ih (hc.keeps h hm)

theorem of_settles (h : check.Follows inv answer) (hm : inv m)
    (hs : ∀ f ∈ fs, f.isCheckable settings = true → Settles answer f.text) :
    ∃ texts m', Passes check settings m fs texts m' := by
  induction fs generalizing m with
  | nil => exact ⟨_, _, .nil⟩
  | cons f fs ih =>
    have hrest := fun g hg => hs g (List.mem_cons_of_mem f hg)
    cases hf : f.isValidated settings with
    | false =>
      obtain ⟨texts, m', hpass⟩ := ih hm hrest
      exact ⟨_, _, .exempt hf hpass⟩
    | true =>
      by_cases hp : Shape.classify f.text = .pseudoCode
      · obtain ⟨texts, m', hpass⟩ := ih hm hrest
        exact ⟨_, _, .validated hf (.none hp) rfl hpass⟩
      · have hsettles := hs f List.mem_cons_self (by simp [Fence.isCheckable, hf, hp])
        obtain ⟨tried, m₁, hclimb, hv⟩ := Climbs.of_settles h hm hp hsettles
        obtain ⟨texts, m', hpass⟩ := ih (hclimb.keeps h hm) hrest
        exact ⟨_, _, .validated hf hclimb hv hpass⟩

theorem settles (hp : Passes check settings m fs texts m') (h : check.Follows inv answer)
    (hm : inv m) (hf : f ∈ fs) (hc : f.isCheckable settings = true) : Settles answer f.text := by
  simp only [Fence.isCheckable, Bool.and_eq_true, bne_iff_ne] at hc
  induction hp with
  | nil => contradiction
  | exempt hex _ ih =>
    rcases List.mem_cons.1 hf with rfl | hf
    · rw [hex] at hc
      exact absurd hc.1 Bool.false_ne_true
    · exact ih hm hf
  | validated _ hclimb hv _ ih =>
    rcases List.mem_cons.1 hf with rfl | hf
    · exact hclimb.settles h hm hc.2 hv
    · exact ih (hclimb.keeps h hm) hf

end Passes

end DocSamples
