import DocSamples.CommandLine.Arguments
import DocSamples.Proofs.Traversals

namespace DocSamples

theorem Strategy.mem_all_of_named {name : Text} {s : Strategy} (h : named name = .ok s) :
    s ∈ all := by
  unfold named at h
  split at h
  · rename_i hfind
    cases h
    exact List.mem_of_find?_eq_some hfind
  · contradiction

namespace CommandLine.Options

/-- A strategy that was taken from a command line is one of those there are. -/
def NamesStrategy (o : Options) : Prop := ∀ s, o.strategy = some (.value s) → s ∈ Strategy.all

variable {f : Flag} {given : Given Text} {name attached : Text} {st st' : State} {fuel : Nat}
  {marked : List (Text × Word)} {words : List Text} {o : Options} {flags : List Flag}

theorem strategy_setFlag (h : setFlag f st = .ok st') :
    st'.options.strategy = st.options.strategy := by
  cases f <;> cases h <;> rfl

theorem namesStrategy_setValue (hst : st.options.NamesStrategy)
    (h : setValue f given st = .ok st') : st'.options.NamesStrategy := by
  cases f with
  | strategy =>
    cases given with
    | nothing =>
      cases h
      intro s hs
      cases hs
    | value t =>
      cases hn : Strategy.named t with
      | error e =>
        simp only [setValue, strategyNamed, hn] at h
        contradiction
      | ok s =>
        simp only [setValue, strategyNamed, hn] at h
        cases h
        intro s' hs
        cases hs
        exact Strategy.mem_all_of_named hn
  | timeout =>
    cases given with
    | nothing =>
      cases h
      exact hst
    | value t =>
      simp only [setValue] at h
      split at h
      · cases h
        exact hst
      · contradiction
  | snippet | config | tool =>
    cases h
    exact hst
  | help | json | verbose => cases h

theorem strategy_foldlM_setFlag (h : flags.foldlM (fun s f => setFlag f s) st = .ok st') :
    st'.options.strategy = st.options.strategy := by
  induction flags generalizing st with
  | nil =>
    cases h
    rfl
  | cons f flags ih =>
    rw [List.foldlM_cons] at h
    cases hf : setFlag f st with
    | error e =>
      rw [hf] at h
      contradiction
    | ok st'' =>
      rw [hf] at h
      rw [ih h, strategy_setFlag hf]

theorem namesStrategy_setAttached (hst : st.options.NamesStrategy)
    (h : setAttached f name attached st = .ok st') : st'.options.NamesStrategy := by
  unfold setAttached at h
  split at h
  · exact namesStrategy_setValue hst h
  · split at h
    · contradiction
    · split at h
      · contradiction
      · intro s hs
        rw [strategy_foldlM_setFlag h] at hs
        exact hst s hs

theorem namesStrategy_setPaths (hst : st.options.NamesStrategy) (words : List Text) :
    (setPaths words st).options.NamesStrategy := by
  unfold setPaths
  split <;> exact hst

theorem namesStrategy_takeWords (hst : st.options.NamesStrategy)
    (h : takeWords fuel marked st = .ok st') : st'.options.NamesStrategy := by
  fun_induction takeWords fuel marked st with
  | case1 | case2 =>
    cases h
    exact hst
  | case3 fuel st word rest ih => exact ih hst h
  | case4 fuel st word f name attached rest ih =>
    obtain ⟨st₁, hset, hrest⟩ := exists_of_bind_eq_ok h
    exact ih st₁ (namesStrategy_setAttached hst hset) hrest
  | case5 fuel st word f name hvalue t rest ih =>
    obtain ⟨st₁, hset, hrest⟩ := exists_of_bind_eq_ok h
    exact ih st₁ (namesStrategy_setValue hst hset) hrest
  | case6 => contradiction
  | case7 fuel st word f name rest hflag ih =>
    obtain ⟨st₁, hset, hrest⟩ := exists_of_bind_eq_ok h
    refine ih st₁ ?_ hrest
    intro s hs
    rw [strategy_setFlag hset] at hs
    exact hst s hs
  | case8 fuel st words hnil hunknown hattached hflag plain ih =>
    exact ih (namesStrategy_setPaths hst _) h

/-- The options of a command line are those of its words. A timeout among them is not zero or
less. -/
theorem ofWords_eq_ok (h : ofWords words = .ok o) :
    ∃ marked st, takeWords (words.length + 1) marked {} = .ok st ∧ st.options = o ∧
      ∀ x, o.timeout = some x → x.isNonPositive = false := by
  obtain ⟨marked, -, h⟩ := exists_of_bind_eq_ok h
  obtain ⟨st, hst, h⟩ := exists_of_bind_eq_ok h
  refine ⟨marked, st, hst, ?_⟩
  dsimp only at h
  split at h
  · contradiction
  split at h
  · contradiction
  split at h
  · rename_i x hx
    split at h
    · contradiction
    · rename_i hpositive
      split at h
      · contradiction
      · cases Except.ok.inj h
        refine ⟨rfl, ?_⟩
        intro y hy
        cases hx.symm.trans hy
        exact Bool.eq_false_iff.2 hpositive
  · rename_i hnone
    split at h
    · contradiction
    · cases Except.ok.inj h
      exact ⟨rfl, fun x hx => absurd hx (hnone x)⟩

/-- A command line names no strategy but those that there are. -/
theorem namesStrategy_ofWords (h : ofWords words = .ok o) : o.NamesStrategy := by
  obtain ⟨marked, st, hst, rfl, -⟩ := ofWords_eq_ok h
  refine namesStrategy_takeWords ?_ hst
  intro s hs
  cases hs

end CommandLine.Options

end DocSamples
