import DocSamples.Proofs.Conclusion
import DocSamples.Proofs.LineBounds
import DocSamples.Proofs.SampleContract
import DocSamples.Proofs.ToolAnswers

namespace DocSamples

variable {σ : Type} {check : Checker σ} {tool : Tool} {runner : Runner} {e : Ending} {t ds : Text}
  {m m' : σ} {tried : List Attempt} {o : Outcome} {l : Int} {n k : Nat} {v : Verdict}

theorem digitValue?_lt {c : Char} (h : digitValue? c = some n) : n < 10 := by
  obtain ⟨z, hfind, rfl⟩ := Option.map_eq_some_iff.1 h
  have hz := List.find?_some hfind
  simp only [Bool.and_eq_true, decide_eq_true_eq] at hz
  omega

theorem Text.digitsValue_lt (ds : Text) : digitsValue ds < Nat.pow 10 ds.length := by
  have hstep : ∀ k, ds.foldl (fun n c => 10 * n + (digitValue? c).getD 0) k <
      (k + 1) * Nat.pow 10 ds.length := by
    induction ds with
    | nil => simp
    | cons c ds ih =>
      intro k
      have hdigit : (digitValue? c).getD 0 < 10 := by
        cases hc : digitValue? c with
        | none => decide
        | some n => exact digitValue?_lt hc
      calc ds.foldl _ (10 * k + (digitValue? c).getD 0)
          < (10 * k + (digitValue? c).getD 0 + 1) * Nat.pow 10 ds.length := ih _
        _ ≤ (k + 1) * 10 * Nat.pow 10 ds.length := Nat.mul_le_mul_right _ (by omega)
        _ = (k + 1) * (Nat.pow 10 ds.length * 10) := by rw [Nat.mul_assoc, Nat.mul_comm 10]
  have hvalue := hstep 0
  rw [Nat.zero_add, Nat.one_mul] at hvalue
  exact hvalue

/-- A line number that is read can be written. -/
theorem Diagnostic.line_lt {d : Diagnostic} (h : parse t = .ok d) (hl : d.line = some n) :
    n < Nat.pow 10 digitLimit := by
  unfold parse at h
  split at h
  · rename_i digits message hloc
    split at h
    · contradiction
    · rename_i hlimit
      cases h
      cases hl
      refine Nat.lt_of_lt_of_le (Text.digitsValue_lt digits) ?_
      rw [Nat.pow_eq, Nat.pow_eq]
      exact Nat.pow_le_pow_right (by decide) (Nat.le_of_not_lt hlimit)
  · cases h
    contradiction

def Checker.ReportsWritable (check : Checker σ) : Prop :=
  ∀ t m o, (check t m).result = .ok o →
    ∀ l, o.line = some l → ∃ n : Nat, l = n ∧ n < Nat.pow 10 digitLimit

namespace Tool

theorem line_outcome (h : tool.outcome e = .ok o) (hl : o.line = some l) :
    ∃ n : Nat, l = n ∧ n < Nat.pow 10 digitLimit := by
  cases e with
  | exited status output errors =>
    by_cases hs : status = 0
    · subst hs
      cases h
      contradiction
    · rw [outcome, fst_judge_exited hs] at h
      split at h
      · contradiction
      · rename_i d hd
        cases h
        obtain ⟨n, hn, rfl⟩ := Option.map_eq_some_iff.1 hl
        exact ⟨n, rfl, Diagnostic.line_lt hd hn⟩
  | failed => cases h
  | notFound | notPermitted | timedOut =>
    cases h
    contradiction

/-- A tool accepts texts in one way only. -/
theorem eq_accepted_of_outcome (h : tool.outcome e = .ok o) (ho : o.isSuccess = true) :
    o = .accepted := by
  cases e with
  | exited status output errors =>
    by_cases hs : status = 0
    · subst hs
      cases h
      rfl
    · rw [outcome, fst_judge_exited hs] at h
      split at h
      · contradiction
      · cases h
        contradiction
  | failed => cases h
  | notFound | notPermitted | timedOut =>
    cases h
    contradiction

theorem exists_outcome_of_check {space : Workspace}
    (h : (tool.check runner t space).result = .ok o) : ∃ e, tool.outcome e = .ok o := by
  cases hw : space.files.write (tool.scratchFile space.count) (Utf8.encode t) with
  | error e =>
    rw [check_of_error runner hw] at h
    contradiction
  | ok after =>
    rw [result_check hw] at h
    exact ⟨_, h⟩

theorem check_reportsWritable (tool : Tool) (runner : Runner) :
    (tool.check runner).ReportsWritable := by
  intro t space o ho l hl
  obtain ⟨e, he⟩ := exists_outcome_of_check ho
  exact line_outcome he hl

end Tool

theorem Strategy.lineOffset_nonneg {s : Strategy} (h : s ∈ all) : 0 ≤ s.lineOffset := by
  rcases mem_all_iff.1 h with rfl | rfl | rfl <;> decide

theorem ten_le_pow (h : n ≠ 0) : 10 ≤ Nat.pow 10 n := Nat.le_self_pow h 10

theorem ten_le_pow_digitLimit : 10 ≤ Nat.pow 10 digitLimit := ten_le_pow (by decide)

theorem exists_max_one_sub_eq {limit : Nat} {offset : Int} (hn : n < limit) (hten : 10 ≤ limit)
    (hoffset : 0 ≤ offset) : ∃ k : Nat, max 1 ((n : Int) - offset) = k ∧ k < limit :=
  ⟨(max 1 ((n : Int) - offset)).toNat, by omega, by omega⟩

/-- The first line, which is named where no other is, can be written. -/
theorem getD_none_lt : ∃ n : Nat, (none : Option Int).getD 1 = n ∧ n < Nat.pow 10 digitLimit :=
  ⟨1, rfl, Nat.lt_of_lt_of_le (by decide) ten_le_pow_digitLimit⟩

/-- The line that an attempt passes on can be written. -/
theorem Attempt.getD_line_reported {a : Attempt} (hs : a.strategy ∈ Strategy.all)
    (h : ∀ l, a.outcome.line = some l → ∃ n : Nat, l = n ∧ n < Nat.pow 10 digitLimit) :
    ∃ n : Nat, a.reported.line.getD 1 = n ∧ n < Nat.pow 10 digitLimit := by
  cases hl : a.outcome.line with
  | none =>
    have hnone : a.reported.line = none := by
      unfold reported
      split <;> simp [Outcome.remap, hl]
    rw [hnone]
    exact getD_none_lt
  | some l =>
    obtain ⟨n, rfl, hn⟩ := h l hl
    by_cases ha : a.outcome.isSuccess = true
    · rw [reported, if_pos ha, hl]
      exact ⟨n, rfl, hn⟩
    · rw [reported, if_neg ha, Outcome.remap, hl]
      exact exists_max_one_sub_eq hn ten_le_pow_digitLimit (Strategy.lineOffset_nonneg hs)

theorem Climbs.getD_line_verdict (h : Climbs check t m tried m') (hcheck : check.ReportsWritable) :
    ∃ n : Nat, (Verdict.ofAttempts t tried).line.getD 1 = n ∧ n < Nat.pow 10 digitLimit := by
  rcases List.eq_nil_or_concat tried with rfl | ⟨before, a, rfl⟩
  · exact getD_none_lt
  rw [List.concat_eq_append] at h ⊢
  cases ha : a.outcome.isSuccess with
  | true =>
    rw [Verdict.ofAttempts_of_success ha]
    exact getD_none_lt
  | false =>
    rw [Verdict.ofAttempts_of_failure ha]
    obtain ⟨m₁, hres⟩ := h.result_eq (a := a) (by simp)
    exact Attempt.getD_line_reported (h.strategy_mem_all (a := a) (by simp)) (hcheck _ _ _ hres)

theorem Strategy.getD_line_attempt {s : Strategy} (hs : s ∈ all) (hcheck : check.ReportsWritable)
    (ho : (Run.perform m (s.attempt check t)).1 = .ok o) :
    ∃ n : Nat, o.line.getD 1 = n ∧ n < Nat.pow 10 digitLimit := by
  cases hr : (check (s.apply t) m).result with
  | error e =>
    rw [(attempt_faults hr).perform_fst] at ho
    contradiction
  | ok o' =>
    rw [(ends_attempt ⟨hr, rfl⟩).perform_fst] at ho
    cases ho
    exact Attempt.getD_line_reported hs (hcheck _ _ _ hr)

theorem Climbs.isWritable_attempts (h : Climbs check t m tried m') :
    isWritable ((Verdict.ofAttempts t tried).attempts : Int) = true := by
  have htwo : (Verdict.ofAttempts t tried).attempts ≤ 2 := by
    rw [(Verdict.tellsOf fun _ ha => h.strategy_mem_all ha).attempts]
    cases h <;> simp
  rw [isWritable_natCast_iff]
  exact Nat.lt_of_lt_of_le (by omega) ten_le_pow_digitLimit

theorem Verdict.numbers_toJson (v : Verdict) :
    v.toJson.numbers = v.line.toList ++ [(v.attempts : Int)] := by
  unfold toJson
  cases v.line <;> cases v.kind? <;> rfl

theorem Outcome.numbers_toJson (s : Strategy) (o : Outcome) :
    (o.toJson s).numbers = o.line.toList := by
  unfold toJson
  cases o.line <;> rfl

namespace Text

theorem ofNat_injective (h : ofNat n = ofNat k) : n = k := by
  have hvalue := congrArg (Nat.ofDigitChars 10 · 0) h
  simpa only [ofNat, Nat.ofDigitChars_ten_toDigits] using hvalue

/-- The number at the front of a text is the one before the first colon. -/
theorem ofNat_append_colon_inj {r r' : Text} (h : ofNat n ++ ':' :: r = ofNat k ++ ':' :: r') :
    n = k ∧ r = r' := by
  have hcolon : ∀ i, ':' ∉ ofNat i := by
    intro i hc
    have hdigit := Nat.isDigit_of_mem_toDigits (by decide) (by decide) hc
    contradiction
  obtain ⟨hnum, hr⟩ := (append_cons_inj_of_not_mem (hcolon n) (hcolon k)).1 h
  exact ⟨ofNat_injective hnum, hr⟩

end Text

namespace CommandLine

theorem unlines_singleton_injective {l l' : Text} (h : unlines [l] = unlines [l']) : l = l' := by
  simpa [unlines] using h

def rejectionLine (source : Text) (n : Nat) (message : Text) : Text :=
  source ++ ":" ++ Text.ofNat n ++ ":1: scaf syntax error: " ++ message

theorem rejectionLine_inj {source message message' : Text}
    (h : rejectionLine source n message = rejectionLine source k message') :
    n = k ∧ message = message' := by
  simp only [rejectionLine, List.append_assoc, List.append_cancel_left_eq] at h
  obtain ⟨rfl, hrest⟩ := Text.ofNat_append_colon_inj h
  exact ⟨rfl, List.append_cancel_left hrest⟩

theorem rejection_eq {line : Option Int} (hline : line.getD 1 = n) (hn : n < Nat.pow 10 digitLimit)
    (source message : Text) :
    rejection source line message = .ok (rejectionLine source n message) := by
  have hwrite : writeInt n = .ok (Text.ofNat n) :=
    writeInt_eq_ok_iff.2 ⟨isWritable_natCast_iff.2 hn, rfl⟩
  rw [rejection, hline, hwrite]
  rfl

theorem code_exit_concludeVerdict (source : Text) (json : Bool)
    (hv : isWritable (v.attempts : Int) = true) :
    (concludeVerdict source json v).exit.code = 1 ↔ v.isFailure = true := by
  cases hfail : v.isFailure with
  | true =>
    rw [concludeVerdict, hfail]
    exact iff_of_true (code_exit_ofLine_one _) rfl
  | false =>
    have hline : v.line = none := by
      cases v with
      | skipped | succeeded => rfl
      | failed => cases hfail
    have hjson : ∃ line, v.toJson.render = .ok line := by
      refine ⟨_, JsonValue.render_of_isWritable ?_⟩
      rw [Verdict.numbers_toJson, hline]
      intro i hi
      cases List.mem_singleton.1 hi
      exact hv
    have hsaid : ∃ line, concludeVerdict source json v = .ofLine 0 (.ok line) := by
      obtain ⟨line, hjson⟩ := hjson
      rw [concludeVerdict, hfail, hjson]
      cases json <;> exact ⟨_, rfl⟩
    obtain ⟨line, hsaid⟩ := hsaid
    rw [hsaid]
    exact iff_of_false Nat.zero_ne_one Bool.false_ne_true

end CommandLine

end DocSamples
