import DocSamples.CommandLine.Program
import DocSamples.Proofs.Running

namespace DocSamples

open Run

theorem isWritable_natCast_iff {n : Nat} : isWritable n = true ↔ n < Nat.pow 10 digitLimit := by
  rw [isWritable, decide_eq_true_eq, Int.natAbs_natCast]

theorem JsonValue.render_of_isWritable {j : JsonValue}
    (h : ∀ i ∈ j.numbers, isWritable i = true) : j.render = .ok (j.renderAt 0) := by
  have hfind : j.numbers.find? (!isWritable ·) = none := by
    rw [List.find?_eq_none]
    intro i hi
    rw [h i hi]
    exact Bool.false_ne_true
  rw [render, hfind]

namespace Failure

def written (f : Failure) : Text :=
  Path.label f.path ++ ":" ++ Text.ofInt f.line ++ ":" ++ Text.ofNat column ++ ": " ++ f.message

theorem text_eq (f : Failure) :
    f.text = if isWritable f.line then .ok f.written else .error ⟨f.line⟩ := by
  rw [text, location, writeInt]
  split <;> rfl

end Failure

namespace Report

variable {r : Report} {rs : List Report}

theorem failures_eq_nil_iff : failures rs = [] ↔ ∀ r ∈ rs, r.isOk = true := by
  simp [failures, List.filter_eq_nil_iff]

theorem failure_eq_none_iff : r.failure = none ↔ r.isOk = true := Option.isNone_iff_eq_none.symm

def failureLines (rs : List Report) : List Int := rs.filterMap fun r => r.failure.map Failure.line

theorem failureLines_of_isOk (h : ∀ r ∈ rs, r.isOk = true) : failureLines rs = [] := by
  rw [failureLines, List.filterMap_eq_nil_iff]
  intro r hr
  rw [failure_eq_none_iff.2 (h r hr)]
  rfl

theorem numbers_toJson (r : Report) :
    r.toJson.numbers =
      (r.checked : Int) :: (r.skipped : Int) ::
        r.failure.elim [] fun f => [f.line, (Failure.column : Int)] := by
  unfold toJson
  cases r.path <;> cases r.failure <;> rfl

/-- Where the counts can be written, a number of the reports that cannot be is the line of a
failure. -/
theorem find?_numbersOfItems
    (hcount : ∀ r ∈ rs, r.checked < Nat.pow 10 digitLimit ∧ r.skipped < Nat.pow 10 digitLimit) :
    (JsonValue.numbersOfItems (rs.map toJson)).find? (!isWritable ·) =
      (failureLines rs).find? (!isWritable ·) := by
  induction rs with
  | nil => rfl
  | cons r rs ih =>
    obtain ⟨hr, hrs⟩ := List.forall_mem_cons.1 hcount
    have hchecked := isWritable_natCast_iff.2 hr.1
    have hskipped := isWritable_natCast_iff.2 hr.2
    have hcolumn : isWritable (Failure.column : Int) = true := by decide +kernel
    rw [List.map_cons, JsonValue.numbersOfItems, numbers_toJson, List.find?_append, ih hrs]
    cases hf : r.failure with
    | none => simp [failureLines, hf, hchecked, hskipped]
    | some f =>
      cases hline : isWritable f.line <;>
        simp [failureLines, hf, hchecked, hskipped, hcolumn, hline]

theorem render_allToJson
    (hcount : ∀ r ∈ rs, r.checked < Nat.pow 10 digitLimit ∧ r.skipped < Nat.pow 10 digitLimit)
    (hfailed : (failures rs).length < Nat.pow 10 digitLimit) :
    (allToJson rs).render =
      match (failureLines rs).find? (!isWritable ·) with
      | some i => .error ⟨i⟩
      | none => .ok ((allToJson rs).renderAt 0) := by
  have hnumbers : (allToJson rs).numbers =
      JsonValue.numbersOfItems (rs.map toJson) ++ [((failures rs).length : Int)] := by
    simp [allToJson, JsonValue.numbers, JsonValue.numbersOfMembers]
  have hlast := isWritable_natCast_iff.2 hfailed
  rw [JsonValue.render, hnumbers, List.find?_append, find?_numbersOfItems hcount]
  cases (failureLines rs).find? (!isWritable ·) <;> simp [hlast]

end Report

namespace CommandLine

variable {host : Host} {α : Type} {run : Run Workspace α} {a : α} {texts : List Text} {e : Fault}
  {space : Workspace} {json verbose : Bool} {rs : List Report}

theorem conclude_of_ends (h : Ends run { files := host.files } a texts space) (verbose : Bool)
    (conclusion : α → Conclusion) :
    (conclude host verbose run conclusion).exit = (conclusion a).exit ∧
      (conclude host verbose run conclusion).output = unlines (conclusion a).output := by
  obtain ⟨journal, hrun⟩ := h [] []
  have hp : Run.perform { files := host.files } run = (.ok a, ⟨space, [] ++ texts, journal⟩) := hrun
  rw [conclude, hp]
  exact ⟨rfl, rfl⟩

theorem exit_conclude_of_faults (h : Faults run { files := host.files } e) (verbose : Bool)
    (conclusion : α → Conclusion) : (conclude host verbose run conclusion).exit = .fault e := by
  obtain ⟨s, hrun⟩ := h [] []
  have hp : Run.perform { files := host.files } run = (.error e, s) := hrun
  rw [conclude, hp]

/-- A run tells its log, then what its result comes to. -/
theorem conclude_of_comes {result : Except Fault α}
    (h : Comes run { files := host.files } result texts space) (verbose : Bool)
    (conclusion : α → Conclusion) :
    ∃ journal, conclude host verbose run conclusion =
      match result with
      | .error e =>
        { exit := .fault e, errors := unlines (logLines verbose journal), workspace := space }
      | .ok a =>
        { exit := (conclusion a).exit
          output := unlines (conclusion a).output
          errors := unlines (logLines verbose journal ++ (conclusion a).errors)
          workspace := space } := by
  obtain ⟨s, hrun, -, rfl⟩ := h.exists_perform
  refine ⟨s.journal, ?_⟩
  cases result with
  | error e => simp only [conclude, hrun]
  | ok a => simp only [conclude, hrun]

theorem code_exit_ofLine_one (line : Except LongNumber Text) :
    (Conclusion.ofLine 1 line).exit.code = 1 := by
  cases line <;> rfl

/-- Text stops at the first failure whose line cannot be written. -/
theorem reportLines_snd (verbose : Bool) (rs : List Report) :
    (reportLines verbose rs).2 =
      ((Report.failureLines rs).find? (!isWritable ·)).map LongNumber.mk := by
  induction rs with
  | nil => rfl
  | cons r rs ih =>
    rw [reportLines, reportLine]
    cases hf : r.failure with
    | none => simpa [Report.failureLines, hf] using ih
    | some f =>
      cases hline : isWritable f.line with
      | false => simp [Report.failureLines, hf, Failure.text_eq, hline, Except.map]
      | true => simpa [Report.failureLines, hf, Failure.text_eq, hline, Except.map] using ih

/-- How the program ends with reports does not go by the form of what is written. -/
theorem exit_concludeReports (json verbose : Bool)
    (hcount : ∀ r ∈ rs, r.checked < Nat.pow 10 digitLimit ∧ r.skipped < Nat.pow 10 digitLimit)
    (hfailed : (Report.failures rs).length < Nat.pow 10 digitLimit) :
    (concludeReports json verbose rs).exit =
      match (Report.failureLines rs).find? (!isWritable ·) with
      | some i => .unwritable ⟨i⟩
      | none => .status (if (Report.failures rs).isEmpty then 0 else 1) := by
  cases json with
  | true =>
    simp only [concludeReports, if_true, Report.render_allToJson hcount hfailed]
    cases (Report.failureLines rs).find? (!isWritable ·) <;> rfl
  | false =>
    have hlines := reportLines_snd verbose rs
    simp only [concludeReports, Bool.false_eq_true, if_false]
    cases hl : reportLines verbose rs with
    | mk errors e =>
      rw [hl] at hlines
      change e = _ at hlines
      rw [hlines]
      cases (Report.failureLines rs).find? (!isWritable ·) <;> rfl

/-- A failed document makes the program fail, whatever is written. -/
theorem code_exit_concludeReports (json verbose : Bool) (h : ∃ r ∈ rs, r.isOk = false) :
    (concludeReports json verbose rs).exit.code = 1 := by
  have hne : (Report.failures rs).isEmpty = false := by
    rw [List.isEmpty_eq_false_iff]
    intro hnil
    obtain ⟨r, hr, hfail⟩ := h
    rw [Report.failures_eq_nil_iff.1 hnil r hr] at hfail
    contradiction
  rw [concludeReports, hne]
  cases json with
  | true => exact code_exit_ofLine_one _
  | false =>
    simp only [Bool.false_eq_true, if_false]
    split <;> rfl

theorem concludeReports_of_isOk (h : ∀ r ∈ rs, r.isOk = true) (verbose : Bool) :
    (concludeReports false verbose rs).exit = .status 0 ∧
      (concludeReports false verbose rs).output = [Report.summary rs] := by
  rw [concludeReports, Report.failures_eq_nil_iff.2 h]
  have hlines := reportLines_snd verbose rs
  rw [Report.failureLines_of_isOk h] at hlines
  cases hl : reportLines verbose rs with
  | mk errors e =>
    rw [hl] at hlines
    cases hlines
    exact ⟨rfl, rfl⟩

theorem exit_concludeReports_json (h : ∀ r ∈ rs, r.isOk = true) (verbose : Bool)
    (hcount : ∀ r ∈ rs, r.checked < Nat.pow 10 digitLimit ∧ r.skipped < Nat.pow 10 digitLimit) :
    (concludeReports true verbose rs).exit = .status 0 := by
  have hnil := Report.failures_eq_nil_iff.2 h
  have hfailed : (Report.failures rs).length < Nat.pow 10 digitLimit := by
    rw [hnil, Nat.pow_eq]
    exact Nat.pow_pos (by decide)
  rw [exit_concludeReports true verbose hcount hfailed, Report.failureLines_of_isOk h, hnil]
  rfl

end CommandLine

end DocSamples
