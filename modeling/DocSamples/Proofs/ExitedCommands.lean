import DocSamples.Proofs.DigitRuns
import DocSamples.Proofs.ToolAnswers
import DocSamples.Proofs.Trimming

namespace DocSamples

open Diagnostic (HasReadableLine LocatedFirst)

namespace Tool

variable {tool : Tool} {runner : Runner} {space : Workspace} {t : Text} {during : FileTree}
  {status : Int} {output errors : Text}

theorem stream_of_nonBlank (tool : Tool) (status : Int) (output : Text) (h : errors.NonBlank) :
    tool.stream status output errors = errors.trim := by
  have hne := List.isEmpty_eq_false_iff.2 (Text.trim_ne_nil_iff.2 h)
  simp only [stream, hne, Bool.false_eq_true, if_false]

theorem stream_of_blank (tool : Tool) (status : Int) (h : Text.Blank errors)
    (ho : output.NonBlank) : tool.stream status output errors = output.trim := by
  have hne := List.isEmpty_eq_false_iff.2 (Text.trim_ne_nil_iff.2 ho)
  have hnil := List.isEmpty_iff.2 (Text.trim_eq_nil_iff.2 h)
  simp only [stream, hnil, hne, Bool.false_eq_true, if_false, if_true]

theorem outcome_exited_zero (output errors : Text) :
    tool.outcome (.exited 0 output errors) = .ok .accepted := rfl

theorem outcome_exited_of_parse {d : Diagnostic} (hs : status ≠ 0)
    (hd : Diagnostic.parse (tool.stream status output errors) = .ok d) :
    tool.outcome (.exited status output errors) =
      .ok ⟨.syntaxError, d.message, d.line.map Int.ofNat⟩ := by
  rw [outcome, fst_judge_exited hs, hd]

theorem outcome_exited_of_parse_eq_error {e : LongNumeral} (hs : status ≠ 0)
    (he : Diagnostic.parse (tool.stream status output errors) = .error e) :
    tool.outcome (.exited status output errors) = .error (.longNumeral e) := by
  rw [outcome, fst_judge_exited hs, he]

theorem exists_outcome_exited_iff :
    (∃ o, tool.outcome (.exited status output errors) = .ok o) ↔
      status = 0 ∨ HasReadableLine (tool.stream status output errors) := by
  by_cases hs : status = 0
  · subst hs
    exact iff_of_true ⟨_, outcome_exited_zero output errors⟩ (.inl rfl)
  · constructor
    · rintro ⟨o, ho⟩
      right
      apply Diagnostic.exists_parse_iff.1
      cases hp : Diagnostic.parse (tool.stream status output errors) with
      | ok d => exact ⟨d, rfl⟩
      | error e =>
        rw [outcome_exited_of_parse_eq_error hs hp] at ho
        contradiction
    · intro h
      obtain ⟨d, hd⟩ := Diagnostic.exists_parse_iff.2 (h.resolve_left hs)
      exact ⟨_, outcome_exited_of_parse hs hd⟩

theorem kind_outcome_exited {o : Outcome}
    (h : tool.outcome (.exited status output errors) = .ok o) :
    (o.kind = .ok ↔ status = 0) ∧ (status ≠ 0 → o.kind = .syntaxError) ∧
      ∀ l, o.line = some l → 0 ≤ l := by
  by_cases hs : status = 0
  · subst hs
    rw [outcome_exited_zero] at h
    cases h
    exact ⟨iff_of_true rfl rfl, fun hne => absurd rfl hne, fun l hl => by cases hl⟩
  · cases hp : Diagnostic.parse (tool.stream status output errors) with
    | error e =>
      rw [outcome_exited_of_parse_eq_error hs hp] at h
      contradiction
    | ok d =>
      rw [outcome_exited_of_parse hs hp] at h
      cases h
      refine ⟨iff_of_false (by simp) hs, fun _ => rfl, ?_⟩
      intro l hl
      obtain ⟨n, -, rfl⟩ := Option.map_eq_some_iff.1 hl
      exact Int.natCast_nonneg n

theorem error_outcome_exited {e : Fault}
    (h : tool.outcome (.exited status output errors) = .error e) :
    status ≠ 0 ∧ ∃ ds rest, LocatedFirst (tool.stream status output errors) ds rest ∧
      digitLimit < ds.length ∧ e = .longNumeral ⟨ds.length⟩ := by
  have hs : status ≠ 0 := by
    rintro rfl
    rw [outcome_exited_zero] at h
    contradiction
  cases hp : Diagnostic.parse (tool.stream status output errors) with
  | ok d =>
    rw [outcome_exited_of_parse hs hp] at h
    contradiction
  | error e' =>
    rw [outcome_exited_of_parse_eq_error hs hp] at h
    cases h
    obtain ⟨ds, rest, hfirst, hlong, rfl⟩ := Diagnostic.parse_eq_error_iff.1 hp
    exact ⟨hs, ds, rest, hfirst, hlong, rfl⟩

/-- A check whose command exits has an outcome, by which the text is accepted if the status is 0 and
rejected otherwise, unless the command rejects it in a line with more digits than are read. -/
theorem check_exited_iff
    (hwrite : space.files.write (tool.scratchFile space.count) (Utf8.encode t) = .ok during)
    (hends : (runner space.commands
      (tool.command (tool.scratchFile space.count) during)).ending =
        .exited status output errors) :
    ((∃ o, (tool.check runner t space).result = .ok o) ↔
      status = 0 ∨ HasReadableLine (tool.stream status output errors)) ∧
    (∀ o, (tool.check runner t space).result = .ok o →
      (o.kind = .ok ↔ status = 0) ∧ (status ≠ 0 → o.kind = .syntaxError) ∧
        ∀ l, o.line = some l → 0 ≤ l) ∧
    (∀ e, (tool.check runner t space).result = .error e →
      status ≠ 0 ∧ ∃ ds rest, LocatedFirst (tool.stream status output errors) ds rest ∧
        digitLimit < ds.length ∧ e = .longNumeral ⟨ds.length⟩) ∧
    ∀ stream, (∃ d, Diagnostic.parse stream = .ok d) ↔ HasReadableLine stream := by
  rw [result_check hwrite, hends]
  refine ⟨exists_outcome_exited_iff, ?_, ?_, fun _ => Diagnostic.exists_parse_iff⟩
  · intro o ho
    exact kind_outcome_exited ho
  · intro e he
    exact error_outcome_exited he

def zerosLocation (n : Nat) : Text :=
  ':' :: (List.replicate n '0' ++ ':' :: (['1'] ++ ':' :: ['x']))

theorem locatedFirst_zerosLocation {n : Nat} (hn : n ≠ 0) :
    LocatedFirst (zerosLocation n) (List.replicate n '0') ['x'] := by
  apply Diagnostic.locatedFirst_of_front
  · exact Diagnostic.digits_replicate hn (by decide)
  · exact Diagnostic.digits_replicate Nat.one_ne_zero (by decide)
  · exact ⟨'x', List.mem_cons_self, by decide⟩

theorem stream_zerosLocation (tool : Tool) (status : Int) (output : Text) (n : Nat) :
    tool.stream status output (zerosLocation n) = zerosLocation n := by
  have htrim : (zerosLocation n).trim = zerosLocation n := by
    apply Text.trim_of_stopsAt
    · exact .cons (by decide)
    · rw [zerosLocation, List.reverse_cons, List.reverse_append]
      exact .cons (by decide)
  have hne : (zerosLocation n).NonBlank := ⟨':', List.mem_cons_self, by decide⟩
  rw [stream_of_nonBlank tool status output hne, htrim]

def zerosRunner (n : Nat) : Runner := fun _ _ => ⟨.exited 1 [] (zerosLocation n), false⟩

theorem ending_zerosRunner (n : Nat) (done : List Command) (command : Command) :
    (zerosRunner n done command).ending = .exited 1 [] (zerosLocation n) := rfl

def scratchTool : Tool := ⟨.named "scaf", "fmt", some (.ofInt 5), ⟨1, ["tmp"]⟩, fun _ => "x"⟩

def scratchSpace : Workspace := { files := ⟨[(["tmp"], .directory)], []⟩ }

theorem write_scratchSpace (t : Text) : ∃ during,
    scratchSpace.files.write (scratchTool.scratchFile scratchSpace.count) (Utf8.encode t) =
      .ok during :=
  ⟨_, by rfl⟩

theorem readable_zerosLocation_iff {n : Nat} (hn : n ≠ 0) :
    HasReadableLine (zerosLocation n) ↔ n ≤ digitLimit := by
  have hfirst := locatedFirst_zerosLocation hn
  constructor
  · intro h
    have hlength := h _ _ hfirst
    rwa [List.length_replicate] at hlength
  · intro h ds rest hds
    rw [← hfirst.unique hds, List.length_replicate]
    exact h

/-- A command may exit with what is read neither by itself nor as the outcome of a check. -/
theorem check_beyond_digitLimit :
    ∃ during,
      scratchSpace.files.write (scratchTool.scratchFile scratchSpace.count) (Utf8.encode ['a']) =
        .ok during ∧
      (zerosRunner (digitLimit + 1) scratchSpace.commands
        (scratchTool.command (scratchTool.scratchFile scratchSpace.count) during)).ending =
          .exited 1 [] (zerosLocation (digitLimit + 1)) ∧
      (scratchTool.check (zerosRunner (digitLimit + 1)) ['a'] scratchSpace).result =
        .error (.longNumeral ⟨digitLimit + 1⟩) ∧
      Diagnostic.parse (zerosLocation (digitLimit + 1)) = .error ⟨digitLimit + 1⟩ := by
  obtain ⟨during, hwrite⟩ := write_scratchSpace ['a']
  have hparse : Diagnostic.parse (zerosLocation (digitLimit + 1)) = .error ⟨digitLimit + 1⟩ := by
    apply Diagnostic.parse_eq_error_iff.2
    refine ⟨_, _, locatedFirst_zerosLocation (Nat.succ_ne_zero _), ?_, ?_⟩
    · rw [List.length_replicate]
      exact Nat.lt_succ_self _
    · rw [List.length_replicate]
  refine ⟨during, hwrite, rfl, ?_, hparse⟩
  rw [result_check hwrite]
  apply outcome_exited_of_parse_eq_error (by decide)
  rw [stream_zerosLocation]
  exact hparse

theorem check_exited_iff_zerosLocation :
    (∃ o, (scratchTool.check (zerosRunner digitLimit) ['a'] scratchSpace).result = .ok o ∧
      o.kind = .syntaxError) ∧
    ¬ ∃ o, (scratchTool.check (zerosRunner (digitLimit + 1)) ['a'] scratchSpace).result =
      .ok o := by
  obtain ⟨during, hwrite⟩ := write_scratchSpace ['a']
  constructor
  · obtain ⟨hsome, hkind, -⟩ := check_exited_iff hwrite (ending_zerosRunner digitLimit _ _)
    have hread := (readable_zerosLocation_iff (by decide)).2 (Nat.le_refl digitLimit)
    rw [stream_zerosLocation] at hsome
    obtain ⟨o, ho⟩ := hsome.2 (.inr hread)
    exact ⟨o, ho, (hkind o ho).2.1 (by decide)⟩
  · obtain ⟨hsome, -⟩ := check_exited_iff hwrite (ending_zerosRunner (digitLimit + 1) _ _)
    rw [hsome, stream_zerosLocation]
    rintro (hzero | hread)
    · contradiction
    · have hle := (readable_zerosLocation_iff (Nat.succ_ne_zero _)).1 hread
      exact Nat.not_succ_le_self _ hle

end Tool

end DocSamples
