import DocSamples.Proofs.DiagnosticReading
import DocSamples.Proofs.ExitedCommands
import DocSamples.Proofs.FileReports

namespace DocSamples

open Diagnostic (HasReadableLine LocatedFirst Readable Reads Tells)
open Run

/-- The outcome has a message, with no blanks at its ends, and of one line where it is about one. -/
structure Outcome.IsUsable (o : Outcome) : Prop where
  ne_nil : o.message ≠ []
  front : StopsAt isBlank o.message
  back : StopsAt isBlank o.message.reverse
  unbroken : o.line ≠ none → '\n' ∉ o.message

namespace Text

variable {t s u v : Text}

def EndsTold (t : Text) : Prop := ∃ u c, t = u ++ [c] ∧ isBlank c = false

theorem EndsTold.nonBlank (h : t.EndsTold) : t.NonBlank := by
  obtain ⟨u, c, rfl, hc⟩ := h
  exact ⟨c, by simp, hc⟩

theorem EndsTold.of_suffix (h : t.EndsTold) (hs : s <:+ t) (hne : s ≠ []) : s.EndsTold := by
  obtain ⟨u, c, rfl, hc⟩ := h
  obtain ⟨w, hw⟩ := hs
  rcases List.eq_nil_or_concat s with rfl | ⟨s, d, rfl⟩
  · contradiction
  · rw [List.concat_eq_append, ← List.append_assoc] at hw
    obtain ⟨-, hd⟩ := List.append_inj' hw rfl
    cases hd
    exact ⟨s, c, List.concat_eq_append, hc⟩

theorem EndsTold.append (h : t.EndsTold) (u : Text) : Text.EndsTold (u ++ t) := by
  obtain ⟨w, c, rfl, hc⟩ := h
  exact ⟨u ++ w, c, (List.append_assoc ..).symm, hc⟩

theorem endsTold_trim (h : t.NonBlank) : t.trim.EndsTold := by
  have hback := (trimsTo_trim t).back
  rcases List.eq_nil_or_concat t.trim with hnil | ⟨u, c, hu⟩
  · exact absurd hnil (trim_ne_nil_iff.2 h)
  · rw [List.concat_eq_append] at hu
    rw [hu, List.reverse_append] at hback
    exact ⟨u, c, hu, hback c rfl⟩

theorem endsTold_ofInt (i : Int) : (ofInt i).EndsTold := by
  have hnat : ∀ n, (ofNat n).EndsTold := by
    intro n
    rcases List.eq_nil_or_concat (ofNat n) with hnil | ⟨u, c, hu⟩
    · exact absurd hnil (ofNat_ne_nil n)
    · rw [List.concat_eq_append] at hu
      have hc : c ∈ ofNat n := by rw [hu]; simp
      exact ⟨u, c, hu, isBlank_of_isDigit (isDigit_of_mem_ofNat hc)⟩
  cases i with
  | ofNat n => exact hnat n
  | negSucc n => exact (hnat (n + 1)).append ['-']

theorem colon_not_mem_ofInt (i : Int) : ':' ∉ ofInt i := by
  have hnat : ∀ n, ':' ∉ ofNat n := by
    intro n h
    exact absurd (isDigit_of_mem_ofNat h) (by decide)
  cases i with
  | ofNat n => exact hnat n
  | negSucc n =>
    rw [ofInt, List.mem_cons, not_or]
    exact ⟨by decide, hnat _⟩

theorem TrimsTo.ne_nil (h : t.TrimsTo s) (ht : t.NonBlank) : s ≠ [] := by
  rw [← trim_eq_iff.2 h]
  exact trim_ne_nil_iff.2 ht

theorem TrimsTo.subset (h : t.TrimsTo s) : s ⊆ t := by
  obtain ⟨u, v, rfl, -, -⟩ := h.parts
  intro c hc
  simp [hc]

end Text

namespace Diagnostic

variable {t ds rest message w : Text} {d : Diagnostic}

theorem Readable.of_isInfix (h : Readable t) (hw : w <:+: t) : Readable w :=
  fun ds hds => h ds (hds.trans hw)

/-- Rows of digits do not run on over a character that is no digit. -/
theorem Readable.append_cons {c : Char} (ht : Readable t) (hw : Readable w)
    (hc : isDigit c = false) : Readable (t ++ c :: w) := by
  intro ds hds hdigits
  have hmem : c ∉ ds := by
    intro hmem
    rw [hdigits c hmem] at hc
    contradiction
  rcases isInfix_or_of_isInfix_append_cons hds hmem with h | h
  · exact ht ds h hdigits
  · exact hw ds h hdigits

theorem Readable.hasReadableLine (h : Readable t) : HasReadableLine t :=
  exists_parse_iff.1 (exists_parse h)

/-- The rest of a text behind its first location, and the colon in front of it. -/
theorem LocatedFirst.isSuffix (h : LocatedFirst t ds rest) : rest <:+ t ∧ ds ++ [':'] <:+: t := by
  obtain ⟨before, r, rfl, hloc, -⟩ := h
  obtain ⟨blanks, column, -, -, -, rfl⟩ := hloc.form
  constructor
  · exact ⟨before ++ ':' :: (blanks ++ (ds ++ ':' :: (column ++ [':']))), by simp⟩
  · exact ⟨before ++ ':' :: blanks, column ++ ':' :: rest, by simp⟩

theorem LocatedFirst.rest_ne_nil (h : LocatedFirst t ds rest) : rest ≠ [] := by
  obtain ⟨-, r, -, hloc, -⟩ := h
  obtain ⟨c, hc, -⟩ := hloc.tells
  exact List.ne_nil_of_mem hc

def outcome (d : Diagnostic) : Outcome := ⟨.syntaxError, d.message, d.line.map Int.ofNat⟩

theorem Tells.isUsable (h : Tells rest message) (hrest : rest.NonBlank) (line : Option Int) :
    Outcome.IsUsable ⟨.syntaxError, message, line⟩ := by
  cases h with
  | nothing h => exact absurd h (Text.not_blank_iff.2 hrest)
  | @line _ run behind _ hblanks hrun hbehind hmessage =>
    obtain ⟨hne, hfront, hbreak⟩ := hrun
    obtain ⟨c, run, rfl⟩ := List.exists_cons_of_ne_nil hne
    have hrun : Text.NonBlank (c :: run) := ⟨c, List.mem_cons_self, hfront c rfl⟩
    exact ⟨hmessage.ne_nil hrun, hmessage.front, hmessage.back,
      fun _ hmem => hbreak (hmessage.subset hmem)⟩

/-- What is read in a text that ends with more than a blank is usable. -/
theorem Reads.isUsable (h : Reads t d) (ht : t.EndsTold) : d.outcome.IsUsable := by
  cases h with
  | located h hm =>
    have hrest := ht.of_suffix h.isSuffix.1 h.rest_ne_nil
    exact hm.isUsable hrest.nonBlank _
  | announced _ _ hr hm => exact ⟨hm.ne_nil hr, hm.front, hm.back, fun hline => absurd rfl hline⟩
  | whole _ _ hm => exact ⟨hm.ne_nil ht.nonBlank, hm.front, hm.back, fun hline => absurd rfl hline⟩

theorem reads_of_parse_eq (h : parse t = .ok d) : Reads t d := by
  obtain ⟨d', hd'⟩ := exists_reads t
  have hparse := hd'.parse_eq (exists_parse_iff.1 ⟨d, h⟩)
  rw [h] at hparse
  cases hparse
  exact hd'

end Diagnostic

namespace Tool

variable {tool : Tool} {runner : Runner} {space : Workspace} {t : Text} {during : FileTree}
  {status : Int} {output errors : Text} {o : Outcome} {e : Ending}

def exitSentence (tool : Tool) (status : Int) : Text :=
  tool.program.text ++ ' ' :: (tool.subcommand ++ ' ' ::
    (("exited with status " : Text) ++ Text.ofInt status))

theorem stream_of_silent (tool : Tool) (status : Int) (h : Text.Blank errors)
    (ho : Text.Blank output) : tool.stream status output errors = tool.exitSentence status := by
  have hnil := List.isEmpty_iff.2 (Text.trim_eq_nil_iff.2 h)
  have hnil' := List.isEmpty_iff.2 (Text.trim_eq_nil_iff.2 ho)
  simp [stream, exitSentence, hnil, hnil']

/-- What a rejecting command wrote: its errors, its output, or a sentence in their place. -/
theorem stream_cases (tool : Tool) (status : Int) (output errors : Text) :
    (∃ w : Text, (w = errors ∨ w = output) ∧ w.NonBlank ∧
      tool.stream status output errors = w.trim) ∨
    tool.stream status output errors = tool.exitSentence status := by
  by_cases he : Text.Blank errors
  · by_cases ho : Text.Blank output
    · exact .inr (stream_of_silent tool status he ho)
    · rw [Text.not_blank_iff] at ho
      exact .inl ⟨output, .inr rfl, ho, stream_of_blank tool status he ho⟩
  · rw [Text.not_blank_iff] at he
    exact .inl ⟨errors, .inl rfl, he, stream_of_nonBlank tool status output he⟩

theorem endsTold_stream (tool : Tool) (status : Int) (output errors : Text) :
    (tool.stream status output errors).EndsTold := by
  rcases stream_cases tool status output errors with ⟨w, -, hw, h⟩ | h
  · rw [h]
    exact Text.endsTold_trim hw
  · have htold := (Text.endsTold_ofInt status).append
      (tool.program.text ++ ' ' :: (tool.subcommand ++ ' ' :: ("exited with status " : Text)))
    rw [h]
    simpa [exitSentence] using htold

/-- No number of a line stands in the words behind the subcommand. -/
theorem hasReadableLine_exitSentence (status : Int) (hprogram : Readable tool.program.text)
    (hsubcommand : Readable tool.subcommand) : HasReadableLine (tool.exitSentence status) := by
  intro ds rest h
  obtain ⟨-, hdigits⟩ := h.digits_isInfix
  have hspace : ' ' ∉ ds ++ [':'] := by
    rw [List.mem_append, not_or]
    exact ⟨fun hc => absurd (hdigits _ hc) (by decide), by decide⟩
  have hds : ds <:+: ds ++ [':'] := (List.prefix_append ds [':']).isInfix
  rcases isInfix_or_of_isInfix_append_cons h.isSuffix.2 hspace with h | h
  · exact hprogram ds (hds.trans h) hdigits
  · rcases isInfix_or_of_isInfix_append_cons h hspace with h | h
    · exact hsubcommand ds (hds.trans h) hdigits
    · have hcolon := h.subset (List.mem_append_right ds (List.mem_singleton_self ':'))
      rw [List.mem_append] at hcolon
      exact absurd hcolon (not_or.2 ⟨by decide, Text.colon_not_mem_ofInt status⟩)

theorem hasReadableLine_stream (hprogram : Readable tool.program.text)
    (hsubcommand : Readable tool.subcommand) (houtput : Readable output)
    (herrors : Readable errors) : HasReadableLine (tool.stream status output errors) := by
  rcases stream_cases tool status output errors with ⟨w, hw, -, h⟩ | h
  · have hread : Readable w := by
      rcases hw with rfl | rfl
      · exact herrors
      · exact houtput
    obtain ⟨u, v, hparts, -, -⟩ := (Text.trimsTo_trim w).parts
    rw [h]
    exact (hread.of_isInfix ⟨u, v, hparts.symm⟩).hasReadableLine
  · rw [h]
    exact hasReadableLine_exitSentence status hprogram hsubcommand

/-- Every rejection has a usable message. -/
theorem isUsable_of_outcome (h : tool.outcome e = .ok o) (hk : o.kind = .syntaxError) :
    o.IsUsable := by
  obtain ⟨status, output, errors, d, rfl, hs, hd⟩ := outcome_syntaxError_iff.1 ⟨o, h, hk⟩
  rw [outcome_exited_of_parse hs hd] at h
  cases h
  exact (Diagnostic.reads_of_parse_eq hd).isUsable (endsTold_stream tool status output errors)

theorem isUsable_of_check (h : (tool.check runner t space).result = .ok o)
    (hk : o.kind = .syntaxError) : o.IsUsable := by
  cases hwrite : space.files.write (tool.scratchFile space.count) (Utf8.encode t) with
  | error e =>
    rw [check_of_error runner hwrite] at h
    contradiction
  | ok during =>
    rw [result_check hwrite] at h
    exact isUsable_of_outcome h hk

end Tool

theorem Outcome.IsUsable.reported {a : Attempt} (h : a.outcome.IsUsable) : a.reported.IsUsable := by
  unfold Attempt.reported
  split
  · exact h
  · have hline : (a.outcome.remap a.strategy.lineOffset).line ≠ none → a.outcome.line ≠ none := by
      simp [remap]
    exact ⟨h.ne_nil, h.front, h.back, fun hne => h.unbroken (hline hne)⟩

/-- A failure that is due to a rejection is told with the message of the rejection. -/
def Failure.TellsRejection (settings : Settings) (f : Failure) : Prop :=
  ∀ strategy shape attempts o, f.verdict = .failed strategy shape attempts o →
    o.kind = .syntaxError →
      o.IsUsable ∧ f.message = settings.language ++ " syntax error: " ++ o.message

variable {tool : Tool} {runner : Runner} {settings : Settings} {t : Text} {v : Verdict}
  {s s' : Session Workspace} {m : Workspace} {f : Fence} {d : Document} {r : Report}
  {rs : List Report} {files : FileTree} {paths : List Path} {failure : Failure}

theorem isUsable_of_validate {strategy : Strategy} {shape : Shape} {attempts : Nat} {o : Outcome}
    (h : perform m (validate (tool.check runner) t) = (.ok (.failed strategy shape attempts o), s))
    (hk : o.kind = .syntaxError) : o.IsUsable := by
  obtain ⟨tried, hclimb, hv, -⟩ := climbs_of_exec h
  rcases List.eq_nil_or_concat tried with rfl | ⟨before, a, rfl⟩
  · cases hv
  · rw [List.concat_eq_append] at hclimb hv
    have ha : a ∈ before ++ [a] := List.mem_append_right before (List.mem_singleton_self a)
    obtain ⟨m₁, m₂, -, hanswer⟩ :=
      hclimb.exists_answers (fun _ => True) (fun _ _ _ _ _ _ => trivial) trivial ha
    cases hs : a.outcome.isSuccess with
    | true =>
      rw [Verdict.ofAttempts_of_success hs] at hv
      cases hv
    | false =>
      rw [Verdict.ofAttempts_of_failure hs] at hv
      cases hv
      rw [Attempt.reported_kind] at hk
      exact (Tool.isUsable_of_check hanswer.1 hk).reported

namespace Document

theorem HasReport.tellsRejection (h : d.HasReport (tool.check runner) settings r)
    (hf : r.failure = some failure) : failure.TellsRejection settings := by
  obtain ⟨s, s', hexec⟩ := h
  obtain ⟨reached, texts, ending, hcourse, hr⟩ := course_of_exec hexec
  cases hcourse with
  | passed =>
    cases hr
    cases hf
  | faulted => cases hr
  | failed _ _ _ hv =>
    cases hr
    cases hf
    intro strategy shape attempts o hverdict hk
    cases hverdict
    exact ⟨isUsable_of_validate hv hk, rfl⟩

theorem tellsRejection_of_reportAll
    (h : exec (reportAll (tool.check runner) settings files paths) s = (.ok rs, s')) :
    ∀ r ∈ rs, ∀ failure, r.failure = some failure → failure.TellsRejection settings := by
  intro r hr failure hf
  obtain ⟨path, -, d, -, hreport⟩ := (reports_of_exec h).2 r hr
  exact hreport.tellsRejection hf

theorem tellsRejection_of_validate
    (h : exec (d.validate (tool.check runner) settings) s = (.ok (.error failure), s')) :
    failure.TellsRejection settings := by
  obtain ⟨r, s₁, hreport, hresult⟩ := exists_of_exec_bind h
  cases hf : r.failure with
  | none =>
    rw [hf] at hresult
    cases hresult
  | some f =>
    rw [hf] at hresult
    cases hresult
    exact HasReport.tellsRejection ⟨_, _, hreport⟩ hf

end Document

namespace Tool

variable {space : Workspace} {during : FileTree} {status : Int} {output errors : Text}

/-- A command that fails has the text rejected with a usable message, and no document has a failure
for a rejection without one. -/
theorem check_usable (hprogram : Readable tool.program.text)
    (hsubcommand : Readable tool.subcommand) (houtput : Readable output) (herrors : Readable errors)
    (hwrite : space.files.write (tool.scratchFile space.count) (Utf8.encode t) = .ok during)
    (hends : (runner space.commands
      (tool.command (tool.scratchFile space.count) during)).ending =
        .exited status output errors)
    (hs : status ≠ 0) :
    (∃ o, (tool.check runner t space).result = .ok o ∧ o.kind = .syntaxError ∧ o.IsUsable) ∧
    (∀ (d : Document) settings m failure s,
      perform m (d.validate (tool.check runner) settings) = (.ok (.error failure), s) →
        failure.TellsRejection settings) ∧
    ∀ settings files paths m rs s,
      perform m (Document.reportAll (tool.check runner) settings files paths) = (.ok rs, s) →
        ∀ r ∈ rs, ∀ failure, r.failure = some failure → failure.TellsRejection settings := by
  refine ⟨?_, fun _ _ _ _ _ h => Document.tellsRejection_of_validate h,
    fun _ _ _ _ _ _ h => Document.tellsRejection_of_reportAll h⟩
  have hread : HasReadableLine (tool.stream status output errors) :=
    hasReadableLine_stream hprogram hsubcommand houtput herrors
  obtain ⟨o, ho⟩ := exists_outcome_exited_iff.2 (.inr hread)
  have hk := (kind_outcome_exited ho).2.1 hs
  rw [result_check hwrite, hends]
  exact ⟨o, ho, hk, isUsable_of_outcome ho hk⟩

def placeTool : Tool := { scratchTool with program := .named "a:3:4: \n" }

def silentRunner : Runner := fun _ _ => ⟨.exited (-9) "\n" " ", false⟩

theorem check_usable_placeTool :
    ∃ o, (placeTool.check silentRunner ['a'] scratchSpace).result = .ok o ∧ o.line = some 3 ∧
      o.message = ("fmt exited with status -9" : Text) ∧ o.IsUsable := by
  obtain ⟨during, hwrite⟩ := write_scratchSpace ['a']
  have hread : ∀ t : Text, t.length ≤ digitLimit → Readable t :=
    fun _ => Diagnostic.readable_of_length_le
  have hends : (silentRunner scratchSpace.commands
      (placeTool.command (placeTool.scratchFile scratchSpace.count) during)).ending =
        .exited (-9) "\n" " " := rfl
  obtain ⟨⟨o, ho, -, husable⟩, -⟩ := check_usable (hread placeTool.program.text (by decide))
    (hread placeTool.subcommand (by decide)) (hread "\n" (by decide)) (hread " " (by decide)) hwrite
    hends (by decide)
  have hresult : (placeTool.check silentRunner ['a'] scratchSpace).result =
      .ok ⟨.syntaxError, "fmt exited with status -9", some 3⟩ := by rfl
  refine ⟨o, ho, ?_⟩
  cases ho.symm.trans hresult
  exact ⟨rfl, rfl, husable⟩

end Tool

end DocSamples
