import DocSamples.Proofs.DiagnosticReading
import DocSamples.Proofs.ExitedCommands

namespace DocSamples

open Text (Blank)

namespace Diagnostic

variable {t name name' r r' path message : Text}

theorem Announces.unique (h : Announces t name r) (h' : Announces t name' r') :
    name = name' ∧ r = r' := by
  have hform := h.form.symm.trans h'.form
  rw [List.append_cancel_left_eq] at hform
  exact (append_cons_inj_of_not_mem h.plain h'.plain).1 hform

/-- A text announces an error in the file of this path. -/
def Names (t path r : Text) : Prop :=
  ∃ blanks, Blank blanks ∧ t = ("error:" : Text) ++ (blanks ++ (path ++ ':' :: r))

/-- A message is all that a text says, but perhaps for an error being announced in the file. -/
structure KeepsAllButPath (path t message : Text) : Prop where
  whole : message = t.trim ∨ ∃ r, Names t path r ∧ message = r.trim
  part : ∀ m, t = ("error: " : Text) ++ m → (∀ r, ¬ Names t path r) → m.trim <:+: message

/-- An error is announced in no other place than the file, unless nothing follows. -/
def AnnouncesOnly (path t : Text) : Prop :=
  ∀ name r, Announces t name r → r.NonBlank → ∃ blanks, Blank blanks ∧ name = blanks ++ path

theorem Announces.nonBlanks_lt (h : Announces t name r) : r.nonBlanks < t.nonBlanks := by
  have herror : Text.nonBlanks ("error:" : Text) = 6 := by decide
  rw [h.form, Text.nonBlanks_append, Text.nonBlanks_append, herror,
    Text.nonBlanks_cons (by decide : isBlank ':' = false)]
  omega

/-- The name that is announced is the path if what follows the two is the same. -/
theorem Announces.eq_append_path (h : Announces t name r) (hn : Names t path r')
    (heq : r.trim = r'.trim) : ∃ blanks, Blank blanks ∧ name = blanks ++ path := by
  obtain ⟨blanks, hblanks, ht⟩ := hn
  refine ⟨blanks, hblanks, ?_⟩
  have hform := h.form.symm.trans ht
  rw [List.append_cancel_left_eq, ← List.append_assoc] at hform
  rcases append_cons_eq_append_iff.1 hform with ⟨x, -, rfl⟩ | ⟨y, hy, hname⟩
  · have hcount := congrArg Text.nonBlanks heq
    rw [Text.nonBlanks_trim, Text.nonBlanks_trim, Text.nonBlanks_append,
      Text.nonBlanks_cons (by decide : isBlank ':' = false)] at hcount
    omega
  · cases y with
    | nil => rw [hname, List.append_nil]
    | cons c y =>
      cases (List.cons.inj hy).1
      exact absurd (by simp [hname]) h.plain

/-- What is read in a text without a location is all but the path exactly if no other place is
announced. -/
theorem Reads.keepsAllButPath_iff (h : Reads t ⟨none, message⟩) :
    KeepsAllButPath path t message ↔ AnnouncesOnly path t := by
  cases h with
  | @announced name r _ _ ha hr hm =>
    cases Text.trim_eq_iff.2 hm
    constructor
    · rintro ⟨hwhole, -⟩ name' r' ha' -
      obtain ⟨rfl, rfl⟩ := ha.unique ha'
      rcases hwhole with heq | ⟨r', hn, heq⟩
      · -- Trimming drops blanks only, and the announcement is more than that.
        have hlt := ha.nonBlanks_lt
        have hcount := congrArg Text.nonBlanks heq
        rw [Text.nonBlanks_trim, Text.nonBlanks_trim] at hcount
        omega
      · exact ha.eq_append_path hn heq
    · intro honly
      obtain ⟨blanks, hblanks, rfl⟩ := honly name r ha hr
      have hn : Names t path r := by
        refine ⟨blanks, hblanks, ?_⟩
        rw [ha.form, List.append_assoc]
      exact ⟨.inr ⟨r, hn, rfl⟩, fun _ _ hnone => absurd hn (hnone r)⟩
  | whole _ ha hm =>
    cases Text.trim_eq_iff.2 hm
    refine iff_of_true ⟨.inl rfl, ?_⟩ ?_
    · rintro m rfl -
      exact Text.trim_isInfix_trim_append _ m
    · intro name r hname hr
      exact absurd (ha name r hname) (Text.not_blank_iff.2 hr)

end Diagnostic

namespace Tool

open Diagnostic (AnnouncesOnly KeepsAllButPath Reads Unlocated)

variable {tool : Tool} {runner : Runner} {space : Workspace} {t : Text} {during : FileTree}
  {status : Int} {output errors : Text}

/-- A command that fails without a location has the text rejected with what is read in its stream,
of which nothing but the path of the scratch file is lost exactly if it announces nothing else. -/
theorem check_unlocated
    (hwrite : space.files.write (tool.scratchFile space.count) (Utf8.encode t) = .ok during)
    (hends : (runner space.commands
      (tool.command (tool.scratchFile space.count) during)).ending =
        .exited status output errors)
    (hs : status ≠ 0) (hun : Unlocated (tool.stream status output errors)) :
    ∃ message, (tool.check runner t space).result = .ok ⟨.syntaxError, message, none⟩ ∧
      Reads (tool.stream status output errors) ⟨none, message⟩ ∧
      (KeepsAllButPath (tool.scratchFile space.count).text (tool.stream status output errors)
          message ↔
        AnnouncesOnly (tool.scratchFile space.count).text (tool.stream status output errors)) := by
  have hparse := Diagnostic.parse_of_unlocated hun
  have hreads := Diagnostic.reads_of_unlocated hun
  refine ⟨_, ?_, hreads, hreads.keepsAllButPath_iff⟩
  rw [result_check hwrite, hends]
  exact outcome_exited_of_parse hs hparse

def writingRunner (errors : Text) : Runner := fun _ _ => ⟨.exited 1 [] errors, false⟩

/-- An error that names no file, in a sentence over two lines. -/
def sentence : Text := "error: cannot parse a test\nexpected: a name"

theorem result_writingRunner (errors : Text) {d : Diagnostic}
    (hd : Diagnostic.parse (scratchTool.stream 1 [] errors) = .ok d) :
    (scratchTool.check (writingRunner errors) ['a'] scratchSpace).result =
      .ok ⟨.syntaxError, d.message, d.line.map Int.ofNat⟩ := by
  obtain ⟨during, hwrite⟩ := write_scratchSpace ['a']
  rw [result_check hwrite]
  exact outcome_exited_of_parse Int.one_ne_zero hd

/-- The first line of the sentence is taken for the name of a file. -/
theorem check_loses_sentence :
    (scratchTool.check (writingRunner sentence) ['a'] scratchSpace).result =
        .ok ⟨.syntaxError, "a name", none⟩ ∧
      scratchTool.stream 1 [] sentence = sentence ∧ Unlocated sentence ∧
      ¬ KeepsAllButPath (scratchTool.scratchFile scratchSpace.count).text sentence "a name" := by
  have hread := result_writingRunner sentence (d := ⟨none, "a name"⟩) rfl
  refine ⟨hread, rfl, Diagnostic.location?_eq_none_iff.1 rfl, ?_⟩
  intro hkeeps
  have hnone : ∀ r, ¬ Diagnostic.Names sentence (scratchTool.scratchFile 0).text r := by
    rintro r ⟨blanks, -, ht⟩
    have hslash : '/' ∉ sentence := by decide
    have hpath : '/' ∈ (scratchTool.scratchFile 0).text := by decide
    rw [ht] at hslash
    simp [hpath] at hslash
  have hpart := hkeeps.part "cannot parse a test\nexpected: a name" rfl hnone
  exact absurd hpart.length_le (by decide)

def namedError : Text := "error: /tmp/x: no query"

theorem check_unlocated_named :
    (scratchTool.check (writingRunner namedError) ['a'] scratchSpace).result =
        .ok ⟨.syntaxError, "no query", none⟩ ∧
      KeepsAllButPath (scratchTool.scratchFile scratchSpace.count).text namedError "no query" := by
  obtain ⟨during, hwrite⟩ := write_scratchSpace ['a']
  have hun : Unlocated (scratchTool.stream 1 [] namedError) :=
    Diagnostic.location?_eq_none_iff.1 rfl
  have hends : (writingRunner namedError scratchSpace.commands
      (scratchTool.command (scratchTool.scratchFile scratchSpace.count) during)).ending =
        .exited 1 [] namedError := rfl
  obtain ⟨message, hresult, -, hkeeps⟩ := check_unlocated hwrite hends Int.one_ne_zero hun
  have hread := result_writingRunner namedError (d := ⟨none, "no query"⟩) rfl
  cases hresult.symm.trans hread
  refine ⟨hread, hkeeps.2 ?_⟩
  intro name r hname _
  have hnamed : Diagnostic.Announces namedError " /tmp/x" " no query" :=
    ⟨rfl, by decide, by decide⟩
  obtain ⟨rfl, -⟩ := Diagnostic.Announces.unique hname hnamed
  exact ⟨[' '], Text.blank_space, rfl⟩

end Tool

end DocSamples
