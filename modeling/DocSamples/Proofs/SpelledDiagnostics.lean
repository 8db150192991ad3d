import DocSamples.Proofs.DiagnosticReading
import DocSamples.Proofs.ExitedCommands

namespace DocSamples

open Text (AtLineEnd Blank TrimsTo)

namespace Diagnostic

variable {t r ds rest w : Text}

theorem Locates.locatedFirst (h : Locates r ds rest) : LocatedFirst (':' :: r) ds rest :=
  ⟨[], r, rfl, h, by simp⟩

/-- A text in front of another one leaves its first location the first if it has none itself. -/
theorem LocatedFirst.append_left (h : LocatedFirst t ds rest)
    (hw : ∀ u x, w = u ++ ':' :: x → ∀ ds rest, ¬ Locates (x ++ t) ds rest) :
    LocatedFirst (w ++ t) ds rest := by
  obtain ⟨before, r, rfl, hloc, hfirst⟩ := h
  refine ⟨w ++ before, r, (List.append_assoc ..).symm, hloc, ?_⟩
  intro before' r' ht hlt
  rcases append_cons_eq_append_iff.1 ht.symm with ⟨x, hx, rfl⟩ | ⟨y, hy, rfl⟩
  · exact hw before' x hx
  · rw [List.length_append, List.length_append, Nat.add_lt_add_iff_left] at hlt
    exact hfirst y r' hy hlt

theorem LocatedFirst.append_plain (h : LocatedFirst t ds rest) (hw : ':' ∉ w) :
    LocatedFirst (w ++ t) ds rest := by
  apply h.append_left
  rintro u x rfl
  exact absurd (by simp) hw

theorem LocatedFirst.cons (h : LocatedFirst t ds rest) (ht : ∀ ds rest, ¬ Locates t ds rest) :
    LocatedFirst (':' :: t) ds rest := by
  apply h.append_left (w := [':'])
  intro u x hx
  cases u with
  | nil =>
    cases hx
    exact ht
  | cons c u => simp at hx

theorem not_locates_of_stopsAt (h : StopsAt isDigit r.trimLeft) (ds rest : Text) :
    ¬ Locates r ds rest := by
  intro hloc
  obtain ⟨blanks, column, hblanks, -, -, hr⟩ := hloc.form
  obtain ⟨hne, hds⟩ := hloc.digits
  obtain ⟨d, ds, rfl⟩ := List.exists_cons_of_ne_nil hne
  have hd := hds d List.mem_cons_self
  have htrim : r.trimLeft = d :: (ds ++ ':' :: (column ++ ':' :: rest)) :=
    Text.trimLeft_eq_iff.2 ⟨.cons (isBlank_of_isDigit hd), blanks, hr, hblanks⟩
  rw [htrim] at h
  exact absurd (h d rfl) (by simp [hd])

/-- The parts of a diagnostic as a command writes it among other lines. -/
structure Spelling where
  before : Text
  path : Text
  gap : Text
  line : Nat
  column : Text
  message : Text
  after : Text

namespace Spelling

variable {s : Spelling}

def text (s : Spelling) : Text :=
  s.before ++ "error: " ++ s.path ++ ":" ++ s.gap ++ Text.ofNat s.line ++ ":" ++ s.column ++ ": "
    ++ s.message ++ s.after

/-- What stands before has no colon that blanks and a digit follow. The path has no colon and is not
made of blanks and then digits, which could be the number of a line. -/
structure Legible (s : Spelling) : Prop where
  before : ∀ u blanks c x, s.before = u ++ ':' :: (blanks ++ c :: x) → Blank blanks →
    isDigit c = false
  path : ':' ∉ s.path
  names : ∀ blanks ds, Blank blanks → ds ≠ [] → (∀ c ∈ ds, isDigit c = true) →
    s.path ≠ blanks ++ ds
  gap : s.gap = [] ∨ s.gap = [' ']
  line : (Text.ofNat s.line).length ≤ digitLimit
  column : s.column ≠ [] ∧ ∀ c ∈ s.column, isDigit c = true
  message : s.message ≠ [] ∧ s.message.trim = s.message ∧ '\n' ∉ s.message
  after : AtLineEnd s.after

/-- The text from the colon behind the path on, but for that colon. -/
def located (s : Spelling) : Text :=
  s.gap ++ (Text.ofNat s.line ++ ':' :: (s.column ++ ':' :: (' ' :: (s.message ++ s.after))))

theorem text_eq (s : Spelling) :
    s.text =
      s.before ++ (("error" : Text) ++ ':' :: ((' ' :: s.path) ++ ':' :: s.located)) := by
  simp [text, located]

theorem Legible.locates (h : s.Legible) :
    Locates s.located (Text.ofNat s.line) (' ' :: (s.message ++ s.after)) where
  digits := ⟨Text.ofNat_ne_nil s.line, fun _ hc => Text.isDigit_of_mem_ofNat hc⟩
  form := by
    refine ⟨s.gap, s.column, ?_, h.column.1, h.column.2, rfl⟩
    rcases h.gap with hgap | hgap
    · rw [hgap]
      exact Text.Blank.nil
    · rw [hgap]
      exact Text.blank_space
  tells := ⟨' ', List.mem_cons_self, by decide⟩

theorem Legible.tells (h : s.Legible) : Tells (' ' :: (s.message ++ s.after)) s.message := by
  obtain ⟨hne, htrim, hbreak⟩ := h.message
  have hmessage := Text.trim_eq_iff.1 htrim
  exact .line Text.blank_space ⟨hne, hmessage.front, hbreak⟩ h.after hmessage

/-- The colon of the announcement would locate something only if the path were a number. -/
theorem Legible.not_locates_path (h : s.Legible) (ds rest : Text) :
    ¬ Locates ((' ' :: s.path) ++ ':' :: s.located) ds rest := by
  intro hloc
  obtain ⟨blanks, column, hblanks, -, -, hform⟩ := hloc.form
  obtain ⟨hne, hds⟩ := hloc.digits
  have hpath : ':' ∉ ' ' :: s.path := by
    rw [List.mem_cons, not_or]
    exact ⟨by decide, h.path⟩
  have hfront : ':' ∉ blanks ++ ds := by
    rw [List.mem_append, not_or]
    exact ⟨fun hc => absurd (hblanks _ hc) (by decide), fun hc => absurd (hds _ hc) (by decide)⟩
  rw [← List.append_assoc, append_cons_inj_of_not_mem hpath hfront] at hform
  cases blanks with
  | nil =>
    have hspace : ' ' ∈ ds := by
      rw [← List.nil_append ds, ← hform.1]
      exact List.mem_cons_self
    exact absurd (hds _ hspace) (by decide)
  | cons c blanks =>
    have hblanks' : Blank blanks := fun c hc => hblanks c (List.mem_cons_of_mem _ hc)
    exact h.names blanks ds hblanks' hne hds (List.cons.inj hform.1).2

theorem Legible.not_locates_before (h : s.Legible) {u x : Text} (hx : s.before = u ++ ':' :: x)
    (r ds rest : Text) : ¬ Locates (x ++ (("error" : Text) ++ r)) ds rest := by
  apply not_locates_of_stopsAt
  have hfront : StopsAt isBlank (("error" : Text) ++ r) := .cons (by decide)
  have hdigit : StopsAt isDigit (("error" : Text) ++ r) := .cons (by decide)
  rw [Text.trimLeft_append_of_stopsAt hfront]
  refine StopsAt.append ?_ hdigit
  obtain ⟨-, blanks, hblanks, hblank⟩ := Text.trimLeft_eq_iff.1 (rfl : x.trimLeft = _)
  intro c hc
  obtain ⟨y, hy⟩ := List.head?_eq_some_iff.1 hc
  rw [hy] at hblanks
  rw [hblanks] at hx
  exact h.before u blanks c y hx hblank

theorem Legible.locatedFirst (h : s.Legible) :
    LocatedFirst s.text (Text.ofNat s.line) (' ' :: (s.message ++ s.after)) := by
  have hpath : ':' ∉ ' ' :: s.path := by
    rw [List.mem_cons, not_or]
    exact ⟨by decide, h.path⟩
  -- The text is put together from its end: the colons further left come in one by one.
  have hlocated := (h.locates.locatedFirst.append_plain hpath).cons h.not_locates_path
  rw [text_eq]
  apply (hlocated.append_plain (w := "error") (by decide)).append_left
  intro u x hx
  exact h.not_locates_before hx _

/-- A diagnostic that is spelled legibly is read as it was meant. -/
theorem Legible.parse_eq (h : s.Legible) : parse s.text = .ok ⟨some s.line, s.message⟩ := by
  rw [h.locatedFirst.parse_eq h.tells h.line, Text.digitsValue_ofNat]

/-- A diagnostic among other lines, trimmed at the two ends. -/
def trimmed (s : Spelling) : Spelling :=
  { s with before := s.before.trimLeft, after := s.after.trimRight }

theorem exists_text_eq (s : Spelling) : ∃ w, StopsAt isBlank w ∧ ∀ u v,
    text { s with before := u, after := v } = u ++ (w ++ s.message) ++ v := by
  refine ⟨("error: " : Text) ++
    (s.path ++ ':' :: (s.gap ++ (Text.ofNat s.line ++ ':' :: (s.column ++ [':', ' '])))), ?_, ?_⟩
  · have hstart : StopsAt isBlank ("error: " : Text) := .cons (by decide)
    have hne : ("error: " : Text) ≠ [] := by decide
    exact hstart.append_of_ne_nil hne _
  · intro u v
    simp [text]

theorem Legible.trim_text (h : s.Legible) : s.text.trim = s.trimmed.text := by
  obtain ⟨hne, htrim, -⟩ := h.message
  obtain ⟨w, hw, htext⟩ := s.exists_text_eq
  have hback : StopsAt isBlank (w ++ s.message).reverse := by
    rw [List.reverse_append]
    exact (Text.trim_eq_iff.1 htrim).back.append_of_ne_nil (List.reverse_ne_nil_iff.2 hne) _
  calc
    s.text.trim = Text.trim (s.before ++ (w ++ s.message) ++ s.after) := by
      rw [← htext s.before s.after]
    _ = s.before.trimLeft ++ (w ++ s.message) ++ s.after.trimRight :=
      Text.trim_append (hw.append (Text.trim_eq_iff.1 htrim).front) hback
        (List.append_ne_nil_of_right_ne_nil w hne) _ _
    _ = s.trimmed.text := (htext _ _).symm

theorem Legible.trimmed (h : s.Legible) : s.trimmed.Legible where
  before := by
    intro u blanks c x hx
    obtain ⟨-, w, hw, -⟩ := Text.trimLeft_eq_iff.1 (rfl : s.before.trimLeft = _)
    change s.before.trimLeft = _ at hx
    rw [hx, ← List.append_assoc] at hw
    exact h.before (w ++ u) blanks c x hw
  path := h.path
  names := h.names
  gap := h.gap
  line := h.line
  column := h.column
  message := h.message
  after := by
    obtain ⟨-, w, hw, -⟩ := Text.trimRight_eq_iff.1 (rfl : s.after.trimRight = _)
    have hafter := h.after.stopsAt_ne_break
    rw [hw] at hafter
    exact hafter.of_append.atLineEnd

theorem nonBlank_text (s : Spelling) : s.text.NonBlank := by
  refine ⟨'e', ?_, by decide⟩
  rw [text_eq]
  exact List.mem_append_right _ List.mem_cons_self

end Spelling

end Diagnostic

namespace Tool

open Diagnostic (Spelling)

variable {tool : Tool} {runner : Runner} {space : Workspace} {t : Text} {during : FileTree}
  {status : Int} {output errors : Text} {s : Spelling}

theorem stream_spelled (tool : Tool) (status : Int) (hs : s.Legible)
    (hwritten : errors = s.text ∨ Blank errors ∧ output = s.text) :
    tool.stream status output errors = s.trimmed.text := by
  rw [← hs.trim_text]
  rcases hwritten with rfl | ⟨hblank, rfl⟩
  · exact stream_of_nonBlank tool status output s.nonBlank_text
  · exact stream_of_blank tool status hblank s.nonBlank_text

/-- A command that fails with a legible diagnostic, on its error stream or else on its output, has
the text rejected with the line and the message of the diagnostic. -/
theorem check_spelled (hs : s.Legible)
    (hwrite : space.files.write (tool.scratchFile space.count) (Utf8.encode t) = .ok during)
    (hends : (runner space.commands
      (tool.command (tool.scratchFile space.count) during)).ending =
        .exited status output errors)
    (hstatus : status ≠ 0) (hwritten : errors = s.text ∨ Blank errors ∧ output = s.text) :
    (tool.check runner t space).result = .ok ⟨.syntaxError, s.message, some (s.line : Int)⟩ := by
  have hparse : Diagnostic.parse (tool.stream status output errors) =
      .ok ⟨some s.line, s.message⟩ := by
    rw [stream_spelled tool status hs hwritten]
    exact hs.trimmed.parse_eq
  rw [result_check hwrite, hends]
  exact outcome_exited_of_parse hstatus hparse

/-- A diagnostic with other locations behind the first one, between two lines. -/
def numberedDiagnostic : Spelling :=
  ⟨"1 file\n", "/tmp/x.scaf", " ", 12, "3", "expected 4:5: or c:\\d: 6", "\nb.scaf:7:8: end\n "⟩

theorem legible_numberedDiagnostic : numberedDiagnostic.Legible where
  before := by
    rintro u blanks c x hx
    have hcolon : ':' ∉ numberedDiagnostic.before := by decide
    rw [hx] at hcolon
    simp at hcolon
  path := by decide
  names := by
    intro blanks ds hblanks _ hds hpath
    have hslash : '/' ∈ numberedDiagnostic.path := by decide
    rw [hpath] at hslash
    rcases List.mem_append.1 hslash with hc | hc
    · exact absurd (hblanks _ hc) (by decide)
    · exact absurd (hds _ hc) (by decide)
  gap := .inr rfl
  line := by decide
  column := ⟨by decide, List.all_eq_true.1 (by rfl)⟩
  message := by decide
  after := .inr rfl

theorem check_spelled_numbered :
    (scratchTool.check (fun _ _ => ⟨.exited 1 numberedDiagnostic.text " \n", false⟩) ['a']
      scratchSpace).result =
        .ok ⟨.syntaxError, "expected 4:5: or c:\\d: 6", some 12⟩ := by
  obtain ⟨during, hwrite⟩ := write_scratchSpace ['a']
  have hblank : Blank (" \n" : Text) := List.all_eq_true.1 (by rfl)
  exact check_spelled legible_numberedDiagnostic hwrite rfl (by decide) (.inr ⟨hblank, rfl⟩)

end Tool

end DocSamples
