import DocSamples.Proofs.LineMapping
import DocSamples.Proofs.Utf8Coding

namespace DocSamples

namespace Text

variable {old new t : Text} {c : Char}

/-- A text after its first `skipped` characters, where each `old` from the left becomes `new`. -/
def replaceFrom (old new : Text) : (skipped : Nat) → Text → Text
  | _, [] => []
  | skipped + 1, _ :: t => replaceFrom old new skipped t
  | 0, c :: t =>
    if startsWith (c :: t) old then new ++ replaceFrom old new (old.length - 1) t
    else c :: replaceFrom old new 0 t

/-- A text where each `old`, which is not empty, becomes `new`. -/
def replaceAll (old new t : Text) : Text := replaceFrom old new 0 t

theorem replaceFrom_length_append (old new w t : Text) :
    replaceFrom old new w.length (w ++ t) = replaceAll old new t := by
  induction w with
  | nil => rfl
  | cons c w ih => exact ih

theorem replaceAll_append (hold : old ≠ []) (new t : Text) :
    replaceAll old new (old ++ t) = new ++ replaceAll old new t := by
  cases old with
  | nil => contradiction
  | cons c w =>
    have hstart : startsWith (c :: (w ++ t)) (c :: w) = true := startsWith_iff.2 ⟨t, rfl⟩
    rw [List.cons_append, replaceAll, replaceFrom, if_pos hstart]
    exact congrArg (new ++ ·) (replaceFrom_length_append (c :: w) new w t)

theorem replaceAll_cons (h : ∀ r, c :: t ≠ old ++ r) :
    replaceAll old new (c :: t) = c :: replaceAll old new t := by
  have hstart : startsWith (c :: t) old = false := by
    rw [Bool.eq_false_iff, Ne, startsWith_iff]
    rintro ⟨r, hr⟩
    exact h r hr
  rw [replaceAll, replaceFrom, hstart]
  rfl

/-- A text where each `\r\n` becomes `\n`, and then each `\r` that is left. -/
def withLineFeeds (t : Text) : Text :=
  replaceAll ['\r'] ['\n'] (replaceAll ['\r', '\n'] ['\n'] t)

theorem withLineFeeds_eq (t : Text) : withLineFeeds t = unifyBreaks t := by
  unfold withLineFeeds
  fun_induction unifyBreaks t with
  | case1 => rfl
  | case2 t ih =>
    have hpair := replaceAll_append (List.cons_ne_nil '\r' ['\n']) ['\n'] t
    have hfeed : ∀ r, '\n' :: replaceAll ['\r', '\n'] ['\n'] t ≠ ['\r'] ++ r := by simp
    simp only [List.cons_append, List.nil_append] at hpair
    rw [hpair, replaceAll_cons hfeed, ih]
  | case3 c t hpair ih =>
    have hkeep : ∀ r, c :: t ≠ ['\r', '\n'] ++ r := by
      intro r h
      obtain ⟨rfl, ht⟩ := List.cons.inj h
      exact hpair r rfl ht
    rw [replaceAll_cons hkeep]
    by_cases hc : c = '\r'
    · subst hc
      have hreturn := replaceAll_append (List.cons_ne_nil '\r' []) ['\n']
        (replaceAll ['\r', '\n'] ['\n'] t)
      simp only [List.cons_append, List.nil_append] at hreturn
      rw [hreturn, ih, if_pos rfl]
    · have hother : ∀ r, c :: replaceAll ['\r', '\n'] ['\n'] t ≠ ['\r'] ++ r := by
        intro r h
        exact hc (List.cons.inj h).1
      rw [replaceAll_cons hother, ih, if_neg hc]

theorem lines_withLineFeeds (t : Text) : lines (withLineFeeds t) = lines t := by
  rw [lines, withLineFeeds_eq, unifyBreaks_idem]
  rfl

theorem return_not_mem_of_mem_lines {l : Text} (h : l ∈ lines t) : '\r' ∉ l := by
  intro hr
  obtain ⟨u, hu⟩ := exists_broken t
  rw [hu.lines_eq] at h
  induction hu with
  | empty => contradiction
  | last hl hn hl' =>
    cases List.mem_singleton.1 h
    exact hl' hr
  | line hn hl' hb hcr ht ih =>
    rcases List.mem_cons.1 h with rfl | h
    · exact hl' hr
    · exact ih h

end Text

namespace Fence

variable {flavor : Flavor} {n k : Nat} {ls : List Text} {f : Fence} {c : Char}

theorem dropIndent_subset (k : Nat) (line : Text) : dropIndent k line ⊆ line := by
  fun_induction dropIndent k line with
  | case1 k c t hc ih => exact List.subset_cons_of_subset c ih
  | case2 k c t hc => exact List.Subset.refl _
  | case3 => exact List.Subset.refl _

/-- What stands in a fence stands in a line, but for the breaks between its lines. -/
theorem exists_mem_line_of_mem_text (hf : f ∈ scanFrom flavor n ls) (hc : c ∈ f.text)
    (hbreak : c ≠ '\n') : ∃ l ∈ ls, c ∈ l := by
  fun_induction scanFrom flavor n ls with
  | case1 => contradiction
  | case2 n line lines ho ih =>
    obtain ⟨l, hl, hmem⟩ := ih hf
    exact ⟨l, List.mem_cons_of_mem line hl, hmem⟩
  | case3 n line lines o ho body ih =>
    rcases List.mem_cons.1 hf with rfl | hf
    · obtain ⟨_, hl, hmem⟩ := (Text.mem_join (mt List.mem_singleton.1 hbreak)).1 hc
      obtain ⟨l, hbody, rfl⟩ := List.mem_map.1 hl
      have hline : l ∈ lines := (List.takeWhile_prefix _).subset hbody
      exact ⟨l, List.mem_cons_of_mem line hline, dropIndent_subset _ l hmem⟩
    · obtain ⟨l, hl, hmem⟩ := ih hf
      exact ⟨l, List.mem_cons_of_mem line (List.mem_of_mem_drop hl), hmem⟩

end Fence

namespace Document

variable {σ : Type}

theorem report_withLineFeeds (check : Checker σ) (settings : Settings) (path : Option Path)
    (flavor : Flavor) (t : Text) :
    report check settings ⟨path, flavor, t.withLineFeeds⟩ =
      report check settings ⟨path, flavor, t⟩ := by
  rw [report, Fence.scan, Text.lines_withLineFeeds]
  rfl

theorem validateFile_eq_validate {files : FileTree} {path : Path} {bytes : Bytes} {raw : Text}
    (check : Checker σ) (settings : Settings) (hread : files.read path = .ok bytes)
    (hdecode : Utf8.decode bytes = .ok raw) :
    validateFile check settings files path =
      validate check settings ⟨some path, flavorOf (some path), raw⟩ := by
  have hfile : ofFile files path = .ok ⟨some path, flavorOf (some path), raw.withLineFeeds⟩ := by
    rw [ofFile, readText, hread, Text.withLineFeeds_eq]
    simp only [hdecode]
    rfl
  rw [validateFile, hfile]
  change validate check settings ⟨some path, flavorOf (some path), raw.withLineFeeds⟩ = _
  rw [validate, validate, report_withLineFeeds]

/-- The fences of a document are the same however its lines end, and no sample keeps a `\r`. So the
document in a file is validated as the text that the file holds. -/
theorem line_endings_alike (check : Checker σ) (settings : Settings) :
    (∀ flavor document,
      Fence.scan flavor (Text.withLineFeeds document) = Fence.scan flavor document ∧
      ∀ f ∈ Fence.scan flavor document, '\r' ∉ f.text) ∧
    ∀ (files : FileTree) (path : Path) (bytes : Bytes) (raw : Text),
      files.read path = .ok bytes → Utf8.decode bytes = .ok raw →
      validateFile check settings files path =
        validate check settings ⟨some path, flavorOf (some path), raw⟩ := by
  refine ⟨?_, fun files path bytes raw => validateFile_eq_validate check settings⟩
  intro flavor document
  constructor
  · rw [Fence.scan, Text.lines_withLineFeeds]
    rfl
  · intro f hf hr
    obtain ⟨l, hl, hmem⟩ := Fence.exists_mem_line_of_mem_text hf hr (by decide)
    exact Text.return_not_mem_of_mem_lines hl hmem

def mixedEndings : Text := "~~~scaf\r\nx\r\r\ny\n~~~\r"

def mixedEndingsFile : FileTree where
  entries := [(["a.md"], .file (Utf8.encode mixedEndings))]
  current := []

theorem line_endings_alike_mixedEndings :
    Fence.scan .markdown "~~~scaf\nx\n\ny\n~~~\n" = [⟨"x\n\ny", "scaf", none, 1⟩] ∧
    Fence.scan .markdown mixedEndings = [⟨"x\n\ny", "scaf", none, 1⟩] ∧
    validateFile rejectsFourthLine (.default ⟨0, []⟩) mixedEndingsFile ⟨0, ["a.md"]⟩ =
      validate rejectsFourthLine (.default ⟨0, []⟩)
        ⟨some ⟨0, ["a.md"]⟩, .markdown, mixedEndings⟩ := by
  obtain ⟨hscan, hfile⟩ := line_endings_alike rejectsFourthLine (.default ⟨0, []⟩)
  have hfeeds : Text.withLineFeeds mixedEndings = "~~~scaf\nx\n\ny\n~~~\n".toList := by decide
  have hfences : Fence.scan .markdown mixedEndings = [⟨"x\n\ny", "scaf", none, 1⟩] := by
    decide +kernel
  have hsame := (hscan .markdown mixedEndings).1
  rw [hfeeds] at hsame
  refine ⟨hsame.trans hfences, hfences, ?_⟩
  exact hfile _ _ _ mixedEndings (by rfl) (Utf8.decode_encode mixedEndings)

end Document

end DocSamples
