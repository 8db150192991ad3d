import DocSamples.Proofs.EffectiveSettings
import DocSamples.Proofs.Segmentation
import DocSamples.Proofs.WalkCourse

namespace DocSamples

variable {flavor : Flavor} {document t w language : Text} {metadata : Option Text} {f : Fence}

/-- A single word: it is not empty and holds no blank. -/
structure Text.IsWord (t : Text) : Prop where
  ne_nil : t ≠ []
  isBlank : ∀ c ∈ t, isBlank c = false

namespace Text

theorem isWord_iff : t.IsWord ↔ t ≠ [] ∧ t.any isBlank = false := by
  simp only [List.any_eq_false, Bool.not_eq_true]
  exact ⟨fun h => ⟨h.ne_nil, h.isBlank⟩, fun h => ⟨h.1, h.2⟩⟩

instance : Decidable t.IsWord := decidable_of_iff _ isWord_iff.symm

theorem NonBlank.isWord (h : t.NonBlank) (ht : ∀ c ∈ t, isBlank c = false) : t.IsWord := by
  obtain ⟨c, hc, -⟩ := h
  exact ⟨List.ne_nil_of_mem hc, ht⟩

theorem isWord_of_mem_words (h : w ∈ words t) : w.IsWord := by
  obtain ⟨hw, hne⟩ := List.mem_filter.1 h
  exact ⟨by simpa using hne, eq_false_of_mem_splitWhere hw⟩

namespace IsWord

theorem words_eq (h : t.IsWord) : words t = [t] := by
  rw [words, splitWhere_eq_splitOnP, List.splitOnP_eq_singleton h.isBlank]
  simp [h.ne_nil]

theorem trim_eq (h : t.IsWord) : t.trim = t := by
  apply trim_of_stopsAt
  · exact fun c hc => h.isBlank c (List.mem_of_mem_head? hc)
  · exact fun c hc => h.isBlank c (List.mem_reverse.1 (List.mem_of_mem_head? hc))

theorem not_mem {c : Char} (h : t.IsWord) (hc : DocSamples.isBlank c = true) : c ∉ t := by
  intro hmem
  rw [h.isBlank c hmem] at hc
  contradiction

end IsWord

end Text

namespace Fence

theorem isBlank_language (h : f ∈ scan flavor document) : ∀ c ∈ f.language, isBlank c = false := by
  obtain ⟨blocks, -, hscan⟩ := exists_segmented flavor 1 (Text.lines document)
  rw [scan, hscan] at h
  obtain ⟨b, -, rfl⟩ := List.mem_map.1 h
  have hinfo : Informs b.opening.info b.fence.language b.fence.metadata := informs_iff.2 ⟨rfl, rfl⟩
  obtain ⟨u, v, -, -, hlanguage, -⟩ := hinfo
  exact hlanguage

theorem isWord_of_isSkipped (h : f.isSkipped t = true) : t.IsWord := by
  unfold isSkipped at h
  cases hm : f.metadata with
  | none => rw [hm] at h; contradiction
  | some m =>
    rw [hm, Option.any_some] at h
    exact Text.isWord_of_mem_words (List.contains_iff_mem.1 h)

theorem isSkipped_of_metadata (hf : f.metadata = some t) (h : t.IsWord) : f.isSkipped t = true := by
  simp [isSkipped, hf, h.words_eq]

/-- A document of a single line, which opens a fence without a body. The space keeps a language that
starts with a tilde apart from the marker. -/
def invitation (language : Text) (metadata : Option Text) : Text :=
  "~~~ " ++ language ++ metadata.elim [] (' ' :: ·)

theorem scan_invitation (flavor : Flavor) (hl : language.IsWord)
    (hm : ∀ t, metadata = some t → t.IsWord) :
    scan flavor (invitation language metadata) = [⟨[], language, metadata, 1⟩] := by
  have hblank : ∀ c, isBlank c = true → c ≠ ' ' → c ∉ invitation language metadata := by
    intro c hc hspace
    have htilde : '~' ≠ c := by
      rintro rfl
      revert hc
      decide
    have hlanguage := hl.not_mem hc
    cases metadata with
    | none => simp [invitation, hspace, htilde.symm, hlanguage]
    | some t => simp [invitation, hspace, htilde.symm, hlanguage, (hm t rfl).not_mem hc]
  have hlines : Text.lines (invitation language metadata) = [invitation language metadata] :=
    Text.Broken.lines_eq (.last (List.cons_ne_nil _ _) (hblank _ (by decide) (by decide))
      (hblank _ (by decide) (by decide)))
  have hopens : Opens flavor (invitation language metadata)
      ⟨0, '~', 3, [' '] ++ language ++ metadata.elim [] (' ' :: ·)⟩ := by
    refine ⟨⟨[], rfl, List.forall_mem_nil _, rfl⟩, ?_, .inr rfl, Nat.le_refl 3, by simp, by simp⟩
    cases flavor <;> rfl
  have hinforms : Informs ([' '] ++ language ++ metadata.elim [] (' ' :: ·)) language metadata :=
    informs_words Text.blank_space hl.ne_nil hl.isBlank fun t ht =>
      ⟨(hm t ht).ne_nil, (hm t ht).trim_eq⟩
  have hseg := Segmented.openBlock 1 hopens (List.forall_mem_nil _)
  rw [← hlines] at hseg
  obtain ⟨hlanguage, hmetadata⟩ := informs_iff.1 hinforms
  rw [scan_eq_of_segmented hseg, List.map_singleton]
  simp only [Block.fence, ofBody, ← hlanguage, ← hmetadata]
  rfl

theorem mem_scan_invitation (flavor : Flavor) (metadata : Option Text) (hl : language.IsWord)
    (hm : ∀ t, metadata = some t → t.IsWord) :
    (⟨[], language, metadata, 1⟩ : Fence) ∈ scan flavor (invitation language metadata) := by
  rw [scan_invitation flavor hl hm]
  exact List.mem_cons_self

theorem isWord_of_language (hne : language.NonBlank) (hf : f ∈ scan flavor document)
    (he : f.language = language) : language.IsWord :=
  hne.isWord (he ▸ isBlank_language hf)

theorem exists_language_iff (hne : language.NonBlank) :
    (∃ document, ∃ f ∈ scan flavor document, f.language = language) ↔ language.IsWord := by
  constructor
  · rintro ⟨document, f, hf, he⟩
    exact isWord_of_language hne hf he
  · intro hl
    exact ⟨_, _, mem_scan_invitation flavor none hl (by simp), rfl⟩

theorem exists_isCheckable_iff {settings : Settings} (hne : settings.language.NonBlank) :
    (∃ document, ∃ f ∈ scan flavor document, f.isCheckable settings = true) ↔
      settings.language.IsWord := by
  constructor
  · rintro ⟨document, f, hf, hcheck⟩
    rw [isCheckable, Bool.and_eq_true] at hcheck
    exact isWord_of_language hne hf (isValidated_iff.1 hcheck.1).1
  · intro hl
    have hcheck : (Shape.classify [] != .pseudoCode) = true := by decide
    refine ⟨_, _, mem_scan_invitation flavor none hl (by simp), ?_⟩
    rw [isCheckable, Bool.and_eq_true]
    exact ⟨isValidated_iff.2 ⟨rfl, rfl⟩, hcheck⟩

theorem exists_language_isSkipped_iff (hne : language.NonBlank) :
    (∃ document, ∃ f ∈ scan flavor document, f.language = language ∧ f.isSkipped t = true) ↔
      language.IsWord ∧ t.IsWord := by
  constructor
  · rintro ⟨document, f, hf, he, hskipped⟩
    exact ⟨isWord_of_language hne hf he, isWord_of_isSkipped hskipped⟩
  · rintro ⟨hl, ht⟩
    have hm : ∀ u, some t = some u → u.IsWord := by
      rintro u ⟨⟩
      exact ht
    exact ⟨_, _, mem_scan_invitation flavor (some t) hl hm, rfl, isSkipped_of_metadata rfl ht⟩

theorem exists_isSkipped_iff :
    (∃ document, ∃ f ∈ scan flavor document, f.isSkipped t = true) ↔ t.IsWord := by
  constructor
  · rintro ⟨document, f, -, hskipped⟩
    exact isWord_of_isSkipped hskipped
  · intro ht
    have hscaf : Text.IsWord "scaf" := by decide
    obtain ⟨c, hc⟩ := List.exists_mem_of_ne_nil _ hscaf.ne_nil
    obtain ⟨document, f, hf, -, hskipped⟩ := (exists_language_isSkipped_iff
      ⟨c, hc, hscaf.isBlank c hc⟩).2 ⟨hscaf, ht⟩
    exact ⟨document, f, hf, hskipped⟩

end Fence

namespace Document

variable {σ : Type} {settings : Settings}

/-- Every document passes unchecked where no fence can have the language. -/
theorem report_of_not_isWord (h : ¬ settings.language.IsWord) (hne : settings.language.NonBlank)
    (check : Checker σ) (d : Document) : d.report check settings = pure { path := d.path } := by
  have hnone : (Fence.scan d.flavor d.text).filter (Fence.isTagged settings) = [] := by
    rw [List.filter_eq_nil_iff]
    intro f hf htagged
    rw [Fence.isTagged, beq_iff_eq] at htagged
    exact h (Fence.isWord_of_language hne hf htagged)
  rw [report, walk_eq_walk_tagged, hnone, walk]

end Document

namespace Settings

variable {files : FileTree} {project : Path} {environment file : Option Text} {s : Settings}

theorem nonBlank_language_of_load (h : load files project environment file = .ok s) :
    s.language.NonBlank := by
  obtain ⟨o, rfl, ho⟩ := load_eq_ok h
  have hscaf : Text.NonBlank "scaf" := ⟨'s', by decide⟩
  rw [withEnvironment_eq]
  rcases ho with ⟨-, rfl⟩ | ⟨data, entries, -, ho⟩
  · exact hscaf
  · exact nonBlank_getD (.inr ⟨_, (overridesOf_eq_ok_iff.1 ho).1⟩) hscaf

/-- A language that is loaded can stand on a fence, and the sample of that fence be checked, exactly
if it is a single word, and a skip token can stand beside it exactly if it is one too. If the
language is none, every document passes unchecked. -/
theorem tags_take_effect_iff (h : load files project environment file = .ok s) (flavor : Flavor) :
    ((∃ document, ∃ f ∈ Fence.scan flavor document, f.language = s.language) ↔
      s.language.IsWord) ∧
    ((∃ document, ∃ f ∈ Fence.scan flavor document, f.isCheckable s = true) ↔
      s.language.IsWord) ∧
    ((∃ document, ∃ f ∈ Fence.scan flavor document,
        f.language = s.language ∧ f.isSkipped s.skipToken = true) ↔
      s.language.IsWord ∧ s.skipToken.IsWord) ∧
    ((∃ document, ∃ f ∈ Fence.scan flavor document, f.isSkipped s.skipToken = true) ↔
      s.skipToken.IsWord) ∧
    (¬ s.language.IsWord → ∀ (σ : Type) (check : Checker σ) (d : Document),
      d.report check s = pure { path := d.path }) := by
  have hlanguage := nonBlank_language_of_load h
  refine ⟨Fence.exists_language_iff hlanguage, Fence.exists_isCheckable_iff hlanguage,
    Fence.exists_language_isSkipped_iff hlanguage, Fence.exists_isSkipped_iff, ?_⟩
  intro hl σ check d
  exact Document.report_of_not_isWord hl hlanguage check d

open CommandLine (exists_ok_of_toOption_map settingsHost)

/-- A language and a skip token of two words are loaded, and no fence has them. -/
theorem load_settingsHost_twoWords :
    ∃ s, load (settingsHost "language: go script\nskip_token: no check").files ⟨1, ["project"]⟩ none
        (some "c.yaml") = .ok s ∧
      ∀ flavor document, ∀ f ∈ Fence.scan flavor document,
        f.language ≠ s.language ∧ f.isSkipped s.skipToken = false := by
  have hload : ∃ s, load (settingsHost "language: go script\nskip_token: no check").files
      ⟨1, ["project"]⟩ none (some "c.yaml") = .ok s ∧
      (s.language, s.skipToken) = ("go script".toList, "no check".toList) := by
    apply exists_ok_of_toOption_map
    decide +kernel
  obtain ⟨s, hs, htags⟩ := hload
  obtain ⟨hlanguage, hskip⟩ := Prod.mk.inj htags
  have hnot : ¬ Text.IsWord "go script" ∧ ¬ Text.IsWord "no check" := by decide
  refine ⟨s, hs, fun flavor document f hf => ⟨?_, ?_⟩⟩
  · rw [hlanguage]
    exact fun he => hnot.1 (Fence.isWord_of_language ⟨'g', by decide⟩ hf he)
  · rw [hskip, Bool.eq_false_iff]
    exact fun he => hnot.2 (Fence.isWord_of_isSkipped he)

/-- A language that only a space keeps apart from the marker, which has to be of tildes. -/
theorem tags_take_effect_iff_tilde :
    ∃ s, load (settingsHost "language: '~go`'\nskip_token: ' no-check '").files ⟨1, ["project"]⟩
        none (some "c.yaml") = .ok s ∧
      (∃ document, ∃ f ∈ Fence.scan .markdown document, f.isCheckable s = true) ∧
      ∃ document, ∃ f ∈ Fence.scan .markdown document,
        f.language = s.language ∧ f.isSkipped s.skipToken = true := by
  have hload : ∃ s, load (settingsHost "language: '~go`'\nskip_token: ' no-check '").files
      ⟨1, ["project"]⟩ none (some "c.yaml") = .ok s ∧
      (s.language, s.skipToken) = ("~go`".toList, "no-check".toList) := by
    apply exists_ok_of_toOption_map
    decide +kernel
  obtain ⟨s, hs, htags⟩ := hload
  obtain ⟨hlanguage, hskip⟩ := Prod.mk.inj htags
  have hword : s.language.IsWord ∧ s.skipToken.IsWord := by
    rw [hlanguage, hskip]
    decide
  obtain ⟨-, hchecked, hskipped, -⟩ := tags_take_effect_iff hs .markdown
  exact ⟨s, hs, hchecked.2 hword.1, hskipped.2 hword⟩

end Settings

end DocSamples
