import DocSamples.Proofs.EffectiveSettings

namespace DocSamples.Settings

open Yaml (Data Value)

variable {entries : Entries} {key : Text} {data : Data} {v : Value} {vs : List Value}
  {files : FileTree} {project path : Path} {environment file : Option Text} {bytes : Bytes}
  {s : Settings}

/-- A list of texts. A list of pairs that holds none is one too. -/
inductive IsTextList (data : Data) : Value → Prop
  | texts {r : Yaml.Ref} {vs : List Value} (hr : data.collection r = .list vs)
      (h : ∀ v ∈ vs, ∃ ps, v = .text ps) : IsTextList data (.collection r)
  | noPairs {r : Yaml.Ref} (hr : data.collection r = .pairs []) : IsTextList data (.collection r)

theorem exists_texts?_iff : (∃ ts, texts? vs = some ts) ↔ ∀ v ∈ vs, ∃ ps, v = .text ps := by
  induction vs with
  | nil => exact iff_of_true ⟨[], rfl⟩ (List.forall_mem_nil _)
  | cons v vs ih =>
    rw [List.forall_mem_cons, ← ih]
    cases v with
    | text ps =>
      have hcons : texts? (.text ps :: vs) = (texts? vs).bind fun ts => some (ps.toText :: ts) :=
        List.mapM_cons
      rw [hcons]
      cases texts? vs <;> simp
    | _ => simp [texts?]

theorem exists_listedTexts?_iff : (∃ ts, listedTexts? data v = some ts) ↔ IsTextList data v := by
  constructor
  · rintro ⟨ts, h⟩
    unfold listedTexts? at h
    split at h
    · split at h
      · rename_i vs hr
        exact .texts hr (exists_texts?_iff.1 ⟨ts, h⟩)
      · rename_i hr
        exact .noPairs hr
      · contradiction
    · contradiction
  · intro h
    cases h with
    | texts hr h =>
      obtain ⟨ts, hts⟩ := exists_texts?_iff.2 h
      exact ⟨ts, by simp only [listedTexts?, hr, hts]⟩
    | noPairs hr => exact ⟨[], by simp only [listedTexts?, hr]⟩

/-- A setting that is not of the type that it should have. -/
inductive IllTypedEntry (data : Data) (entries : Entries) : Prop
  | text {key : Text} {v : Value} (hkey : key ∈ textKeys)
      (hv : Value.lookup? entries key = some v) (h : ∀ ps : Points, v = .text ps → ps.trim = [])
  | docsDir {v : Value} (hv : Value.lookup? entries "docs_dir" = some v)
      (h : ∀ ps, v ≠ .text ps)
  | timeout {v : Value} (hv : Value.lookup? entries "timeout_s" = some v)
      (h : ∀ x, number? v = some x → ¬ IsTooLarge v → ¬ x.IsPositive)
  | suffixes {v : Value} (hv : Value.lookup? entries "suffixes" = some v) (h : ¬ IsTextList data v)

/-- Data that is not made up as a file of settings should be. -/
inductive IllTyped (data : Data) : Prop
  | root (hnull : data.root ≠ .null) (h : entries? data data.root = none)
  | validate {outer : Entries} {v : Value} (hroot : entries? data data.root = some outer)
      (hv : Value.lookup? outer "validate" = some v) (h : entries? data v = none)
  | entry {entries : Entries} (hsection : IsSection data entries) (h : IllTypedEntry data entries)

/-- Settings that pass: the directory may be any value that can be shown, and the timeout no
number. -/
structure Passes (data : Data) (entries : Entries) : Prop where
  texts : ∀ key ∈ textKeys, IsText entries key
  timeout : IsTimeout entries
  docsDir : ∀ v, Value.lookup? entries "docs_dir" = some v → ∃ t, data.toText? v = .ok t
  suffixes : ∀ v, Value.lookup? entries "suffixes" = some v → IsTextList data v

theorem exists_gives_iff : (∃ o, Gives data project entries o) ↔ Passes data entries := by
  constructor
  · rintro ⟨o, h⟩
    refine ⟨?_, exists_givenTimeout_iff.1 ⟨_, h.timeout⟩, ?_, ?_⟩
    · simp only [textKeys, List.forall_mem_cons]
      exact ⟨exists_givenText_iff.1 ⟨_, h.language⟩, exists_givenText_iff.1 ⟨_, h.tool⟩,
        exists_givenText_iff.1 ⟨_, h.subcommand⟩, exists_givenText_iff.1 ⟨_, h.skipToken⟩,
        List.forall_mem_nil _⟩
    · intro v hv
      obtain ⟨p, t, ht, -⟩ := exists_givenAt_iff.1 ⟨_, h.docsDir⟩ v hv
      exact ⟨t, ht⟩
    · intro v hv
      obtain ⟨ts, us, hus, -⟩ := exists_givenAt_iff.1 ⟨_, h.suffixes⟩ v hv
      exact exists_listedTexts?_iff.1 ⟨us, hus⟩
  · intro h
    have htexts : ∀ key ∈ textKeys, ∃ given, GivenAt entries key StandsForText given :=
      fun key hkey => exists_givenText_iff.2 (h.texts key hkey)
    simp only [textKeys, List.forall_mem_cons] at htexts
    obtain ⟨⟨language, hlanguage⟩, ⟨tool, htool⟩, ⟨subcommand, hsubcommand⟩,
      ⟨skipToken, hskipToken⟩, -⟩ := htexts
    obtain ⟨timeout, htimeout⟩ := exists_givenTimeout_iff.2 h.timeout
    have hdocsDir : ∃ given, GivenAt entries "docs_dir" (StandsForDocsDir data project) given := by
      refine exists_givenAt_iff.2 fun v hv => ?_
      obtain ⟨t, ht⟩ := h.docsDir v hv
      exact ⟨_, t, ht, rfl⟩
    have hsuffixes : ∃ given, GivenAt entries "suffixes" (StandsForSuffixes data) given := by
      refine exists_givenAt_iff.2 fun v hv => ?_
      obtain ⟨us, hus⟩ := exists_listedTexts?_iff.2 (h.suffixes v hv)
      exact ⟨_, us, hus, rfl⟩
    obtain ⟨docsDir, hdocsDir⟩ := hdocsDir
    obtain ⟨suffixes, hsuffixes⟩ := hsuffixes
    exact ⟨⟨language, tool, subcommand, timeout, skipToken, docsDir, suffixes⟩,
      hlanguage, htool, hsubcommand, hskipToken, htimeout, hdocsDir, hsuffixes⟩

theorem IsSection.unique {entries' : Entries} (h : IsSection data entries)
    (h' : IsSection data entries') : entries = entries' := by
  have hsame : entriesOf data ⟨0, []⟩ = .ok entries := entriesOf_eq_ok_iff.2 h
  rw [entriesOf_eq_ok_iff.2 h'] at hsame
  exact (Except.ok.inj hsame).symm

theorem load_eq_ok_iff (hread : files.read (source project file) = .ok bytes)
    (hdata : Data.ofInput (.ofBytes bytes) = .ok data) :
    load files project environment file = .ok s ↔
      ∃ entries o, IsSection data entries ∧ Gives data project entries o ∧
        s = (o.apply (default project)).withEnvironment environment := by
  constructor
  · intro h
    obtain ⟨o, ho, hs⟩ := exists_fileGives h
    cases ho with
    | nothing _ hlook =>
      obtain ⟨found, hfound⟩ := FileTree.look_of_read hread
      cases hlook.symm.trans hfound
    | entries hread' hdata' hsection h =>
      cases hread.symm.trans hread'
      cases hdata.symm.trans hdata'
      exact ⟨_, o, hsection, h, hs⟩
  · rintro ⟨entries, o, hsection, ho, rfl⟩
    rw [load_of_read hread, ofContent, hdata]
    change (ofData project (source project file) data >>= _) = _
    rw [ofData_eq_ok_iff.2 ⟨entries, o, hsection, ho, rfl⟩]
    rfl

theorem exists_load_iff (hread : files.read (source project file) = .ok bytes)
    (hdata : Data.ofInput (.ofBytes bytes) = .ok data) :
    (∃ s, load files project environment file = .ok s) ↔
      ∃ entries, IsSection data entries ∧ Passes data entries := by
  simp only [load_eq_ok_iff hread hdata]
  constructor
  · rintro ⟨s, entries, o, hsection, ho, -⟩
    exact ⟨entries, hsection, exists_gives_iff.1 ⟨o, ho⟩⟩
  · rintro ⟨entries, hsection, hpasses⟩
    have hgives : ∃ o, Gives data project entries o := exists_gives_iff.2 hpasses
    obtain ⟨o, ho⟩ := hgives
    exact ⟨_, entries, o, hsection, ho, rfl⟩

theorem rejects_iff (hread : files.read (source project file) = .ok bytes) :
    (∃ e, load files project environment file = .error e ∧ e.IsInvalid) ↔
      (∀ e, ¬ Breaks (source project file) bytes e) ∧
        ¬ ∃ s, load files project environment file = .ok s := by
  have hescapes : (∀ e, ¬ Escapes (load files project environment file) e) ↔ _ :=
    forall_not_escapes_iff
  simp only [escapes_load_iff hread] at hescapes
  rw [hescapes]
  constructor
  · rintro ⟨e, he, hinvalid⟩
    refine ⟨.inr ⟨e, he, hinvalid⟩, ?_⟩
    rintro ⟨s, hs⟩
    cases he.symm.trans hs
  · rintro ⟨hs | he, hnot⟩
    · exact absurd hs hnot
    · exact he

theorem IllTyped.entry_of_isSection (h : IllTyped data) (hsection : IsSection data entries) :
    IllTypedEntry data entries := by
  cases h with
  | root hnull hnone =>
    cases hsection with
    | empty hroot => exact absurd hroot hnull
    | whole hroot | entry hroot => cases hnone.symm.trans hroot
  | validate hroot hv hnone =>
    cases hsection with
    | empty hnull => exact absurd hnull (ne_null_of_entries? hroot)
    | whole hroot' hmissing =>
      cases hroot.symm.trans hroot'
      cases hv.symm.trans hmissing
    | entry hroot' hv' hentries =>
      cases hroot.symm.trans hroot'
      cases hv.symm.trans hv'
      cases hnone.symm.trans hentries
  | entry hsection' h =>
    rwa [hsection.unique hsection']

/-- What is wrong in settings that pass is that the timeout is no number, or that the directory is
no text. -/
theorem IllTypedEntry.overlooked (h : IllTypedEntry data entries) (hpasses : Passes data entries) :
    GivesTimeout entries .nan ∨
      ∃ v, Value.lookup? entries "docs_dir" = some v ∧ ∀ ps, v ≠ .text ps := by
  cases h with
  | @text key v hkey hv h =>
    obtain ⟨ps, hps, hne⟩ := hpasses.texts key hkey v hv
    exact absurd (h ps hps) hne
  | docsDir hv h => exact .inr ⟨_, hv, h⟩
  | timeout hv h =>
    rcases hpasses.timeout with hnone | ⟨x, ⟨v, hv', hnumber, hlarge⟩, hpos | rfl⟩
    · cases hv.symm.trans hnone
    · cases hv.symm.trans hv'
      exact absurd hpos (h x hnumber hlarge)
    · exact .inl ⟨v, hv', hnumber, hlarge⟩
  | suffixes hv h => exact absurd (hpasses.suffixes _ hv) h

/-- Ill-typed data is rejected, unless the loading breaks or the data passes. It passes where a
timeout of no number or a directory that is no text is all that is wrong, and then the directory is
what the value is shown as. -/
theorem rejected_iff_of_illTyped (hread : files.read (source project file) = .ok bytes)
    (hdata : Data.ofInput (.ofBytes bytes) = .ok data) (hill : IllTyped data) :
    ((∃ e, load files project environment file = .error e ∧ e.IsInvalid) ↔
      (∀ e, ¬ Breaks (source project file) bytes e) ∧
        ∀ entries, IsSection data entries → ¬ Passes data entries) ∧
    ((∃ s, load files project environment file = .ok s) ↔
      ∃ entries, IsSection data entries ∧ Passes data entries) ∧
    (∀ entries, IsSection data entries → Passes data entries →
      GivesTimeout entries .nan ∨
        ∃ v, Value.lookup? entries "docs_dir" = some v ∧ ∀ ps, v ≠ .text ps) ∧
    ∀ s entries v, load files project environment file = .ok s → IsSection data entries →
      Value.lookup? entries "docs_dir" = some v →
        ∃ t, data.toText? v = .ok t ∧ s.docsDir = project.join (.ofText t) := by
  have hload : (∃ s, load files project environment file = .ok s) ↔
      ∃ entries, IsSection data entries ∧ Passes data entries := exists_load_iff hread hdata
  refine ⟨?_, hload, fun entries hsection hpasses =>
    (hill.entry_of_isSection hsection).overlooked hpasses, ?_⟩
  · rw [rejects_iff hread, hload]
    simp only [not_exists, not_and]
  · intro s entries v hs hsection hv
    obtain ⟨entries', o, hsection', ho, rfl⟩ := (load_eq_ok_iff hread hdata).1 hs
    cases hsection.unique hsection'
    obtain ⟨p, hp, t, ht, rfl⟩ := (givenAt_iff_of_some hv).1 ho.docsDir
    refine ⟨t, ht, ?_⟩
    rw [withEnvironment_eq]
    exact congrArg (Option.getD · _) hp

open CommandLine (exists_ok_of_toOption_map read_settingsHost settingsHost)

/-- The data of a file with a single setting. There are places for the mapping, its key and the
value. -/
def single (key : Text) (v : Value) : Data where
  root := .collection 0
  collections := #[.map [(.text (.ofText key), v)], .list [], .list []]

/-- A directory that is no value passes, and so does a timeout that is no number. -/
theorem load_settingsHost_illTyped :
    (Data.ofInput (.ofBytes (Utf8.encode "docs_dir: null")) = .ok (single "docs_dir" .null) ∧
      IllTyped (single "docs_dir" .null) ∧
      ∃ s, load (settingsHost "docs_dir: null").files ⟨1, ["project"]⟩ none (some "c.yaml") =
        .ok s ∧ s.docsDir.text = "/project/None") ∧
    Data.ofInput (.ofBytes (Utf8.encode "timeout_s: .nan")) =
      .ok (single "timeout_s" (.float .nan)) ∧
    IllTyped (single "timeout_s" (.float .nan)) ∧
    ∃ s, load (settingsHost "timeout_s: .nan").files ⟨1, ["project"]⟩ none (some "c.yaml") =
      .ok s ∧ s.timeout = .nan := by
  refine ⟨⟨by decide +kernel, .entry (.whole rfl rfl) (.docsDir rfl nofun), ?_⟩,
    by decide +kernel, .entry (.whole rfl rfl) (.timeout rfl ?_), ?_⟩
  · apply exists_ok_of_toOption_map
    decide +kernel
  · intro x hx _
    cases hx
    exact Double.not_isPositive_nan
  · apply exists_ok_of_toOption_map
    decide +kernel

theorem rejected_iff_of_illTyped_suffixes :
    IllTyped (single "suffixes" (.text (.ofText ".md"))) ∧
    ∃ e, load (settingsHost "suffixes: .md").files ⟨1, ["project"]⟩ none (some "c.yaml") =
      .error e ∧ e.IsInvalid := by
  have hdata : Data.ofInput (.ofBytes (Utf8.encode "suffixes: .md")) =
      .ok (single "suffixes" (.text (.ofText ".md"))) := by decide +kernel
  have hsection : IsSection (single "suffixes" (.text (.ofText ".md")))
      [(.text (.ofText "suffixes"), .text (.ofText ".md"))] := .whole rfl rfl
  have hlist : ¬ IsTextList (single "suffixes" (.text (.ofText ".md"))) (.text (.ofText ".md")) :=
    nofun
  have hill : IllTyped (single "suffixes" (.text (.ofText ".md"))) :=
    .entry hsection (.suffixes rfl hlist)
  obtain ⟨hrejected, -⟩ := rejected_iff_of_illTyped (read_settingsHost "suffixes: .md") hdata hill
  refine ⟨hill, hrejected.2 ⟨?_, ?_⟩⟩
  · intro e h
    cases h with
    | unread h => cases hdata.symm.trans h
    | timeoutTooLarge h hv | timeoutTooDeep h hv | docsDirTooDeep h _ hv =>
      cases hdata.symm.trans h.data_eq
      cases hsection.unique (entriesOf_eq_ok_iff.1 h.entries_eq)
      cases hv
  · intro entries hentries hpasses
    cases hsection.unique hentries
    exact hlist (hpasses.suffixes _ rfl)

end DocSamples.Settings
