import DocSamples.Proofs.EffectiveSettings
import DocSamples.Proofs.NormalPaths

namespace DocSamples

open Yaml (Data Value)

/-- A text that is not blank and has no blanks at its ends. -/
structure Text.IsTrimmed (t : Text) : Prop where
  nonBlank : t.NonBlank
  trim_eq : t.trim = t

theorem Text.IsTrimmed.ne_nil {t : Text} (h : t.IsTrimmed) : t ≠ [] := by
  rw [← h.trim_eq]
  exact Text.trim_ne_nil_iff.2 h.nonBlank

namespace Points

variable {ps : Points} {p : Point} {t : Text}

theorem toText_append (ps qs : Points) : toText (ps ++ qs) = ps.toText ++ qs.toText :=
  List.flatMap_append

@[simp] theorem toText_ofText (t : Text) : (ofText t).toText = t := by
  induction t with
  | nil => rfl
  | cons c t ih =>
    change c :: toText (ofText t) = c :: t
    rw [ih]

@[simp] theorem trim_ofText (t : Text) : (ofText t).trim = ofText t.trim := by
  simp only [trim, ofText, Text.trim, Text.trimRight, Text.trimLeft, List.dropWhile_map,
    ← List.map_reverse]
  rfl

theorem toText_singleton_ne_nil (p : Point) : toText [p] ≠ [] := by
  cases p <;> exact List.cons_ne_nil _ _

theorem stopsAt_toText_singleton (h : p.isBlank = false) :
    StopsAt isBlank (toText [p]) ∧ StopsAt isBlank (toText [p]).reverse := by
  cases p with
  | char c => exact ⟨.cons h, .cons h⟩
  | surrogate n => exact ⟨.cons (by decide), .cons (by decide)⟩

theorem stopsAt_toText (h : StopsAt Point.isBlank ps) : StopsAt isBlank ps.toText := by
  cases ps with
  | nil => exact .nil
  | cons p ps =>
    rw [← List.singleton_append, toText_append]
    exact (stopsAt_toText_singleton (h p rfl)).1.append_of_ne_nil (toText_singleton_ne_nil p) _

theorem stopsAt_reverse_toText (h : StopsAt Point.isBlank ps.reverse) :
    StopsAt isBlank ps.toText.reverse := by
  rcases List.eq_nil_or_concat ps with rfl | ⟨ps, p, rfl⟩
  · exact .nil
  · rw [List.concat_eq_append] at h ⊢
    have hp : p.isBlank = false := h p (by simp)
    rw [toText_append, List.reverse_append]
    apply (stopsAt_toText_singleton hp).2.append_of_ne_nil
    exact mt List.reverse_eq_nil_iff.1 (toText_singleton_ne_nil p)

theorem isTrimmed_toText_trim (h : ps.trim ≠ []) : ps.trim.toText.IsTrimmed := by
  obtain ⟨hfront, hback⟩ := stopsAt_trimmed Point.isBlank ps
  refine ⟨nonBlank_toText_trim h, Text.trim_of_stopsAt (stopsAt_toText hfront) ?_⟩
  apply stopsAt_reverse_toText
  rwa [trim, List.reverse_reverse]

end Points

namespace Settings

variable {entries : Entries} {key t : Text} {ts : List Text} {data : Data} {v : Value}
  {project path p : Path} {s : Settings}

structure IsNormal (s : Settings) : Prop where
  language : s.language.IsTrimmed
  tool : s.tool.IsTrimmed
  subcommand : s.subcommand.IsTrimmed
  skipToken : s.skipToken.IsTrimmed
  timeout : s.timeout.IsPositive ∨ s.timeout = .nan
  docsDir : s.docsDir.IsRooted
  suffixes : ∀ t ∈ s.suffixes, t.startsWith ['.'] = true

def textValue (t : Text) : Value := .text (.ofText t)

/-- Entries that tell settings, and what stands at the place of the suffixes. -/
structure Tells (data : Data) (entries : Entries) (s : Settings) : Prop where
  language : Value.lookup? entries "language" = some (textValue s.language)
  tool : Value.lookup? entries "tool" = some (textValue s.tool)
  subcommand : Value.lookup? entries "subcommand" = some (textValue s.subcommand)
  skipToken : Value.lookup? entries "skip_token" = some (textValue s.skipToken)
  timeout : Value.lookup? entries "timeout_s" = some (.float s.timeout)
  docsDir : Value.lookup? entries "docs_dir" = some (textValue s.docsDir.text)
  suffixes : ∃ r, Value.lookup? entries "suffixes" = some (.collection r) ∧
    data.collection r = .list (s.suffixes.map textValue)

/-- Data that tells settings, in the whole of it or under the key `validate`. -/
def Written (data : Data) (s : Settings) : Prop :=
  ∃ entries, IsSection data entries ∧ Tells data entries s

def toEntries (s : Settings) (suffixes : Yaml.Ref) : Entries :=
  [(textValue "language", textValue s.language), (textValue "tool", textValue s.tool),
    (textValue "subcommand", textValue s.subcommand), (textValue "timeout_s", .float s.timeout),
    (textValue "skip_token", textValue s.skipToken),
    (textValue "docs_dir", textValue s.docsDir.text), (textValue "suffixes", .collection suffixes)]

def flat (s : Settings) : Data where
  root := .collection 0
  collections := #[.map (s.toEntries 1), .list (s.suffixes.map textValue)]

def nested (s : Settings) : Data where
  root := .collection 0
  collections := #[.map [(textValue "validate", .collection 1)], .map (s.toEntries 2),
    .list (s.suffixes.map textValue)]

theorem written_flat (s : Settings) : Written s.flat s :=
  ⟨_, .whole rfl rfl, rfl, rfl, rfl, rfl, rfl, rfl, _, rfl, rfl⟩

theorem written_nested (s : Settings) : Written s.nested s :=
  ⟨_, .entry rfl rfl rfl, rfl, rfl, rfl, rfl, rfl, rfl, _, rfl, rfl⟩

theorem standsForText_textValue (h : t.IsTrimmed) : StandsForText (textValue t) t := by
  refine ⟨_, rfl, ?_, ?_⟩
  · rw [Points.trim_ofText, h.trim_eq]
    exact mt List.map_eq_nil_iff.1 h.ne_nil
  · rw [Points.trim_ofText, h.trim_eq, Points.toText_ofText]

theorem StandsForText.isTrimmed (h : StandsForText v t) : t.IsTrimmed := by
  obtain ⟨ps, -, hne, rfl⟩ := h
  exact Points.isTrimmed_toText_trim hne

theorem standsForDocsDir_textValue (h : p.IsRooted) (data : Data) (project : Path) :
    StandsForDocsDir data project (textValue p.text) p := by
  refine ⟨p.text, congrArg Except.ok (Points.toText_ofText p.text), ?_⟩
  rw [h.ofText_text, Path.join_of_isAbsolute h.isAbsolute]

theorem StandsForDocsDir.isRooted (hproject : project.IsRooted)
    (h : StandsForDocsDir data project v p) : p.IsRooted := by
  obtain ⟨t, -, rfl⟩ := h
  exact hproject.join (Path.isNormal_ofText t)

theorem texts?_map_textValue (ts : List Text) : texts? (ts.map textValue) = some ts := by
  induction ts with
  | nil => rfl
  | cons t ts ih =>
    unfold texts? at ih ⊢
    rw [List.map_cons, List.mapM_cons, ih]
    exact congrArg (some <| · :: ts) (Points.toText_ofText t)

theorem standsForSuffixes_list {r : Yaml.Ref} (hr : data.collection r = .list (ts.map textValue))
    (h : ∀ t ∈ ts, t.startsWith ['.'] = true) : StandsForSuffixes data (.collection r) ts := by
  refine ⟨ts, ?_, ?_⟩
  · simp only [listedTexts?, hr, texts?_map_textValue]
  · calc
      ts = ts.map id := (List.map_id ts).symm
      _ = ts.map dotted := List.map_congr_left fun t ht => (if_pos (h t ht)).symm

theorem startsWith_dotted (t : Text) : (dotted t).startsWith ['.'] = true := by
  unfold dotted
  split
  · assumption
  · exact Text.startsWith_iff.2 ⟨t, rfl⟩

theorem StandsForSuffixes.startsWith (h : StandsForSuffixes data v ts) :
    ∀ t ∈ ts, t.startsWith ['.'] = true := by
  obtain ⟨us, -, rfl⟩ := h
  intro t ht
  obtain ⟨u, -, rfl⟩ := List.mem_map.1 ht
  exact startsWith_dotted u

theorem Tells.gives (h : Tells data entries s) (hs : s.IsNormal) (project : Path) :
    Gives data project entries
      ⟨s.language, s.tool, s.subcommand, s.timeout, s.skipToken, s.docsDir, s.suffixes⟩ where
  language := .found h.language (standsForText_textValue hs.language)
  tool := .found h.tool (standsForText_textValue hs.tool)
  subcommand := .found h.subcommand (standsForText_textValue hs.subcommand)
  skipToken := .found h.skipToken (standsForText_textValue hs.skipToken)
  timeout := .found h.timeout ⟨rfl, nofun, hs.timeout⟩
  docsDir := .found h.docsDir (standsForDocsDir_textValue hs.docsDir data project)
  suffixes :=
    let ⟨_, hlook, hr⟩ := h.suffixes
    .found hlook (standsForSuffixes_list hr hs.suffixes)

theorem ofData_of_written (hs : s.IsNormal) (h : Written data s) (project path : Path) :
    ofData project path data = .ok s := by
  obtain ⟨entries, hsection, htells⟩ := h
  exact ofData_eq_ok_iff.2 ⟨entries, _, hsection, htells.gives hs project, rfl⟩

theorem isNormal_default (hproject : project.IsRooted) : (default project).IsNormal := by
  have hscaf : Text.IsTrimmed "scaf" := ⟨⟨'s', by decide⟩, rfl⟩
  have hfmt : Text.IsTrimmed "fmt" := ⟨⟨'f', by decide⟩, rfl⟩
  have hskip : Text.IsTrimmed "skip" := ⟨⟨'s', by decide⟩, rfl⟩
  have hdocs : (defaultDocsDir project).IsRooted := hproject.join (Path.isNormal_ofText _)
  have hsuffixes : ∀ t ∈ ([".md", ".mdx"] : List Text), t.startsWith ['.'] = true := by decide
  exact ⟨hscaf, hscaf, hfmt, hskip, .inl (isPositive_timeout_default project), hdocs, hsuffixes⟩

theorem GivenAt.getD {α : Type} {stands : Value → α → Prop} {given : Option α} {a : α}
    {P : α → Prop} (h : GivenAt entries key stands given) (hstands : ∀ {v b}, stands v b → P b)
    (ha : P a) : P (given.getD a) := by
  cases h with
  | missing => exact ha
  | found _ hb => exact hstands hb

theorem isNormal_ofData (hproject : project.IsRooted) (h : ofData project path data = .ok s) :
    s.IsNormal := by
  obtain ⟨entries, o, -, hgives, rfl⟩ := ofData_eq_ok_iff.1 h
  have hdefault := isNormal_default hproject
  exact {
    language := hgives.language.getD StandsForText.isTrimmed hdefault.language
    tool := hgives.tool.getD StandsForText.isTrimmed hdefault.tool
    subcommand := hgives.subcommand.getD StandsForText.isTrimmed hdefault.subcommand
    skipToken := hgives.skipToken.getD StandsForText.isTrimmed hdefault.skipToken
    timeout := hgives.timeout.getD (fun h => h.2.2) hdefault.timeout
    docsDir := hgives.docsDir.getD (StandsForDocsDir.isRooted hproject) hdefault.docsDir
    suffixes := hgives.suffixes.getD StandsForSuffixes.startsWith hdefault.suffixes }

/-- Loading brings settings into a form that loading keeps, however they are written again. -/
theorem ofData_written (hproject : project.IsRooted) :
    (∀ path data s, ofData project path data = .ok s →
      ∀ path' data', Written data' s → ofData project path' data' = .ok s) ∧
    (∀ s : Settings, s.IsNormal → ∀ path data, Written data s → ofData project path data = .ok s) ∧
    (∀ s : Settings, Written s.flat s ∧ Written s.nested s) ∧
    ∀ files file bytes data, files.read (source project file) = .ok bytes →
      Data.ofInput (.ofBytes bytes) = .ok data →
        load files project none file = ofData project (source project file) data := by
  refine ⟨?_, ?_, fun s => ⟨written_flat s, written_nested s⟩, ?_⟩
  · intro path data s h path' data' hwritten
    exact ofData_of_written (isNormal_ofData hproject h) hwritten project path'
  · intro s hs path data hwritten
    exact ofData_of_written hs hwritten project path
  · intro files file bytes data hread hdata
    rw [load_of_read hread, ofContent, hdata]
    exact bind_pure _

/-- Data that tells settings in other words than they are written in. -/
def unevenData : Data where
  root := .collection 0
  collections := #[
    .map [(textValue "validate", .collection 1)],
    .map [(textValue "language", textValue " scaf\n"), (textValue "timeout_s", .int 12),
      (textValue "docs_dir", textValue "site//./docs/.."), (textValue "suffixes", .collection 2)],
    .list [textValue "md", textValue ".x"]]

def unevenSettings : Settings where
  language := "scaf"
  tool := "scaf"
  subcommand := "fmt"
  timeout := .ofInt 12
  skipToken := "skip"
  docsDir := ⟨1, ["project", "site", "docs", ".."]⟩
  suffixes := [".md", ".x"]

theorem ofData_written_unevenData :
    ofData ⟨1, ["project"]⟩ ⟨0, ["c.yaml"]⟩ unevenData = .ok unevenSettings ∧
      ∀ path, ofData ⟨1, ["project"]⟩ path unevenSettings.flat = .ok unevenSettings ∧
        ofData ⟨1, ["project"]⟩ path unevenSettings.nested = .ok unevenSettings := by
  have hproject : Path.IsRooted ⟨1, ["project"]⟩ := ⟨Path.isNormal_ofText "/project", rfl⟩
  have hload : ofData ⟨1, ["project"]⟩ ⟨0, ["c.yaml"]⟩ unevenData = .ok unevenSettings := by
    decide +kernel
  obtain ⟨hagain, -, hwritten, -⟩ := ofData_written hproject
  refine ⟨hload, fun path => ⟨?_, ?_⟩⟩
  · exact hagain _ _ _ hload path _ (hwritten _).1
  · exact hagain _ _ _ hload path _ (hwritten _).2

end Settings

end DocSamples
