import DocSamples.Proofs.CommandOptions
import DocSamples.Proofs.Directories
import DocSamples.Proofs.Doubles
import DocSamples.Proofs.Trimming
import DocSamples.Settings.Loading

namespace DocSamples

open Yaml (Data Value)

theorem mapError_eq_ok_iff {ε δ α : Type} {x : Except ε α} {f : ε → δ} {a : α} :
    x.mapError f = .ok a ↔ x = .ok a := by
  cases x with
  | error e => exact iff_of_false nofun nofun
  | ok b =>
    change Except.ok b = .ok a ↔ _
    rw [Except.ok.injEq, Except.ok.injEq]

namespace Points

variable {ps : Points}

theorem trim_ne_nil_iff : ps.trim ≠ [] ↔ ∃ p ∈ ps, p.isBlank = false := trimmed_ne_nil_iff

theorem nonBlank_toText (h : ∃ p ∈ ps, p.isBlank = false) : ps.toText.NonBlank := by
  obtain ⟨p, hp, hblank⟩ := h
  cases p with
  | char c => exact ⟨c, List.mem_flatMap.2 ⟨.char c, hp, List.mem_cons_self⟩, hblank⟩
  | surrogate n =>
    exact ⟨'\x00', List.mem_flatMap.2 ⟨.surrogate n, hp, List.mem_cons_self⟩, by decide⟩

theorem nonBlank_toText_trim (h : ps.trim ≠ []) : ps.trim.toText.NonBlank :=
  nonBlank_toText (exists_mem_trimmed_iff.2 (trim_ne_nil_iff.1 h))

end Points

namespace Settings

variable {entries : Entries} {key : Text} {data : Data} {v : Value} {x : Double}
  {files : FileTree} {project path : Path} {environment file : Option Text} {bytes : Bytes}
  {s : Settings} {o : Overrides} {e : LoadError} {α : Type} {stands : Value → α → Prop}
  {given : Option α} {a : α}

/-- What entries give for a key: nothing where it is missing, or what its value stands for. -/
inductive GivenAt (entries : Entries) (key : Text) (stands : Value → α → Prop) : Option α → Prop
  | missing (h : Value.lookup? entries key = none) : GivenAt entries key stands none
  | found {v : Value} {a : α} (h : Value.lookup? entries key = some v) (ha : stands v a) :
      GivenAt entries key stands (some a)

theorem givenAt_iff_of_none (h : Value.lookup? entries key = none) :
    GivenAt entries key stands given ↔ given = none := by
  constructor
  · rintro (- | ⟨hv, -⟩)
    · rfl
    · cases h.symm.trans hv
  · rintro rfl
    exact .missing h

theorem givenAt_iff_of_some (h : Value.lookup? entries key = some v) :
    GivenAt entries key stands given ↔ ∃ a, given = some a ∧ stands v a := by
  constructor
  · rintro (hv | ⟨hv, ha⟩)
    · cases h.symm.trans hv
    · cases h.symm.trans hv
      exact ⟨_, rfl, ha⟩
  · rintro ⟨a, rfl, ha⟩
    exact .found h ha

theorem exists_givenAt_iff :
    (∃ given, GivenAt entries key stands given) ↔
      ∀ v, Value.lookup? entries key = some v → ∃ a, stands v a := by
  cases hv : Value.lookup? entries key with
  | none => exact iff_of_true ⟨none, .missing hv⟩ nofun
  | some v =>
    simp only [givenAt_iff_of_some hv, Option.some.injEq, forall_eq']
    constructor
    · rintro ⟨given, a, rfl, ha⟩
      exact ⟨a, ha⟩
    · rintro ⟨a, ha⟩
      exact ⟨some a, a, rfl, ha⟩

theorem GivenAt.exists_of_some (h : GivenAt entries key stands (some a)) :
    ∃ v, Value.lookup? entries key = some v ∧ stands v a := by
  cases h with
  | found h ha => exact ⟨_, h, ha⟩

/-- A text that is not blank stands for what is between the blanks at its ends. -/
def StandsForText (v : Value) (t : Text) : Prop :=
  ∃ ps : Points, v = .text ps ∧ ps.trim ≠ [] ∧ t = ps.trim.toText

theorem textEntry_eq_ok_iff {given : Option Text} :
    textEntry entries key = .ok given ↔ GivenAt entries key StandsForText given := by
  unfold textEntry
  cases hv : Value.lookup? entries key with
  | none =>
    rw [givenAt_iff_of_none hv, Except.ok.injEq]
    exact eq_comm
  | some v =>
    rw [givenAt_iff_of_some hv]
    unfold StandsForText
    cases v with
    | text ps =>
      by_cases hne : ps.trim = []
      · simp [hne]
      · simp [hne, @eq_comm _ given]
    | _ => simp

/-- A key that is not there or has a text that is not blank. -/
def IsText (entries : Entries) (key : Text) : Prop :=
  ∀ v, Value.lookup? entries key = some v → ∃ t : Points, v = .text t ∧ t.trim ≠ []

theorem exists_givenText_iff :
    (∃ given, GivenAt entries key StandsForText given) ↔ IsText entries key := by
  rw [exists_givenAt_iff]
  refine forall_congr' fun v => imp_congr_right fun _ => ⟨?_, ?_⟩
  · rintro ⟨t, ps, rfl, hne, -⟩
    exact ⟨ps, rfl, hne⟩
  · rintro ⟨ps, rfl, hne⟩
    exact ⟨_, ps, rfl, hne, rfl⟩

theorem exists_textEntry_iff :
    (∃ given, textEntry entries key = .ok given) ↔ IsText entries key := by
  simp only [textEntry_eq_ok_iff, exists_givenText_iff]

theorem error_textEntry (h : textEntry entries key = .error e) : e = .blankText key := by
  unfold textEntry at h
  split at h
  · contradiction
  · split at h
    · cases h
      rfl
    · contradiction
  · cases h
    rfl

theorem nonBlank_of_textEntry {t : Text} (h : textEntry entries key = .ok (some t)) :
    t.NonBlank := by
  obtain ⟨v, -, ps, -, hne, rfl⟩ := (textEntry_eq_ok_iff.1 h).exists_of_some
  exact Points.nonBlank_toText_trim hne

/-- A whole number at least as close to 2¹⁰²⁴ as to the greatest double. -/
inductive IsTooLarge : Value → Prop
  | int {i : Int} (h : Nat.pow 2 1024 ≤ i.natAbs + Nat.pow 2 970) : IsTooLarge (.int i)

theorem isTooLarge_iff :
    IsTooLarge v ↔ ∃ i, v = .int i ∧ (Double.ofInt i).isInfinite = true := by
  constructor
  · rintro ⟨h⟩
    exact ⟨_, rfl, Double.isInfinite_ofInt_iff.2 h⟩
  · rintro ⟨i, rfl, h⟩
    exact .int (Double.isInfinite_ofInt_iff.1 h)

theorem number_of_isTooLarge (h : IsTooLarge v) : number data v = .error .timeoutTooLarge := by
  obtain ⟨i, hv, hinfinite⟩ := isTooLarge_iff.1 h
  have hnum : number? v = some (.ofInt i) := by rw [hv, number?]
  unfold number
  rw [hnum]
  -- The double stays unknown from here on, since its value would take too long to compute.
  generalize Double.ofInt i = x at hinfinite
  subst hv
  cases x with
  | infinite negative => rfl
  | nan | finite => exact nomatch hinfinite

theorem number_of_some (hx : number? v = some x) (h : ¬ IsTooLarge v) : number data v = .ok x := by
  unfold number
  rw [hx]
  split
  · rename_i i negative hi
    cases hi
    refine absurd (isTooLarge_iff.2 ⟨i, rfl, ?_⟩) h
    rw [Option.some.inj hx]
    rfl
  · rename_i y hy
    cases hy
    rfl
  · contradiction

theorem number_of_none (h : number? v = none) :
    number data v =
      match data.show? v with
      | .ok shown => .error (.timeoutNotNumber shown)
      | .error e => .error (.unshowable e) := by
  unfold number
  rw [h]
  generalize data.show? v = shown
  cases v <;> rfl

theorem number_eq_ok_iff :
    number data v = .ok x ↔ number? v = some x ∧ ¬ IsTooLarge v := by
  by_cases hlarge : IsTooLarge v
  · rw [number_of_isTooLarge hlarge]
    exact iff_of_false nofun fun h => h.2 hlarge
  · cases hnum : number? v with
    | none =>
      rw [number_of_none hnum]
      split <;> simp
    | some y =>
      rw [number_of_some hnum hlarge]
      simp [hlarge]

theorem timeoutEntry_of_none (h : Value.lookup? entries "timeout_s" = none) :
    timeoutEntry data entries = .ok none := by
  rw [timeoutEntry, h]

theorem timeoutEntry_of_some (h : Value.lookup? entries "timeout_s" = some v) :
    timeoutEntry data entries =
      number data v >>= fun x =>
        if x.isNonPositive then .error (.timeoutNotPositive x) else .ok (some x) := by
  rw [timeoutEntry, h]
  apply bind_congr
  intro x
  split <;> rfl

def StandsForTimeout (v : Value) (x : Double) : Prop :=
  number? v = some x ∧ ¬ IsTooLarge v ∧ (x.IsPositive ∨ x = .nan)

theorem timeoutEntry_eq_ok_iff {given : Option Double} :
    timeoutEntry data entries = .ok given ↔
      GivenAt entries "timeout_s" StandsForTimeout given := by
  cases hv : Value.lookup? entries "timeout_s" with
  | none =>
    rw [timeoutEntry_of_none hv, givenAt_iff_of_none hv, Except.ok.injEq]
    exact eq_comm
  | some v =>
    rw [givenAt_iff_of_some hv, timeoutEntry_of_some hv]
    constructor
    · intro h
      obtain ⟨x, hx, h⟩ := exists_of_bind_eq_ok h
      obtain ⟨hnumber, hlarge⟩ := number_eq_ok_iff.1 hx
      split at h
      · contradiction
      · rename_i hpos
        cases h
        exact ⟨x, rfl, hnumber, hlarge, Double.isNonPositive_eq_false_iff.1
          (Bool.eq_false_iff.2 hpos)⟩
    · rintro ⟨x, rfl, hnumber, hlarge, hpos⟩
      rw [number_eq_ok_iff.2 ⟨hnumber, hlarge⟩]
      exact if_neg (Bool.eq_false_iff.1 (Double.isNonPositive_eq_false_iff.2 hpos))

def GivesTimeout (entries : Entries) (x : Double) : Prop :=
  ∃ v, Value.lookup? entries "timeout_s" = some v ∧ number? v = some x ∧ ¬ IsTooLarge v

/-- A timeout that is not there or stands for a number that is not zero or less. -/
def IsTimeout (entries : Entries) : Prop :=
  Value.lookup? entries "timeout_s" = none ∨
    ∃ x, GivesTimeout entries x ∧ (x.IsPositive ∨ x = .nan)

theorem timeoutEntry_eq_ok_some_iff :
    timeoutEntry data entries = .ok (some x) ↔
      GivesTimeout entries x ∧ (x.IsPositive ∨ x = .nan) := by
  rw [timeoutEntry_eq_ok_iff]
  constructor
  · intro h
    obtain ⟨v, hv, hnumber, hlarge, hpos⟩ := h.exists_of_some
    exact ⟨⟨v, hv, hnumber, hlarge⟩, hpos⟩
  · rintro ⟨⟨v, hv, hnumber, hlarge⟩, hpos⟩
    exact .found hv ⟨hnumber, hlarge, hpos⟩

theorem exists_givenTimeout_iff :
    (∃ given, GivenAt entries "timeout_s" StandsForTimeout given) ↔ IsTimeout entries := by
  constructor
  · rintro ⟨given, hv | ⟨hv, hnumber, hlarge, hpos⟩⟩
    · exact .inl hv
    · exact .inr ⟨_, ⟨_, hv, hnumber, hlarge⟩, hpos⟩
  · rintro (hv | ⟨x, ⟨v, hv, hnumber, hlarge⟩, hpos⟩)
    · exact ⟨none, .missing hv⟩
    · exact ⟨some x, .found hv ⟨hnumber, hlarge, hpos⟩⟩

theorem exists_timeoutEntry_iff :
    (∃ given, timeoutEntry data entries = .ok given) ↔ IsTimeout entries := by
  simp only [timeoutEntry_eq_ok_iff, exists_givenTimeout_iff]

def StandsForDocsDir (data : Data) (project : Path) (v : Value) (p : Path) : Prop :=
  ∃ t, data.toText? v = .ok t ∧ p = project.join (.ofText t)

def StandsForSuffixes (data : Data) (v : Value) (ts : List Text) : Prop :=
  ∃ us, listedTexts? data v = some us ∧ ts = us.map dotted

theorem docsDirEntry_eq_ok_iff {given : Option Path} :
    docsDirEntry data project entries = .ok given ↔
      GivenAt entries "docs_dir" (StandsForDocsDir data project) given := by
  unfold docsDirEntry
  cases hv : Value.lookup? entries "docs_dir" with
  | none =>
    rw [givenAt_iff_of_none hv, Except.ok.injEq]
    exact eq_comm
  | some v =>
    rw [givenAt_iff_of_some hv]
    unfold StandsForDocsDir
    dsimp only
    cases data.toText? v with
    | error e => simp
    | ok t => simp [@eq_comm _ given]

theorem suffixesEntry_eq_ok_iff {given : Option (List Text)} :
    suffixesEntry data entries = .ok given ↔
      GivenAt entries "suffixes" (StandsForSuffixes data) given := by
  unfold suffixesEntry
  cases hv : Value.lookup? entries "suffixes" with
  | none =>
    rw [givenAt_iff_of_none hv, Except.ok.injEq]
    exact eq_comm
  | some v =>
    rw [givenAt_iff_of_some hv]
    unfold StandsForSuffixes
    dsimp only
    cases listedTexts? data v with
    | none => simp
    | some us => simp [@eq_comm _ given]

/-- The settings that are given are those of the keys, each by its own rule. -/
theorem overridesOf_eq_ok_iff :
    overridesOf data project entries = .ok o ↔
      textEntry entries "language" = .ok o.language ∧
      textEntry entries "tool" = .ok o.tool ∧
      textEntry entries "subcommand" = .ok o.subcommand ∧
      textEntry entries "skip_token" = .ok o.skipToken ∧
      timeoutEntry data entries = .ok o.timeout ∧
      docsDirEntry data project entries = .ok o.docsDir ∧
      suffixesEntry data entries = .ok o.suffixes := by
  constructor
  · intro h
    obtain ⟨language, hlanguage, h⟩ := exists_of_bind_eq_ok h
    obtain ⟨tool, htool, h⟩ := exists_of_bind_eq_ok h
    obtain ⟨subcommand, hsubcommand, h⟩ := exists_of_bind_eq_ok h
    obtain ⟨skipToken, hskipToken, h⟩ := exists_of_bind_eq_ok h
    obtain ⟨timeout, htimeout, h⟩ := exists_of_bind_eq_ok h
    obtain ⟨docsDir, hdocsDir, h⟩ := exists_of_bind_eq_ok h
    obtain ⟨suffixes, hsuffixes, h⟩ := exists_of_bind_eq_ok h
    cases h
    exact ⟨hlanguage, htool, hsubcommand, hskipToken, htimeout, hdocsDir, hsuffixes⟩
  · rintro ⟨hlanguage, htool, hsubcommand, hskipToken, htimeout, hdocsDir, hsuffixes⟩
    unfold overridesOf
    rw [hlanguage, htool, hsubcommand, hskipToken, htimeout, hdocsDir, hsuffixes]
    rfl

/-- What entries give, each in the form that settings have. -/
structure Gives (data : Data) (project : Path) (entries : Entries) (o : Overrides) : Prop where
  language : GivenAt entries "language" StandsForText o.language
  tool : GivenAt entries "tool" StandsForText o.tool
  subcommand : GivenAt entries "subcommand" StandsForText o.subcommand
  skipToken : GivenAt entries "skip_token" StandsForText o.skipToken
  timeout : GivenAt entries "timeout_s" StandsForTimeout o.timeout
  docsDir : GivenAt entries "docs_dir" (StandsForDocsDir data project) o.docsDir
  suffixes : GivenAt entries "suffixes" (StandsForSuffixes data) o.suffixes

theorem overridesOf_eq_ok_iff_gives :
    overridesOf data project entries = .ok o ↔ Gives data project entries o := by
  rw [overridesOf_eq_ok_iff]
  simp only [textEntry_eq_ok_iff, timeoutEntry_eq_ok_iff, docsDirEntry_eq_ok_iff,
    suffixesEntry_eq_ok_iff]
  constructor
  · rintro ⟨hlanguage, htool, hsubcommand, hskipToken, htimeout, hdocsDir, hsuffixes⟩
    exact ⟨hlanguage, htool, hsubcommand, hskipToken, htimeout, hdocsDir, hsuffixes⟩
  · intro h
    exact ⟨h.language, h.tool, h.subcommand, h.skipToken, h.timeout, h.docsDir, h.suffixes⟩

/-- The mapping with the settings: none in data that is empty, the entry `validate`, or the
whole. -/
inductive IsSection (data : Data) : Entries → Prop
  | empty (hroot : data.root = .null) : IsSection data []
  | whole {entries : Entries} (hroot : entries? data data.root = some entries)
      (hnone : Value.lookup? entries "validate" = none) : IsSection data entries
  | entry {outer entries : Entries} {v : Value} (hroot : entries? data data.root = some outer)
      (hv : Value.lookup? outer "validate" = some v) (hentries : entries? data v = some entries) :
      IsSection data entries

theorem ne_null_of_entries? (h : entries? data v = some entries) : v ≠ .null := by
  rintro rfl
  cases h

theorem entriesOf_eq_ok_iff : entriesOf data path = .ok entries ↔ IsSection data entries := by
  unfold entriesOf
  constructor
  · intro h
    split at h
    · rename_i hnull
      cases h
      exact .empty hnull
    · split at h
      · contradiction
      · rename_i outer hroot
        split at h
        · rename_i hnone
          cases h
          exact .whole hroot hnone
        · rename_i v hv
          split at h
          · rename_i inner hinner
            cases h
            exact .entry hroot hv hinner
          · contradiction
  · intro h
    cases h with
    | empty hroot => exact if_pos hroot
    | whole hroot hnone =>
      rw [if_neg (ne_null_of_entries? hroot), hroot]
      dsimp only
      rw [hnone]
    | entry hroot hv hentries =>
      rw [if_neg (ne_null_of_entries? hroot), hroot]
      dsimp only
      rw [hv]
      dsimp only
      rw [hentries]

theorem ofData_eq_ok_iff :
    ofData project path data = .ok s ↔
      ∃ entries o, IsSection data entries ∧ Gives data project entries o ∧
        s = o.apply (default project) := by
  constructor
  · intro h
    obtain ⟨entries, hentries, h⟩ := exists_of_bind_eq_ok h
    obtain ⟨o, ho, h⟩ := exists_of_bind_eq_ok h
    cases h
    exact ⟨entries, o, entriesOf_eq_ok_iff.1 hentries, overridesOf_eq_ok_iff_gives.1 ho, rfl⟩
  · rintro ⟨entries, o, hsection, ho, rfl⟩
    rw [ofData, entriesOf_eq_ok_iff.2 hsection]
    change (overridesOf data project entries >>= _) = _
    rw [overridesOf_eq_ok_iff_gives.2 ho]
    rfl

def source (project : Path) (file : Option Text) : Path :=
  match file.filter (!·.isEmpty) with
  | some t => .ofText t
  | none => defaultFile project

def ofContent (project path : Path) (bytes : Bytes) : Except LoadError Settings := do
  ofData project path (← (Data.ofInput (.ofBytes bytes)).mapError LoadError.yaml)

theorem load_eq (files : FileTree) (project : Path) (environment file : Option Text) :
    load files project environment file = (do
      match ← (files.look (source project file)).mapError (.file (source project file)) with
      | some _ =>
        let s ← ofData project (source project file) (← readData files (source project file))
        return s.withEnvironment environment
      | none =>
        if (file.filter (!·.isEmpty)).isSome then throw (.notFound (source project file))
        return (default project).withEnvironment environment) := rfl

theorem readData_of_read (h : files.read path = .ok bytes) :
    readData files path = (Data.ofInput (.ofBytes bytes)).mapError .yaml := by
  rw [readData, h]
  rfl

theorem load_of_read (h : files.read (source project file) = .ok bytes)
    (environment : Option Text) :
    load files project environment file = do
      return (← ofContent project (source project file) bytes).withEnvironment environment := by
  obtain ⟨found, hlook⟩ := FileTree.look_of_read h
  rw [load_eq, hlook, ofContent, ← readData_of_read h]
  cases readData files (source project file) with
  | error e => rfl
  | ok data => rfl

end Settings

end DocSamples
