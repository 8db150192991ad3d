import DocSamples.CommandLine.Program
import DocSamples.Proofs.Loading

namespace DocSamples

open Yaml (Data Value)

namespace Yaml.Problem

/-- A fault in the bytes or in the value of a scalar. One in the notation, or one that the reader
does not foresee, is none. -/
inductive IsValueFault : Problem → Prop
  | undecodable (d : Utf8.Defect) : IsValueFault (.undecodable d)
  | codePoint : IsValueFault .codePoint
  | numeral (e : NumeralError) : IsValueFault (.numeral e)
  | notFloat (t : Points) : IsValueFault (.notFloat t)
  | date (f : DateFault) : IsValueFault (.date f)

end Yaml.Problem

namespace LoadError

/-- An error that is reported and tells of what a file says, not of its absence. -/
def IsInvalid (e : LoadError) : Prop := e.isReported = true ∧ ∀ path, e ≠ .notFound path

theorem isInvalid_yaml_iff {p : Yaml.Problem} : (yaml p).IsInvalid ↔ p.IsValueFault := by
  cases p <;> first
    | exact iff_of_true ⟨rfl, nofun⟩ (by constructor)
    | exact iff_of_false (fun h => nomatch h.1) nofun

theorem not_isInvalid_timeoutTooLarge : ¬ timeoutTooLarge.IsInvalid := fun h => nomatch h.1

theorem isInvalid_timeoutNotNumber (shown : Text) : (timeoutNotNumber shown).IsInvalid :=
  ⟨rfl, nofun⟩

theorem isInvalid_unshowable_iff {e : Yaml.Unshowable} :
    (unshowable e).IsInvalid ↔ e ≠ .tooDeep := by
  cases e with
  | longNumber e => exact iff_of_true ⟨rfl, nofun⟩ nofun
  | tooDeep => exact iff_of_false (fun h => nomatch h.1) (fun h => h rfl)

end LoadError

namespace Settings

/-- A part of the loading ends in an error that tells of nothing the file says. -/
def Escapes {α : Type} (x : Except LoadError α) (e : LoadError) : Prop :=
  x = .error e ∧ ¬ e.IsInvalid

section

variable {α β : Type} {a : α} {e e' : LoadError} {x : Except LoadError α}
  {f : α → Except LoadError β}

theorem not_escapes_ok : ¬ Escapes (.ok a : Except LoadError α) e := nofun

theorem not_escapes_pure : ¬ Escapes (pure a : Except LoadError α) e := nofun

theorem not_escapes_error (h : e'.IsInvalid) : ¬ Escapes (.error e' : Except LoadError α) e := by
  rintro ⟨he, hinvalid⟩
  cases he
  exact hinvalid h

theorem escapes_error_iff (h : ¬ e'.IsInvalid) :
    Escapes (.error e' : Except LoadError α) e ↔ e = e' := by
  constructor
  · rintro ⟨he, -⟩
    cases he
    rfl
  · rintro rfl
    exact ⟨rfl, h⟩

theorem escapes_bind_iff :
    Escapes (x >>= f) e ↔ Escapes x e ∨ ∃ a, x = .ok a ∧ Escapes (f a) e := by
  cases x with
  | error e' =>
    change Escapes (.error e') e ↔ _
    simp [Escapes]
  | ok a =>
    change Escapes (f a) e ↔ _
    simp [not_escapes_ok]

theorem forall_not_escapes_iff :
    (∀ e, ¬ Escapes x e) ↔ (∃ a, x = .ok a) ∨ ∃ e, x = .error e ∧ e.IsInvalid := by
  cases x with
  | error e => simp [Escapes]
  | ok a => simp [not_escapes_ok]

end

variable {α : Type} {entries : Entries} {key : Text} {data : Data} {v : Value} {e : LoadError}
  {files : FileTree} {project path : Path} {environment file : Option Text} {bytes : Bytes}

theorem not_escapes_textEntry : ¬ Escapes (textEntry entries key) e := by
  rintro ⟨he, hinvalid⟩
  rw [error_textEntry he] at hinvalid
  exact hinvalid ⟨rfl, nofun⟩

theorem not_escapes_suffixesEntry : ¬ Escapes (suffixesEntry data entries) e := by
  unfold suffixesEntry
  split
  · exact not_escapes_ok
  · split
    · exact not_escapes_ok
    · exact not_escapes_error ⟨rfl, nofun⟩

theorem escapes_unshowable_iff {u : Yaml.Unshowable} :
    Escapes (.error (.unshowable u) : Except LoadError α) e ↔
      u = .tooDeep ∧ e = .unshowable .tooDeep := by
  cases u with
  | longNumber n =>
    exact iff_of_false (not_escapes_error (LoadError.isInvalid_unshowable_iff.2 nofun)) nofun
  | tooDeep =>
    have hvalid := fun h => LoadError.isInvalid_unshowable_iff.1 h rfl
    rw [escapes_error_iff hvalid]
    simp

theorem escapes_number_iff :
    Escapes (number data v) e ↔
      IsTooLarge v ∧ e = .timeoutTooLarge ∨
      (number? v = none ∧ data.show? v = .error .tooDeep) ∧ e = .unshowable .tooDeep := by
  by_cases hlarge : IsTooLarge v
  · have hnumber : number? v ≠ none := by
      cases hlarge
      rw [number?]
      exact Option.some_ne_none _
    rw [number_of_isTooLarge hlarge, escapes_error_iff LoadError.not_isInvalid_timeoutTooLarge]
    simp [hlarge, hnumber]
  · cases hnum : number? v with
    | some x =>
      rw [number_of_some hnum hlarge]
      exact iff_of_false not_escapes_ok (by simp [hlarge])
    | none =>
      rw [number_of_none hnum]
      simp only [hlarge, false_and, false_or, true_and]
      cases data.show? v with
      | ok shown =>
        have hnot : ¬ Escapes (.error (.timeoutNotNumber shown) : Except LoadError Double) e :=
          not_escapes_error (LoadError.isInvalid_timeoutNotNumber shown)
        simp [hnot]
      | error u => rw [escapes_unshowable_iff, Except.error.injEq]

theorem escapes_timeoutEntry_iff :
    Escapes (timeoutEntry data entries) e ↔
      ∃ v, Value.lookup? entries "timeout_s" = some v ∧
        (IsTooLarge v ∧ e = .timeoutTooLarge ∨
          (number? v = none ∧ data.show? v = .error .tooDeep) ∧ e = .unshowable .tooDeep) := by
  cases hv : Value.lookup? entries "timeout_s" with
  | none =>
    rw [timeoutEntry_of_none hv]
    exact iff_of_false not_escapes_ok nofun
  | some v =>
    have hsign : ∀ x : Double, ¬ Escapes
        (if x.isNonPositive then .error (.timeoutNotPositive x) else .ok (some x)) e := by
      intro x
      split
      · exact not_escapes_error ⟨rfl, nofun⟩
      · exact not_escapes_ok
    rw [timeoutEntry_of_some hv, escapes_bind_iff, escapes_number_iff]
    simp [hsign]

theorem escapes_docsDirEntry_iff :
    Escapes (docsDirEntry data project entries) e ↔
      ∃ v, Value.lookup? entries "docs_dir" = some v ∧
        data.toText? v = .error .tooDeep ∧ e = .unshowable .tooDeep := by
  unfold docsDirEntry
  cases Value.lookup? entries "docs_dir" with
  | none => exact iff_of_false not_escapes_ok nofun
  | some v =>
    simp only [Option.some.injEq, exists_eq_left']
    cases data.toText? v with
    | ok t => exact iff_of_false not_escapes_ok nofun
    | error u => rw [escapes_unshowable_iff, Except.error.injEq]

def textKeys : List Text := ["language", "tool", "subcommand", "skip_token"]

theorem escapes_overridesOf_iff :
    Escapes (overridesOf data project entries) e ↔
      (∀ key ∈ textKeys, IsText entries key) ∧
        (Escapes (timeoutEntry data entries) e ∨
          IsTimeout entries ∧ Escapes (docsDirEntry data project entries) e) := by
  unfold overridesOf
  simp only [escapes_bind_iff, not_escapes_textEntry, not_escapes_suffixesEntry, not_escapes_pure,
    false_or, or_false, and_false, exists_false, exists_and_right, exists_textEntry_iff,
    exists_timeoutEntry_iff]
  simp [textKeys, and_assoc]

theorem not_escapes_entriesOf : ¬ Escapes (entriesOf data path) e := by
  unfold entriesOf
  split
  · exact not_escapes_ok
  · split
    · exact not_escapes_error ⟨rfl, nofun⟩
    · split
      · exact not_escapes_ok
      · split
        · exact not_escapes_ok
        · exact not_escapes_error ⟨rfl, nofun⟩

theorem escapes_mapError_yaml_iff {x : Except Yaml.Problem α} :
    Escapes (x.mapError .yaml) e ↔ ∃ p, x = .error p ∧ ¬ p.IsValueFault ∧ e = .yaml p := by
  cases x with
  | ok a => exact iff_of_false not_escapes_ok nofun
  | error p =>
    by_cases hp : p.IsValueFault
    · exact iff_of_false (not_escapes_error (LoadError.isInvalid_yaml_iff.2 hp)) (by simp [hp])
    · change Escapes (.error (.yaml p)) e ↔ _
      rw [escapes_error_iff (mt LoadError.isInvalid_yaml_iff.1 hp)]
      simp [hp]

/-- The content of a file has a mapping with settings whose texts are as they should be. -/
structure Holds (path : Path) (bytes : Bytes) (data : Data) (entries : Entries) : Prop where
  data_eq : Data.ofInput (.ofBytes bytes) = .ok data
  entries_eq : entriesOf data path = .ok entries
  texts : ∀ key ∈ textKeys, IsText entries key

/-- What keeps settings from being loaded without being reported: a file that is not read as data,
though not for the value of a scalar, a timeout that is too large, or a value to be shown that is
nested too deep. -/
inductive Breaks (path : Path) (bytes : Bytes) : LoadError → Prop
  | unread {p : Yaml.Problem} (h : Data.ofInput (.ofBytes bytes) = .error p)
      (hp : ¬ p.IsValueFault) : Breaks path bytes (.yaml p)
  | timeoutTooLarge {data : Data} {entries : Entries} {v : Value}
      (h : Holds path bytes data entries) (hv : Value.lookup? entries "timeout_s" = some v)
      (hlarge : IsTooLarge v) : Breaks path bytes .timeoutTooLarge
  | timeoutTooDeep {data : Data} {entries : Entries} {v : Value}
      (h : Holds path bytes data entries) (hv : Value.lookup? entries "timeout_s" = some v)
      (hnumber : number? v = none) (hdeep : data.show? v = .error .tooDeep) :
      Breaks path bytes (.unshowable .tooDeep)
  | docsDirTooDeep {data : Data} {entries : Entries} {v : Value}
      (h : Holds path bytes data entries) (htimeout : IsTimeout entries)
      (hv : Value.lookup? entries "docs_dir" = some v)
      (hdeep : data.toText? v = .error .tooDeep) : Breaks path bytes (.unshowable .tooDeep)

theorem escapes_ofContent_iff :
    Escapes (ofContent project path bytes) e ↔ Breaks path bytes e := by
  unfold ofContent ofData
  simp only [escapes_bind_iff, escapes_mapError_yaml_iff, not_escapes_entriesOf, not_escapes_pure,
    false_or, or_false, and_false, exists_false, escapes_overridesOf_iff, escapes_timeoutEntry_iff,
    escapes_docsDirEntry_iff, mapError_eq_ok_iff]
  constructor
  · rintro (⟨p, h, hp, rfl⟩ | ⟨data, hdata, entries, hentries, htexts, hrest⟩)
    · exact .unread h hp
    · have hholds : Holds path bytes data entries := ⟨hdata, hentries, htexts⟩
      rcases hrest with ⟨v, hv, ⟨hlarge, rfl⟩ | ⟨⟨hnumber, hdeep⟩, rfl⟩⟩ |
        ⟨htimeout, v, hv, hdeep, rfl⟩
      · exact .timeoutTooLarge hholds hv hlarge
      · exact .timeoutTooDeep hholds hv hnumber hdeep
      · exact .docsDirTooDeep hholds htimeout hv hdeep
  · intro h
    cases h with
    | unread h hp => exact .inl ⟨_, h, hp, rfl⟩
    | timeoutTooLarge h hv hlarge =>
      exact .inr ⟨_, h.data_eq, _, h.entries_eq, h.texts, .inl ⟨_, hv, .inl ⟨hlarge, rfl⟩⟩⟩
    | timeoutTooDeep h hv hnumber hdeep =>
      exact .inr ⟨_, h.data_eq, _, h.entries_eq, h.texts,
        .inl ⟨_, hv, .inr ⟨⟨hnumber, hdeep⟩, rfl⟩⟩⟩
    | docsDirTooDeep h htimeout hv hdeep =>
      exact .inr ⟨_, h.data_eq, _, h.entries_eq, h.texts, .inr ⟨htimeout, _, hv, hdeep, rfl⟩⟩

theorem escapes_load_iff (h : files.read (source project file) = .ok bytes) :
    Escapes (load files project environment file) e ↔ Breaks (source project file) bytes e := by
  rw [load_of_read h, escapes_bind_iff, escapes_ofContent_iff]
  simp only [not_escapes_pure, and_false, exists_false, or_false]

theorem Breaks.isReported_eq_false (h : Breaks path bytes e) : e.isReported = false := by
  cases h with
  | @unread p _ hp =>
    cases p with
    | undecodable | codePoint | numeral | notFloat | date => exact absurd (by constructor) hp
    | _ => rfl
  | timeoutTooLarge | timeoutTooDeep | docsDirTooDeep => rfl

end Settings

namespace CommandLine

open Settings (source load Breaks)

variable {host : Host} {o : Options} {words : List Text} {e : LoadError} {bytes : Bytes}
  {file : Option Text} {α : Type}

theorem exit_ofLine_ne_unloadable (status : Nat) (line : Except LongNumber Text) :
    (Conclusion.ofLine status line).exit ≠ .unloadable e := by
  cases line <;> exact nofun

theorem exit_concludeReports_ne_unloadable (json verbose : Bool) (rs : List Report) :
    (concludeReports json verbose rs).exit ≠ .unloadable e := by
  unfold concludeReports
  cases json with
  | true => exact exit_ofLine_ne_unloadable _ _
  | false =>
    simp only [Bool.false_eq_true, if_false]
    split <;> exact nofun

theorem exit_conclude_ne_unloadable {run : Run Workspace α} {conclusion : α → Conclusion}
    (h : ∀ a, (conclusion a).exit ≠ .unloadable e) (verbose : Bool) :
    (conclude host verbose run conclusion).exit ≠ .unloadable e := by
  unfold conclude
  split
  split
  · exact nofun
  · exact h _

theorem exit_runSnippet_ne_unloadable (check : Checker Workspace) (source : Text) :
    (runSnippet host check o source).exit ≠ .unloadable e := by
  unfold runSnippet
  split
  · exact nofun
  · exact nofun
  · split
    · exact exit_conclude_ne_unloadable (fun _ => exit_ofLine_ne_unloadable _ _) _
    · exact nofun
    · exact exit_conclude_ne_unloadable (fun _ => exit_ofLine_ne_unloadable _ _) _

theorem exit_runDocuments_ne_unloadable (check : Checker Workspace) (settings : Settings) :
    (runDocuments host check settings o).exit ≠ .unloadable e := by
  simp only [runDocuments]
  split
  · exact nofun
  · exact nofun
  · exact exit_conclude_ne_unloadable (fun _ => exit_concludeReports_ne_unloadable _ _ _) _

/-- Only the loading of the settings ends the program as unloadable. -/
theorem exit_run_eq_unloadable_iff (ho : Options.ofWords words = .ok o) :
    (run host words).exit = .unloadable e ↔
      load host.files host.project host.environment (o.config.bind Given.value?) = .error e ∧
        e.isReported = false := by
  rw [run, runOn, ho]
  simp only [runOptions]
  split
  · rename_i e' he
    rw [he]
    split
    · rename_i hreported
      refine iff_of_false nofun ?_
      rintro ⟨h, hnot⟩
      cases h
      rw [hreported] at hnot
      contradiction
    · rename_i hreported
      constructor
      · intro h
        cases h
        exact ⟨rfl, Bool.eq_false_iff.2 hreported⟩
      · rintro ⟨h, -⟩
        cases h
        rfl
  · rename_i loaded hload
    rw [hload]
    refine iff_of_false ?_ nofun
    split
    · exact exit_runSnippet_ne_unloadable _ _
    · exact nofun
    · exact exit_runDocuments_ne_unloadable _ _

theorem run_of_isReported (ho : Options.ofWords words = .ok o)
    (hload : load host.files host.project host.environment (o.config.bind Given.value?) = .error e)
    (he : e.isReported = true) :
    run host words = respond host (.status 2) [] (unlines ["Error: " ++ e.message]) := by
  simp only [run, runOn, ho, runOptions, hload, he, if_true]

/-- Settings are loaded from a file that is there, or what is wrong in it is reported, unless the
content breaks the loading, and the program with it. -/
theorem unloadable_iff_breaks
    (hread : host.files.read (source host.project file) = .ok bytes) :
    (((∃ s, load host.files host.project host.environment file = .ok s) ∨
        ∃ e, load host.files host.project host.environment file = .error e ∧ e.IsInvalid) ↔
      ∀ e, ¬ Breaks (source host.project file) bytes e) ∧
    ∀ words o, Options.ofWords words = .ok o → o.config.bind Given.value? = file →
      (∀ e, (run host words).exit = .unloadable e ↔
        Breaks (source host.project file) bytes e) ∧
      ∀ e, load host.files host.project host.environment file = .error e → e.IsInvalid →
        run host words = respond host (.status 2) [] (unlines ["Error: " ++ e.message]) := by
  have hescapes : ∀ e, Settings.Escapes (load host.files host.project host.environment file) e ↔
      Breaks (source host.project file) bytes e := fun _ => Settings.escapes_load_iff hread
  constructor
  · rw [← Settings.forall_not_escapes_iff]
    exact forall_congr' fun e => not_congr (hescapes e)
  · rintro words o ho rfl
    constructor
    · intro e
      rw [exit_run_eq_unloadable_iff ho, ← hescapes]
      constructor
      · rintro ⟨hload, hnot⟩
        refine ⟨hload, fun hinvalid => ?_⟩
        rw [hinvalid.1] at hnot
        contradiction
      · intro h
        exact ⟨h.1, ((hescapes e).1 h).isReported_eq_false⟩
    · intro e hload hinvalid
      exact run_of_isReported ho hload hinvalid.1

def settingsHost (content : Text) : Host where
  files := ⟨[(["c.yaml"], .file (Utf8.encode content))], []⟩
  project := ⟨1, ["project"]⟩
  environment := none
  input := []
  scratch := ⟨1, ["tmp"]⟩
  scratchName _ := "x"
  runner _ _ := ⟨.notFound, false⟩

theorem read_settingsHost (content : Text) :
    (settingsHost content).files.read (source (settingsHost content).project (some "c.yaml")) =
      .ok (Utf8.encode content) := by
  rfl

/-- Neither a list without an end nor a timeout of 310 digits is reported. -/
theorem run_settingsHost_unloadable :
    (run (settingsHost "[") ["--config", "c.yaml"]).exit =
      .unloadable (.yaml (.malformed .content)) ∧
    (run (settingsHost ("timeout_s: 1" ++ List.replicate 309 '0')) ["--config", "c.yaml"]).exit =
      .unloadable .timeoutTooLarge := by
  decide +kernel

theorem unloadable_iff_breaks_listWithoutEnd :
    Breaks (.ofText "c.yaml") (Utf8.encode "[") (.yaml (.malformed .content)) ∧
    (∀ s, load (settingsHost "[").files ⟨1, ["project"]⟩ none (some "c.yaml") ≠ .ok s) ∧
    ∃ e, (run (settingsHost "[") ["--config", "c.yaml"]).exit = .unloadable e := by
  obtain ⟨hload, hrun⟩ := unloadable_iff_breaks (read_settingsHost "[")
  have hbreaks : Breaks (.ofText "c.yaml") (Utf8.encode "[") (.yaml (.malformed .content)) :=
    .unread rfl nofun
  refine ⟨hbreaks, ?_, ?_⟩
  · intro s hs
    exact hload.1 (.inl ⟨s, hs⟩) _ hbreaks
  · obtain ⟨hexit, -⟩ := hrun ["--config", "c.yaml"] { config := some (.value "c.yaml") } rfl rfl
    exact ⟨_, (hexit _).2 hbreaks⟩

end CommandLine

end DocSamples
