import DocSamples.Proofs.LoadFailures
import DocSamples.Proofs.ScratchRuns

namespace DocSamples

open Yaml (Data)

namespace Settings

variable {entries : Entries} {data : Data} {files : FileTree} {project path : Path}
  {environment file : Option Text} {bytes : Bytes} {s base : Settings} {o : Overrides}

/-- The entries of a file with settings, as far as it can be read. -/
def Lists (files : FileTree) (path : Path) (entries : Entries) : Prop :=
  ∃ bytes data, files.read path = .ok bytes ∧ Data.ofInput (.ofBytes bytes) = .ok data ∧
    entriesOf data path = .ok entries

theorem Lists.unique {entries' : Entries} (h : Lists files path entries)
    (h' : Lists files path entries') : entries = entries' := by
  obtain ⟨bytes, data, hread, hdata, hentries⟩ := h
  obtain ⟨bytes', data', hread', hdata', hentries'⟩ := h'
  cases hread.symm.trans hread'
  cases hdata.symm.trans hdata'
  exact Except.ok.inj (hentries.symm.trans hentries')

def GivesNan (files : FileTree) (path : Path) : Prop :=
  ∃ entries, Lists files path entries ∧ GivesTimeout entries .nan

/-- What the file of settings gives: nothing where there is none, which must not be asked for. -/
inductive FileGives (files : FileTree) (project : Path) (file : Option Text) : Overrides → Prop
  | nothing (hasked : file.filter (!·.isEmpty) = none)
      (h : files.look (source project file) = .ok none) : FileGives files project file {}
  | entries {bytes : Bytes} {data : Data} {entries : Entries} {given : Overrides}
      (hread : files.read (source project file) = .ok bytes)
      (hdata : Data.ofInput (.ofBytes bytes) = .ok data)
      (hsection : IsSection data entries) (h : Gives data project entries given) :
      FileGives files project file given

theorem exists_fileGives (h : load files project environment file = .ok s) :
    ∃ given, FileGives files project file given ∧
      s = (given.apply (default project)).withEnvironment environment := by
  rw [load_eq] at h
  obtain ⟨found, hfound, h⟩ := exists_of_bind_eq_ok h
  rw [mapError_eq_ok_iff] at hfound
  cases found with
  | none =>
    dsimp only at h
    split at h
    · contradiction
    · rename_i hasked
      cases h
      refine ⟨{}, .nothing (Option.not_isSome_iff_eq_none.1 hasked) hfound, ?_⟩
      rw [Overrides.apply_nothing]
  | some found =>
    obtain ⟨data, hread, h⟩ := exists_of_bind_eq_ok h
    obtain ⟨base, hbase, h⟩ := exists_of_bind_eq_ok h
    obtain ⟨bytes, hbytes, hdata⟩ := exists_of_bind_eq_ok hread
    obtain ⟨entries, given, hsection, hgiven, rfl⟩ := ofData_eq_ok_iff.1 hbase
    cases h
    rw [mapError_eq_ok_iff] at hbytes hdata
    exact ⟨given, .entries hbytes hdata hsection hgiven, rfl⟩

/-- Settings are those by default, where there is no file, or those that its entries replace. -/
theorem load_eq_ok (h : load files project environment file = .ok s) :
    ∃ o : Overrides, s = (o.apply (default project)).withEnvironment environment ∧
      ((∀ bytes, files.read (source project file) ≠ .ok bytes) ∧ o = {} ∨
        ∃ data entries, Lists files (source project file) entries ∧
          overridesOf data project entries = .ok o) := by
  obtain ⟨o, ho, hs⟩ := exists_fileGives h
  refine ⟨o, hs, ?_⟩
  cases ho with
  | nothing _ hlook =>
    refine .inl ⟨?_, rfl⟩
    intro bytes hread
    obtain ⟨found, hfound⟩ := FileTree.look_of_read hread
    cases hlook.symm.trans hfound
  | @entries bytes data entries _ hread hdata hsection hgives =>
    exact .inr ⟨data, entries, ⟨bytes, data, hread, hdata, entriesOf_eq_ok_iff.2 hsection⟩,
      overridesOf_eq_ok_iff_gives.2 hgives⟩

def environmentTool (environment : Option Text) : Option Text :=
  (environment.map Text.trim).filter (!·.isEmpty)

theorem withEnvironment_eq (environment : Option Text) (s : Settings) :
    s.withEnvironment environment =
      { s with tool := (environmentTool environment).getD s.tool } := by
  unfold withEnvironment environmentTool
  cases environment with
  | none => rfl
  | some t =>
    simp only [Option.getD_some, Option.map_some, Option.filter_some]
    cases t.trim <;> rfl

theorem timeout_withEnvironment (environment : Option Text) (s : Settings) :
    (s.withEnvironment environment).timeout = s.timeout := by
  rw [withEnvironment_eq]

theorem subcommand_withEnvironment (environment : Option Text) (s : Settings) :
    (s.withEnvironment environment).subcommand = s.subcommand := by
  rw [withEnvironment_eq]

theorem nonBlank_tool_withEnvironment (h : s.tool.NonBlank) (environment : Option Text) :
    (s.withEnvironment environment).tool.NonBlank := by
  simp only [withEnvironment]
  split
  · exact h
  · rename_i hne
    exact Text.nonBlank_trim_iff.2 (Text.trim_ne_nil_iff.1 (mt List.isEmpty_iff.2 hne))

theorem nonBlank_getD {given : Option Text} {t : Text}
    (h : given = none ∨ ∃ key, textEntry entries key = .ok given) (ht : t.NonBlank) :
    (given.getD t).NonBlank := by
  rcases h with rfl | ⟨key, h⟩
  · exact ht
  · cases given with
    | none => exact ht
    | some u => exact nonBlank_of_textEntry h

/-- The program and its subcommand that are loaded are not blank. -/
theorem nonBlank_of_load (h : load files project environment file = .ok s) :
    s.tool.NonBlank ∧ s.subcommand.NonBlank := by
  obtain ⟨o, rfl, ho⟩ := load_eq_ok h
  have hscaf : Text.NonBlank "scaf" := ⟨'s', by decide⟩
  have hfmt : Text.NonBlank "fmt" := ⟨'f', by decide⟩
  rw [subcommand_withEnvironment]
  rcases ho with ⟨-, rfl⟩ | ⟨data, entries, -, ho⟩
  · exact ⟨nonBlank_tool_withEnvironment hscaf _, hfmt⟩
  · obtain ⟨-, htool, hsubcommand, -⟩ := overridesOf_eq_ok_iff.1 ho
    exact ⟨nonBlank_tool_withEnvironment (nonBlank_getD (.inr ⟨_, htool⟩) hscaf) _,
      nonBlank_getD (.inr ⟨_, hsubcommand⟩) hfmt⟩

theorem isPositive_timeout_default (project : Path) : (default project).timeout.IsPositive := by
  simp only [default]
  exact Double.isPositive_ofInt (by decide)

theorem timeout_apply (o : Overrides) (s : Settings) :
    (o.apply s).timeout = o.timeout.getD s.timeout := rfl

/-- The timeout that is loaded is greater than zero, or no number where the file gives none. -/
theorem timeout_of_load (h : load files project environment file = .ok s) :
    s.timeout.IsPositive ∧ ¬ GivesNan files (source project file) ∨
      s.timeout = .nan ∧ GivesNan files (source project file) := by
  obtain ⟨o, rfl, ho⟩ := load_eq_ok h
  have hdefault := isPositive_timeout_default project
  rw [timeout_withEnvironment, timeout_apply]
  generalize (default project).timeout = x at hdefault ⊢
  rcases ho with ⟨hnone, rfl⟩ | ⟨data, entries, hlists, ho⟩
  · refine .inl ⟨hdefault, ?_⟩
    rintro ⟨entries, ⟨bytes, data, hread, -⟩, -⟩
    exact hnone bytes hread
  · obtain ⟨-, -, -, -, htimeout, -⟩ := overridesOf_eq_ok_iff.1 ho
    have hnan : GivesNan files (source project file) ↔ o.timeout = some .nan := by
      constructor
      · rintro ⟨entries', hlists', hgives⟩
        cases hlists.unique hlists'
        exact Except.ok.inj (htimeout.symm.trans
          (timeoutEntry_eq_ok_some_iff.2 ⟨hgives, .inr rfl⟩))
      · intro hnan
        rw [hnan] at htimeout
        exact ⟨entries, hlists, (timeoutEntry_eq_ok_some_iff.1 htimeout).1⟩
    rw [hnan]
    cases hgiven : o.timeout with
    | none => exact .inl ⟨hdefault, nofun⟩
    | some y =>
      rw [hgiven] at htimeout
      rcases (timeoutEntry_eq_ok_some_iff.1 htimeout).2 with hpos | rfl
      · refine .inl ⟨hpos, ?_⟩
        intro hy
        cases hy
        exact Double.not_isPositive_nan hpos
      · exact .inr ⟨rfl, rfl⟩

end Settings

namespace Tool

variable {tool : Tool} {runner : Runner} {space : Workspace} {t : Text} {texts : List Text}
  {c : Command}

structure IsValid (tool : Tool) : Prop where
  program : ∃ t, tool.program = .named t ∧ t.NonBlank
  subcommand : tool.subcommand.NonBlank
  timeout : ∃ x, tool.timeout = some x ∧ x.IsPositive

theorem mem_commands_check (h : c ∈ (tool.check runner t space).memory.commands) :
    c ∈ space.commands ∨ ∃ file files, c = tool.command file files := by
  cases hwrite : space.files.write (tool.scratchFile space.count) (Utf8.encode t) with
  | error e =>
    rw [check_of_error runner hwrite] at h
    exact .inl h
  | ok during =>
    obtain ⟨removes, hmemory⟩ := memory_check runner hwrite
    rw [hmemory] at h
    rcases List.mem_append.1 h with h | h
    · exact .inl h
    · exact .inr ⟨_, _, List.mem_singleton.1 h⟩

/-- A tool starts no commands but its own. -/
theorem mem_commands_after (h : c ∈ ((tool.check runner).after space texts).commands) :
    c ∈ space.commands ∨ ∃ file files, c = tool.command file files := by
  induction texts generalizing space with
  | nil => exact .inl h
  | cons t texts ih =>
    rcases ih h with h | h
    · exact mem_commands_check h
    · exact .inr h

end Tool

namespace CommandLine

open Settings (GivesNan load source)

variable {host : Host} {words : List Text} {o : Options} {settings : Settings} {x : Double}

theorem Options.timeout_of_ofWords (h : Options.ofWords words = .ok o) (hx : o.timeout = some x) :
    x.IsPositive ∨ x = .nan := by
  obtain ⟨-, -, -, -, htimeout⟩ := ofWords_eq_ok h
  exact Double.isNonPositive_eq_false_iff.1 (htimeout x hx)

/-- A program that the command line names is one, and not blank. -/
def Options.NamesProgram (o : Options) : Prop :=
  ∀ given, o.tool = some given → ∃ t, given = .value t ∧ t.NonBlank

/-- The timeout that the command line gives, or else the file of settings, is a number. -/
def TimeoutIsNumber (host : Host) (o : Options) : Prop :=
  o.timeout ≠ some .nan ∧
    (o.timeout = none → ¬ GivesNan host.files (source host.project (o.config.bind Given.value?)))

theorem subcommand_toolFor (host : Host) (settings : Settings) (o : Options) :
    (toolFor host settings o).subcommand = settings.subcommand := by
  unfold toolFor
  split <;> rfl

theorem timeout_toolFor (host : Host) (settings : Settings) (o : Options) :
    (toolFor host settings o).timeout = some settings.timeout := by
  unfold toolFor
  split <;> rfl

theorem program_toolFor_iff {t : Text} :
    (toolFor host settings o).program = .named t ↔ o.tool ≠ some .nothing ∧ settings.tool = t := by
  unfold toolFor
  split
  · rename_i h
    exact iff_of_false nofun fun h' => h'.1 h
  · rename_i h
    simp [Tool.ofSettings, h]

theorem program_isValid_iff (hs : GoesBy host o settings) :
    (∃ t, (toolFor host settings o).program = .named t ∧ t.NonBlank) ↔ o.NamesProgram := by
  obtain ⟨loaded, hload, rfl⟩ := hs
  have htool := (Settings.nonBlank_of_load hload).1
  simp only [program_toolFor_iff, Overrides.apply, Options.NamesProgram]
  cases o.tool with
  | none => simp [htool]
  | some given =>
    cases given with
    | nothing => simp
    | value t => simp [Given.value?]

theorem timeout_cases (ho : Options.ofWords words = .ok o) (hs : GoesBy host o settings) :
    settings.timeout.IsPositive ∧ TimeoutIsNumber host o ∨
      settings.timeout = .nan ∧ ¬ TimeoutIsNumber host o := by
  obtain ⟨loaded, hload, rfl⟩ := hs
  rw [Settings.timeout_apply]
  unfold TimeoutIsNumber
  cases hgiven : o.timeout with
  | none =>
    rcases Settings.timeout_of_load hload with ⟨hpos, hnan⟩ | ⟨hloaded, hnan⟩
    · exact .inl ⟨hpos, nofun, fun _ => hnan⟩
    · exact .inr ⟨hloaded, fun h => h.2 rfl hnan⟩
  | some x =>
    rcases Options.timeout_of_ofWords ho hgiven with hpos | rfl
    · refine .inl ⟨hpos, ?_, nofun⟩
      intro h
      cases h
      exact Double.not_isPositive_nan hpos
    · exact .inr ⟨rfl, fun h => h.1 rfl⟩

/-- The commands of a run are those of its tool. It is as it should be if the command line names no
blank program and no timeout is given as no number. -/
theorem isValid_toolFor_iff (ho : Options.ofWords words = .ok o) (hs : GoesBy host o settings) :
    (∀ c ∈ (run host words).workspace.commands,
      ∃ file files, c = (toolFor host settings o).command file files) ∧
    ((toolFor host settings o).IsValid ↔ o.NamesProgram ∧ TimeoutIsNumber host o) ∧
    (toolFor host settings o).subcommand.NonBlank ∧
    (∀ x, (toolFor host settings o).timeout = some x → x.IsPositive ∨ x = .nan) ∧
    ∀ files project environment file loaded,
      load files project environment file = .ok loaded →
        (loaded.timeout.IsPositive ↔ ¬ GivesNan files (source project file)) ∧
        loaded.tool.NonBlank ∧ loaded.subcommand.NonBlank := by
  have hsubcommand : (toolFor host settings o).subcommand.NonBlank := by
    obtain ⟨loaded, hload, rfl⟩ := hs
    rw [subcommand_toolFor]
    exact (Settings.nonBlank_of_load hload).2
  have htimeout := timeout_cases ho hs
  refine ⟨?_, ?_, hsubcommand, ?_, ?_⟩
  · intro c hc
    obtain ⟨texts, hworkspace⟩ := exists_workspace_run ho hs
    rw [hworkspace] at hc
    exact (Tool.mem_commands_after hc).resolve_left (List.not_mem_nil)
  · constructor
    · rintro ⟨hprogram, -, x, hx, hpos⟩
      rw [timeout_toolFor] at hx
      cases hx
      refine ⟨(program_isValid_iff hs).1 hprogram, ?_⟩
      rcases htimeout with ⟨-, hnumber⟩ | ⟨hnan, -⟩
      · exact hnumber
      · rw [hnan] at hpos
        exact absurd hpos Double.not_isPositive_nan
    · rintro ⟨hprogram, hnumber⟩
      refine ⟨(program_isValid_iff hs).2 hprogram, hsubcommand, _, timeout_toolFor .., ?_⟩
      exact (htimeout.resolve_right fun h => h.2 hnumber).1
  · intro x hx
    rw [timeout_toolFor] at hx
    cases hx
    exact htimeout.imp And.left And.left
  · intro files project environment file loaded hload
    refine ⟨?_, Settings.nonBlank_of_load hload⟩
    rcases Settings.timeout_of_load hload with ⟨hpos, hnan⟩ | ⟨hloaded, hnan⟩
    · exact iff_of_true hpos hnan
    · rw [hloaded]
      exact iff_of_false Double.not_isPositive_nan fun h => h hnan

theorem exists_ok_of_toOption_map {ε α β : Type} {x : Except ε α} {f : α → β} {b : β}
    (h : x.toOption.map f = some b) : ∃ a, x = .ok a ∧ f a = b := by
  cases x with
  | error e => cases h
  | ok a => exact ⟨a, rfl, Option.some.inj h⟩

theorem exists_load_settingsHost_empty :
    ∃ loaded, load (settingsHost "").files ⟨1, ["project"]⟩ none (some "c.yaml") = .ok loaded ∧
      loaded.tool = "scaf" := by
  apply exists_ok_of_toOption_map
  decide +kernel

theorem exists_load_settingsHost_nan :
    ∃ loaded, load (settingsHost "timeout_s: .nan").files ⟨1, ["project"]⟩ none (some "c.yaml") =
      .ok loaded ∧ loaded.timeout = .nan := by
  apply exists_ok_of_toOption_map
  decide +kernel

/-- A timeout of no number passes on the command line and in the file, and so does an empty name. -/
theorem toolFor_settingsHost_invalid :
    (∃ o settings, Options.ofWords ["--config", "c.yaml", "--timeout", "nan"] = .ok o ∧
      GoesBy (settingsHost "") o settings ∧
      (toolFor (settingsHost "") settings o).timeout = some .nan ∧
      ¬ (toolFor (settingsHost "") settings o).IsValid) ∧
    (∃ o settings, Options.ofWords ["--config", "c.yaml", "--tool", ""] = .ok o ∧
      GoesBy (settingsHost "") o settings ∧
      (toolFor (settingsHost "") settings o).program = .named [] ∧
      ¬ (toolFor (settingsHost "") settings o).IsValid) ∧
    ∃ loaded, load (settingsHost "timeout_s: .nan").files ⟨1, ["project"]⟩ none (some "c.yaml") =
      .ok loaded ∧ loaded.timeout = .nan ∧ ¬ loaded.timeout.IsPositive := by
  obtain ⟨loaded, hload, -⟩ := exists_load_settingsHost_empty
  obtain ⟨loaded', hload', hnan⟩ := exists_load_settingsHost_nan
  refine ⟨⟨{ config := some (.value "c.yaml"), timeout := some .nan }, _, rfl,
      ⟨loaded, hload, rfl⟩, rfl, ?_⟩,
    ⟨{ config := some (.value "c.yaml"), tool := some (.value []) }, _, rfl,
      ⟨loaded, hload, rfl⟩, rfl, ?_⟩, loaded', hload', hnan, ?_⟩
  · rintro ⟨-, -, x, hx, hpos⟩
    cases hx
    exact Double.not_isPositive_nan hpos
  · rintro ⟨⟨t, ht, c, hc, -⟩, -, -⟩
    cases ht
    cases hc
  · rw [hnan]
    exact Double.not_isPositive_nan

theorem not_givesNan_settingsHost_empty :
    ¬ GivesNan (settingsHost "").files (source ⟨1, ["project"]⟩ (some "c.yaml")) := by
  rintro ⟨entries, ⟨bytes, data, hread, hdata, hentries⟩, v, hv, -⟩
  cases (read_settingsHost "").symm.trans hread
  have hnull : Data.ofInput (.ofBytes (Utf8.encode "")) = .ok ⟨.null, #[]⟩ := by rfl
  cases hnull.symm.trans hdata
  cases hentries
  cases hv

/-- With an empty file all is as it should be by default, but not with a timeout of no number. -/
theorem isValid_toolFor_iff_emptyFile :
    ∃ loaded, load (settingsHost "").files ⟨1, ["project"]⟩ none (some "c.yaml") = .ok loaded ∧
      (toolFor (settingsHost "") loaded { config := some (.value "c.yaml") }).IsValid ∧
      loaded.timeout.IsPositive ∧
      ∀ settings,
        GoesBy (settingsHost "") { config := some (.value "c.yaml"), timeout := some .nan }
          settings →
        ¬ (toolFor (settingsHost "") settings
          { config := some (.value "c.yaml"), timeout := some .nan }).IsValid := by
  obtain ⟨loaded, hload, -⟩ := exists_load_settingsHost_empty
  have ho : Options.ofWords ["--config", "c.yaml"] =
      .ok { config := some (.value "c.yaml") } := by rfl
  have hnan : Options.ofWords ["--config", "c.yaml", "--timeout", "nan"] =
      .ok { config := some (.value "c.yaml"), timeout := some .nan } := by rfl
  have hgoes : GoesBy (settingsHost "") { config := some (.value "c.yaml") } loaded :=
    ⟨loaded, hload, (Overrides.apply_nothing loaded).symm⟩
  obtain ⟨-, hvalid, -, -, hloaded⟩ := isValid_toolFor_iff ho hgoes
  refine ⟨loaded, hload, hvalid.2 ⟨nofun, nofun, fun _ => not_givesNan_settingsHost_empty⟩,
    (hloaded _ _ _ _ _ hload).1.2 not_givesNan_settingsHost_empty, ?_⟩
  intro settings hs h
  obtain ⟨-, hvalid, -⟩ := isValid_toolFor_iff hnan hs
  exact (hvalid.1 h).2.1 rfl

end CommandLine

end DocSamples
