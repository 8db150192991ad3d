import DocSamples.Proofs.EffectiveSettings

namespace DocSamples

section

variable {α : Type}

def lastGiven (vs : List (Option α)) : Option α := (vs.filterMap id).getLast?

theorem lastGiven_cons (v : Option α) (vs : List (Option α)) :
    lastGiven (v :: vs) = (lastGiven vs).or v := by
  unfold lastGiven
  cases v with
  | none => rw [List.filterMap_cons_none rfl, Option.or_none]
  | some a =>
    have hcons : (some a :: vs).filterMap id = a :: vs.filterMap id := List.filterMap_cons_some rfl
    rw [hcons, List.getLast?_cons]
    cases (vs.filterMap id).getLast? <;> rfl

end

namespace Overrides

variable {α : Type} {get : Settings → α} {given : Overrides → Option α}

def applyAll (changes : List Overrides) (s : Settings) : Settings :=
  changes.foldl (fun s o => o.apply s) s

/-- Two replacements in one; where both replace a setting, it is the second that does. -/
def merge (o o' : Overrides) : Overrides where
  language := o'.language.or o.language
  tool := o'.tool.or o.tool
  subcommand := o'.subcommand.or o.subcommand
  timeout := o'.timeout.or o.timeout
  skipToken := o'.skipToken.or o.skipToken
  docsDir := o'.docsDir.or o.docsDir
  suffixes := o'.suffixes.or o.suffixes

def mergeAll (changes : List Overrides) : Overrides := changes.foldl merge {}

theorem apply_merge (o o' : Overrides) (s : Settings) :
    (o.merge o').apply s = o'.apply (o.apply s) := by
  simp only [apply, merge, Option.getD_or]

theorem apply_foldl_merge (changes : List Overrides) (o : Overrides) (s : Settings) :
    (changes.foldl merge o).apply s = applyAll changes (o.apply s) := by
  induction changes generalizing o with
  | nil => rfl
  | cons c changes ih =>
    rw [List.foldl_cons, ih, apply_merge]
    rfl

theorem apply_mergeAll (changes : List Overrides) (s : Settings) :
    (mergeAll changes).apply s = applyAll changes s := by
  rw [mergeAll, apply_foldl_merge, apply_nothing]

/-- A setting is as the last replacement of it has it. -/
theorem get_applyAll (h : ∀ o s, get (apply o s) = (given o).getD (get s))
    (changes : List Overrides) (s : Settings) :
    get (applyAll changes s) = (lastGiven (changes.map given)).getD (get s) := by
  induction changes generalizing s with
  | nil => rfl
  | cons c changes ih =>
    rw [List.map_cons, lastGiven_cons, Option.getD_or, ← h]
    exact ih (c.apply s)

end Overrides

namespace Settings

/-- Settings as they follow from the environment, what a file gives, and some changes to them. -/
structure Ranked (project : Path) (environment : Option Text) (given : Overrides)
    (changes : List Overrides) (s : Settings) : Prop where
  language : s.language =
    (lastGiven (changes.map (·.language))).getD (given.language.getD (default project).language)
  tool : s.tool =
    (lastGiven (changes.map (·.tool))).getD
      ((environmentTool environment).getD (given.tool.getD (default project).tool))
  subcommand : s.subcommand =
    (lastGiven (changes.map (·.subcommand))).getD
      (given.subcommand.getD (default project).subcommand)
  timeout : s.timeout =
    (lastGiven (changes.map (·.timeout))).getD (given.timeout.getD (default project).timeout)
  skipToken : s.skipToken =
    (lastGiven (changes.map (·.skipToken))).getD (given.skipToken.getD (default project).skipToken)
  docsDir : s.docsDir =
    (lastGiven (changes.map (·.docsDir))).getD (given.docsDir.getD (default project).docsDir)
  suffixes : s.suffixes =
    (lastGiven (changes.map (·.suffixes))).getD (given.suffixes.getD (default project).suffixes)

open Overrides (get_applyAll) in
theorem ranked_applyAll (project : Path) (environment : Option Text) (given : Overrides)
    (changes : List Overrides) :
    Ranked project environment given changes (Overrides.applyAll changes
      ((given.apply (default project)).withEnvironment environment)) := by
  rw [withEnvironment_eq]
  exact {
    tool := get_applyAll (fun _ _ => rfl) changes _
    timeout := get_applyAll (fun _ _ => rfl) changes _
    language := get_applyAll (fun _ _ => rfl) changes _
    subcommand := get_applyAll (fun _ _ => rfl) changes _
    skipToken := get_applyAll (fun _ _ => rfl) changes _
    docsDir := get_applyAll (fun _ _ => rfl) changes _
    suffixes := get_applyAll (fun _ _ => rfl) changes _ }

end Settings

namespace CommandLine

open Settings (FileGives Ranked default environmentTool load)

variable {host : Host} {words : List Text} {o : Options} {file : Option Text} {loaded : Settings}
  {c : Command}

def Options.changes (o : Options) : Overrides :=
  { tool := o.tool.bind Given.value?, timeout := o.timeout }

/-- The program that a command line names, or else the one of the settings. -/
def Options.programOver (o : Options) (tool : Text) : Program :=
  match o.tool with
  | some (.value t) => .named t
  | some .nothing => .unnamed
  | none => .named tool

theorem program_toolFor (host : Host) (o : Options) (loaded : Settings) :
    (toolFor host (o.changes.apply loaded) o).program = o.programOver loaded.tool := by
  unfold toolFor Options.programOver Options.changes
  cases o.tool with
  | none => rfl
  | some given => cases given <;> rfl

theorem mem_commands_run (ho : Options.ofWords words = .ok o)
    (hload : load host.files host.project host.environment (o.config.bind Given.value?) =
      .ok loaded) (hc : c ∈ (run host words).workspace.commands) :
    c.program = o.programOver loaded.tool ∧ c.arguments = [loaded.subcommand, c.file.text] ∧
      c.timeout = some (o.timeout.getD loaded.timeout) := by
  have hgoes : GoesBy host o (o.changes.apply loaded) := ⟨loaded, hload, rfl⟩
  obtain ⟨texts, hworkspace⟩ := exists_workspace_run ho hgoes
  rw [hworkspace] at hc
  obtain ⟨file, files, rfl⟩ := (Tool.mem_commands_after hc).resolve_left List.not_mem_nil
  refine ⟨program_toolFor host o loaded, ?_, timeout_toolFor ..⟩
  change [(toolFor host _ o).subcommand, file.text] = _
  rw [subcommand_toolFor]
  rfl

/-- A setting is as the last change of it has it, else as the environment, the file of settings and
the defaults have it, in this order. Changes are as good as all of them in one. -/
theorem ranked_of_load
    (hload : load host.files host.project host.environment file = .ok loaded) :
    (∃ given, FileGives host.files host.project file given ∧
      (∀ changes,
        Ranked host.project host.environment given changes (Overrides.applyAll changes loaded)) ∧
      ∀ words o, Options.ofWords words = .ok o → o.config.bind Given.value? = file →
        (∃ settings, GoesBy host o settings ∧
          ∀ changes, Ranked host.project host.environment given (o.changes :: changes)
            (Overrides.applyAll changes settings)) ∧
        ∀ c ∈ (run host words).workspace.commands,
          c.program = o.programOver ((environmentTool host.environment).getD
            (given.tool.getD (default host.project).tool)) ∧
          c.arguments =
            [given.subcommand.getD (default host.project).subcommand, c.file.text] ∧
          c.timeout =
            some (o.timeout.getD (given.timeout.getD (default host.project).timeout))) ∧
    (∀ changes s, Overrides.applyAll changes s = (Overrides.mergeAll changes).apply s) ∧
    ∀ (c : Overrides) s, c.isEmpty = true → c.apply s = s := by
  obtain ⟨given, hgiven, hloaded⟩ := Settings.exists_fileGives hload
  have hranked : ∀ changes, Ranked host.project host.environment given changes
      (Overrides.applyAll changes loaded) := by
    rw [hloaded]
    exact Settings.ranked_applyAll host.project host.environment given
  have htool : loaded.tool = (environmentTool host.environment).getD
      (given.tool.getD (default host.project).tool) := (hranked []).tool
  have hsubcommand : loaded.subcommand =
      given.subcommand.getD (default host.project).subcommand := (hranked []).subcommand
  have htimeout : loaded.timeout = given.timeout.getD (default host.project).timeout :=
    (hranked []).timeout
  refine ⟨⟨given, hgiven, hranked, ?_⟩, fun changes s => (Overrides.apply_mergeAll changes s).symm,
    ?_⟩
  · rintro words o ho rfl
    refine ⟨⟨_, ⟨loaded, hload, rfl⟩, fun changes => hranked (o.changes :: changes)⟩, ?_⟩
    intro c hc
    rw [← htool, ← hsubcommand, ← htimeout]
    exact mem_commands_run ho hload hc
  · intro c s hc
    cases beq_iff_eq.1 hc
    exact Overrides.apply_nothing s

def layeredHost : Host :=
  { settingsHost "tool: ale\nlanguage: ' scaf'\n" with environment := some " beer\n" }

theorem exists_load_layeredHost :
    ∃ loaded, load layeredHost.files layeredHost.project layeredHost.environment
      (some "c.yaml") = .ok loaded ∧ loaded.language = "scaf" := by
  apply exists_ok_of_toOption_map
  decide +kernel

theorem ranked_of_load_layeredHost :
    ∃ loaded settings, load layeredHost.files layeredHost.project layeredHost.environment
        (some "c.yaml") = .ok loaded ∧
      GoesBy layeredHost { config := some (.value "c.yaml"), tool := some (.value "cider") }
        settings ∧
      loaded.language = "scaf" ∧ loaded.tool = "beer" ∧ settings.tool = "cider" ∧
      (Overrides.applyAll [{ tool := some "ale" }, {}] settings).tool = "ale" := by
  obtain ⟨loaded, hload, hlanguage⟩ := exists_load_layeredHost
  obtain ⟨⟨given, -, hloaded, hrun⟩, -⟩ := ranked_of_load hload
  obtain ⟨⟨settings, hgoes, hsettings⟩, -⟩ :=
    hrun ["--config", "c.yaml", "--tool", "cider"] _ rfl rfl
  exact ⟨loaded, settings, hload, hgoes, hlanguage, (hloaded []).tool, (hsettings []).tool,
    (hsettings [{ tool := some "ale" }, {}]).tool⟩

end CommandLine

end DocSamples
