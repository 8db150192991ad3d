import DocSamples.Proofs.Plan
import DocSamples.Proofs.ToolAnswers

namespace DocSamples

theorem FileTree.SameDirectories.symm {a b : FileTree} (h : SameDirectories a b) :
    SameDirectories b a :=
  ⟨h.current.symm, fun place => (h.node? place).symm⟩

/-- What a command is started with besides the name of its file: what the file holds. -/
structure Call where
  program : Program
  subcommand : Option Text
  timeout : Option Double
  content : Except FileError Bytes

def Command.call (c : Command) : Call :=
  ⟨c.program, c.arguments.head?, c.timeout, c.files.read c.file⟩

namespace Tool

variable {tool tool' : Tool} {runner runner' : Runner} {behave : Text → Ending} {t : Text}
  {files after : FileTree} {space space' : Workspace} {n : Nat}

/-- Tools that differ in their scratch files only. -/
structure Alike (tool tool' : Tool) : Prop where
  program : tool.program = tool'.program
  subcommand : tool.subcommand = tool'.subcommand
  timeout : tool.timeout = tool'.timeout

theorem Alike.outcome_eq (h : tool.Alike tool') (e : Ending) :
    tool.outcome e = tool'.outcome e := by
  obtain ⟨program, subcommand, timeout, scratch, scratchName⟩ := tool
  obtain ⟨rfl, rfl, rfl⟩ := h
  cases e with
  | exited status output errors =>
    by_cases hs : status = 0
    · subst hs
      rfl
    · rw [outcome, outcome, fst_judge_exited hs, fst_judge_exited hs]
      rfl
  | notFound | notPermitted | timedOut | failed => rfl

/-- The file for the `n`-th text can be created. -/
def Writes (tool : Tool) (files : FileTree) (n : Nat) : Prop :=
  ∃ after, files.write (tool.scratchFile n) [] = .ok after

theorem Writes.exists_write (h : tool.Writes files n) (content : Bytes) :
    ∃ after, files.write (tool.scratchFile n) content = .ok after := by
  obtain ⟨_, hw⟩ := h
  exact (FileTree.SameDirectories.refl _).write hw content

theorem exists_error_of_not_writes (h : ¬ tool.Writes files n) (content : Bytes) :
    ∃ e, files.write (tool.scratchFile n) content = .error e := by
  cases hw : files.write (tool.scratchFile n) content with
  | error e => exact ⟨e, rfl⟩
  | ok after => exact absurd ((FileTree.SameDirectories.refl _).write hw []) h

theorem writes_iff_of_sameDirectories (h : files.SameDirectories after) :
    tool.Writes files n ↔ tool.Writes after n :=
  ⟨fun ⟨_, hw⟩ => h.write hw [], fun ⟨_, hw⟩ => h.symm.write hw []⟩

theorem call_command (h : files.write (tool.scratchFile n) (Utf8.encode t) = .ok after) :
    (tool.command (tool.scratchFile n) after).call =
      ⟨tool.program, some tool.subcommand, tool.timeout, .ok (Utf8.encode t)⟩ := by
  rw [← FileTree.read_of_write h]
  rfl

/-- Two tools made the same calls so far, and can write the same of the files to come. -/
structure Alongside (tool tool' : Tool) (space space' : Workspace) : Prop where
  count : space.count = space'.count
  calls : space.commands.map Command.call = space'.commands.map Command.call
  writes : ∀ n, tool.Writes space.files n ↔ tool'.Writes space'.files n

/-- A check that writes its file makes one call, and the files that can be written are the same. -/
theorem check_of_writes (runner : Runner) (h : tool.Writes space.files space.count) (t : Text) :
    (∃ done command, command.files.read command.file = .ok (Utf8.encode t) ∧
      (tool.check runner t space).result = tool.outcome (runner done command).ending) ∧
    (tool.check runner t space).memory.count = space.count + 1 ∧
    (tool.check runner t space).memory.commands.map Command.call =
      space.commands.map Command.call ++
        [⟨tool.program, some tool.subcommand, tool.timeout, .ok (Utf8.encode t)⟩] ∧
    ∀ n, tool.Writes (tool.check runner t space).memory.files n ↔ tool.Writes space.files n := by
  obtain ⟨after, hwrite⟩ := h.exists_write (Utf8.encode t)
  have hsame := (FileTree.sameDirectories_of_write hwrite).trans
    (sameDirectories_check runner hwrite)
  obtain ⟨removes, hmemory⟩ := memory_check runner hwrite
  refine ⟨⟨_, _, FileTree.read_of_write hwrite, result_check hwrite⟩, ?_, ?_, ?_⟩
  · rw [hmemory]
  · rw [hmemory, List.map_append, List.map_singleton, call_command hwrite]
  · exact fun n => (writes_iff_of_sameDirectories hsame).symm

/-- Tools that are alike agree on what commands do that go by the text in their file. -/
theorem check_agree (halike : tool.Alike tool') (hrun : runner.Follows behave)
    (hrun' : runner'.Follows behave) :
    Checker.Agree (Alongside tool tool') (tool.check runner) (tool'.check runner') := by
  intro t space space' h
  by_cases hw : tool.Writes space.files space.count
  · have hw' : tool'.Writes space'.files space'.count := by
      rw [← h.count]
      exact (h.writes _).1 hw
    obtain ⟨⟨done, command, hread, hres⟩, hcount, hcalls, hwrites⟩ := check_of_writes runner hw t
    obtain ⟨⟨done', command', hread', hres'⟩, hcount', hcalls', hwrites'⟩ :=
      check_of_writes runner' hw' t
    refine ⟨?_, ?_, ?_, ?_⟩
    · rw [hres, hres', hrun _ _ t hread, hrun' _ _ t hread', halike.outcome_eq]
    · rw [hcount, hcount', h.count]
    · rw [hcalls, hcalls', h.calls, halike.program, halike.subcommand, halike.timeout]
    · intro n
      rw [hwrites, hwrites', h.writes]
  · have hw' : ¬ tool'.Writes space'.files space'.count := by
      rw [← h.count, ← h.writes]
      exact hw
    obtain ⟨e, he⟩ := exists_error_of_not_writes hw (Utf8.encode t)
    obtain ⟨e', he'⟩ := exists_error_of_not_writes hw' (Utf8.encode t)
    rw [check_of_error runner he, check_of_error runner' he']
    exact ⟨rfl, congrArg (· + 1) h.count, h.calls, h.writes⟩

end Tool

end DocSamples
