import DocSamples.Proofs.SampleRun
import DocSamples.Proofs.UsableMessages

namespace DocSamples

open Diagnostic (Readable)
open Run

/-- A command exits, and no row of digits that it wrote is too long to be read, or it cannot be
started, or it takes too long. -/
inductive Ending.IsOrdinary : Ending → Prop
  | exited (status : Int) {output errors : Text} (houtput : Readable output)
      (herrors : Readable errors) : IsOrdinary (.exited status output errors)
  | notFound : IsOrdinary .notFound
  | notPermitted : IsOrdinary .notPermitted
  | timedOut : IsOrdinary .timedOut

namespace Tool

variable {tool : Tool} {runner : Runner} {e : Ending}

theorem exists_outcome_of_isOrdinary (hprogram : Readable tool.program.text)
    (hsubcommand : Readable tool.subcommand) (h : e.IsOrdinary) :
    ∃ o, tool.outcome e = .ok o := by
  cases h with
  | @exited status output errors houtput herrors =>
    have hread : Diagnostic.HasReadableLine (tool.stream status output errors) :=
      hasReadableLine_stream hprogram hsubcommand houtput herrors
    exact exists_outcome_exited_iff.2 (.inr hread)
  | notFound | notPermitted | timedOut => exact ⟨_, rfl⟩

/-- A tool has an outcome for every text if it has one for however a command ends, also if a command
goes by what was done before. -/
theorem check_isTotalOn
    (h : ∀ done command, ∃ o, tool.outcome (runner done command).ending = .ok o) :
    (tool.check runner).IsTotalOn fun space => tool.CanWrite space.files := by
  intro t space hcan
  have hwrites : tool.Writes space.files space.count := hcan space.count
  obtain ⟨after, hwrite⟩ := hwrites.exists_write (Utf8.encode t)
  have hsame := (FileTree.sameDirectories_of_write hwrite).trans
    (sameDirectories_check runner hwrite)
  refine ⟨?_, hcan.of_sameDirectories hsame⟩
  rw [result_check hwrite]
  exact h _ _

end Tool

namespace CommandLine

variable {host : Host} {settings : Settings} {o : Options}

structure Reliable (host : Host) (settings : Settings) (o : Options) : Prop where
  canWrite : ∀ n, host.WritesScratch n
  isOrdinary : ∀ done command, (host.runner done command).ending.IsOrdinary
  program : Readable (toolFor host settings o).program.text
  subcommand : Readable (toolFor host settings o).subcommand

theorem Reliable.isTotalOn (h : Reliable host settings o) :
    ((toolFor host settings o).check host.runner).IsTotalOn
      fun space => (toolFor host settings o).CanWrite space.files :=
  Tool.check_isTotalOn fun done command =>
    Tool.exists_outcome_of_isOrdinary h.program h.subcommand (h.isOrdinary done command)

theorem Reliable.canWrite_toolFor (h : Reliable host settings o) :
    (toolFor host settings o).CanWrite host.files :=
  fun n => (writes_toolFor host settings o n).2 (h.canWrite n)

/-- A run with the checker of the tool has a result if it does not come to a fault by itself. -/
theorem Reliable.exists_result {α : Type} {kind : Text → Prop}
    {run : ∀ σ : Type, Checker σ → Run σ α} (h : Reliable host settings o)
    (hrun : Planned kind (fun _ => False) run) :
    ∃ a, (perform { files := host.files }
      (run Workspace ((toolFor host settings o).check host.runner))).1 = .ok a := by
  have hstart : (fun space : Workspace => (toolFor host settings o).CanWrite space.files)
      { files := host.files } := h.canWrite_toolFor
  obtain ⟨result, texts, space, hcomes, -, hown⟩ := hrun.result_of_isTotalOn h.isTotalOn hstart
  cases result with
  | error e => exact (hown e rfl).elim
  | ok a => exact ⟨a, hcomes.ends.perform_fst⟩

/-- The words of the usual command hold no long row of digits. -/
theorem readable_words (host : Host) (ho : o.tool ≠ some .nothing) :
    Readable (toolFor host (assertionSettings "scaf") o).program.text ∧
      Readable (toolFor host (assertionSettings "scaf") o).subcommand := by
  have hprogram : ("scaf" : Text).length ≤ digitLimit := by decide
  have hsubcommand : ("fmt" : Text).length ≤ digitLimit := by decide
  rw [toolFor, if_neg ho]
  exact ⟨Diagnostic.readable_of_length_le hprogram, Diagnostic.readable_of_length_le hsubcommand⟩

end CommandLine

end DocSamples
