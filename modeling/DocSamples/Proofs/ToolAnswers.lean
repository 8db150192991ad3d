import DocSamples.Proofs.Directories
import DocSamples.Tool

namespace DocSamples

variable {σ : Type}

/-- A checker that has one answer for each text, as long as what it remembers has a property, which
it keeps. -/
def Checker.Follows (check : Checker σ) (inv : σ → Prop) (answer : Text → Except Fault Outcome) :
    Prop :=
  ∀ t m, inv m → (check t m).result = answer t ∧ inv (check t m).memory

/-- Commands whose ending depends on nothing but the text in the file that they are given. -/
def Runner.Follows (runner : Runner) (behave : Text → Ending) : Prop :=
  ∀ done command t, command.files.read command.file = .ok (Utf8.encode t) →
    (runner done command).ending = behave t

namespace Ending

def IsAcceptance (e : Ending) : Prop := ∃ output errors, e = .exited 0 output errors

def IsRejection (e : Ending) : Prop :=
  ∃ status output errors, e = .exited status output errors ∧ status ≠ 0

end Ending

theorem Points.written_ofText {room : Option Nat} {t : Text}
    (h : ∀ n, room = some n → (Utf8.encode t).length ≤ n) :
    (ofText t).written room = (Utf8.encode t, none) := by
  rw [written, text?_ofText]
  cases room with
  | none => rfl
  | some n => exact if_pos (h n rfl)

namespace FileTree

variable {tree after : FileTree} {path : Path} {room : Option Nat} {content : Bytes} {t : Text}

theorem store_ofText (hroom : ∀ n, room = some n → (Utf8.encode t).length ≤ n)
    (h : tree.write path (Utf8.encode t) = .ok after) :
    tree.store path room (.ofText t) = (after, none) := by
  rw [store, Points.written_ofText hroom, h]

theorem store_of_error {e : FileError} (h : tree.write path content = .error e) (ps : Points) :
    tree.store path room ps = (tree, some (.file e)) := by
  rw [store, write_of_error h]

end FileTree

namespace Tool

variable {tool : Tool} {runner : Runner} {behave : Text → Ending} {files after : FileTree}
  {file : Path} {e : Ending} {space : Workspace} {t : Text} {disk : Disk} {ps : Points}

def scratchFile (tool : Tool) (n : Nat) : Path := tool.scratch.child (tool.scratchName n)

def CanWrite (tool : Tool) (files : FileTree) : Prop :=
  ∀ n, ∃ after, files.write (tool.scratchFile n) [] = .ok after

theorem CanWrite.of_sameDirectories (h : tool.CanWrite files) (hs : files.SameDirectories after) :
    tool.CanWrite after := by
  intro n
  obtain ⟨_, hw⟩ := h n
  exact hs.write hw []

def outcome (tool : Tool) (e : Ending) : Except Fault Outcome := (tool.judge tool.scratch e).1

theorem fst_judge_exited {status : Int} {output errors : Text} (h : status ≠ 0) :
    (tool.judge file (.exited status output errors)).1 =
      match Diagnostic.parse (tool.stream status output errors) with
      | .error e => .error (.longNumeral e)
      | .ok d => .ok ⟨.syntaxError, d.message, d.line.map Int.ofNat⟩ := by
  rw [judge.eq_def]
  split
  · rename_i heq
    cases heq
    contradiction
  · rename_i heq
    cases heq
    cases Diagnostic.parse (tool.stream status output errors) <;> rfl
  all_goals contradiction

theorem fst_judge (tool : Tool) (file : Path) (e : Ending) :
    (tool.judge file e).1 = tool.outcome e := by
  unfold outcome
  cases e with
  | exited status output errors =>
    by_cases hs : status = 0
    · subst hs
      rfl
    · rw [fst_judge_exited hs, fst_judge_exited hs]
  | notFound | notPermitted | timedOut | failed => rfl

theorem sameDirectories_cleanUp (files : FileTree) (file : Path) :
    files.SameDirectories (cleanUp files file).1 := by
  unfold cleanUp
  cases h : files.remove file with
  | ok after => exact FileTree.sameDirectories_of_remove h
  | error e => exact .refl files

def command (tool : Tool) (file : Path) (files : FileTree) : Command :=
  ⟨tool.program, tool.arguments file, tool.timeout, file, files⟩

theorem checkPoints_of_fault {f : Fault} (runner : Runner)
    (h : space.files.store (tool.scratchFile space.count) (disk space.count) ps =
      (after, some f)) :
    tool.checkPoints disk runner ps space =
      ⟨.error f, { space with files := after, count := space.count + 1 }, []⟩ := by
  unfold scratchFile at h
  simp only [checkPoints, h]

theorem result_checkPoints
    (h : space.files.store (tool.scratchFile space.count) (disk space.count) ps = (after, none)) :
    (tool.checkPoints disk runner ps space).result = tool.outcome
      (runner space.commands (tool.command (tool.scratchFile space.count) after)).ending := by
  unfold scratchFile at h
  simp only [checkPoints, h]
  exact fst_judge _ _ _

theorem memory_checkPoints (runner : Runner)
    (h : space.files.store (tool.scratchFile space.count) (disk space.count) ps = (after, none)) :
    ∃ removes : Bool, (tool.checkPoints disk runner ps space).memory =
      ⟨(cleanUp (if removes then (cleanUp after (tool.scratchFile space.count)).1 else after)
        (tool.scratchFile space.count)).1,
      space.commands ++ [tool.command (tool.scratchFile space.count) after], space.count + 1⟩ := by
  unfold scratchFile at h
  simp only [checkPoints, h]
  exact ⟨_, rfl⟩

theorem result_check
    (h : space.files.write (tool.scratchFile space.count) (Utf8.encode t) = .ok after) :
    (tool.check runner t space).result = tool.outcome
      (runner space.commands (tool.command (tool.scratchFile space.count) after)).ending :=
  result_checkPoints (FileTree.store_ofText nofun h)

theorem check_of_error {e : FileError} (runner : Runner)
    (h : space.files.write (tool.scratchFile space.count) (Utf8.encode t) = .error e) :
    tool.check runner t space =
      ⟨.error (.file e), { space with count := space.count + 1 }, []⟩ :=
  checkPoints_of_fault runner (FileTree.store_of_error h _)

theorem memory_check (runner : Runner)
    (h : space.files.write (tool.scratchFile space.count) (Utf8.encode t) = .ok after) :
    ∃ removes : Bool, (tool.check runner t space).memory =
      ⟨(cleanUp (if removes then (cleanUp after (tool.scratchFile space.count)).1 else after)
        (tool.scratchFile space.count)).1,
      space.commands ++ [tool.command (tool.scratchFile space.count) after], space.count + 1⟩ :=
  memory_checkPoints runner (FileTree.store_ofText nofun h)

theorem sameDirectories_check (runner : Runner)
    (h : space.files.write (tool.scratchFile space.count) (Utf8.encode t) = .ok after) :
    after.SameDirectories (tool.check runner t space).memory.files := by
  obtain ⟨removes, hmemory⟩ := memory_check runner h
  rw [hmemory]
  refine .trans ?_ (sameDirectories_cleanUp _ _)
  split
  · exact sameDirectories_cleanUp _ _
  · exact .refl _

/-- The tool answers by what the command does with the text, and leaves the directories as they
are. -/
theorem check_follows (hrun : runner.Follows behave) :
    (tool.check runner).Follows (fun space => tool.CanWrite space.files)
      (fun t => tool.outcome (behave t)) := by
  intro t space hcan
  obtain ⟨_, hw⟩ := hcan space.count
  obtain ⟨after, hwrite⟩ := (FileTree.SameDirectories.refl _).write hw (Utf8.encode t)
  have hsame := (FileTree.sameDirectories_of_write hwrite).trans
    (sameDirectories_check runner hwrite)
  have hread := FileTree.read_of_write hwrite
  refine ⟨?_, hcan.of_sameDirectories hsame⟩
  rw [result_check hwrite,
    hrun space.commands (tool.command (tool.scratchFile space.count) after) t hread]

theorem outcome_isSuccess_iff :
    (∃ o, tool.outcome e = .ok o ∧ o.isSuccess = true) ↔ e.IsAcceptance := by
  constructor
  · rintro ⟨o, ho, hsuccess⟩
    cases e with
    | exited status output errors =>
      by_cases hs : status = 0
      · subst hs
        exact ⟨output, errors, rfl⟩
      · rw [outcome, fst_judge_exited hs] at ho
        split at ho
        · contradiction
        · cases ho
          contradiction
    | failed => cases ho
    | notFound | notPermitted | timedOut =>
      cases ho
      contradiction
  · rintro ⟨output, errors, rfl⟩
    exact ⟨.accepted, rfl, rfl⟩

/-- A text is rejected exactly if the command exits with another status and what it wrote can be
read. -/
theorem outcome_syntaxError_iff :
    (∃ o, tool.outcome e = .ok o ∧ o.kind = .syntaxError) ↔
      ∃ status output errors d, e = .exited status output errors ∧ status ≠ 0 ∧
        Diagnostic.parse (tool.stream status output errors) = .ok d := by
  constructor
  · rintro ⟨o, ho, hkind⟩
    cases e with
    | exited status output errors =>
      by_cases hs : status = 0
      · subst hs
        cases ho
        contradiction
      · rw [outcome, fst_judge_exited hs] at ho
        split at ho
        · contradiction
        · rename_i d hd
          exact ⟨status, output, errors, d, rfl, hs, hd⟩
    | failed => cases ho
    | notFound | notPermitted | timedOut =>
      cases ho
      contradiction
  · rintro ⟨status, output, errors, d, rfl, hs, hd⟩
    refine ⟨⟨.syntaxError, d.message, d.line.map Int.ofNat⟩, ?_, rfl⟩
    rw [outcome, fst_judge_exited hs, hd]

end Tool

end DocSamples
