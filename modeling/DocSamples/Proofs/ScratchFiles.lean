import DocSamples.Proofs.NormalPaths
import DocSamples.Proofs.ToolLockstep
import Mathlib.Data.List.Induction

namespace DocSamples

variable {tree during : FileTree} {path : Path} {place : Place} {name : Text} {content : Bytes}

theorem Text.exists_join_concat (sep w : Text) (ws : List Text) :
    ∃ more, join sep (ws ++ [w]) = join sep ws ++ more := by
  induction ws with
  | nil => exact ⟨w, rfl⟩
  | cons v ws ih =>
    obtain ⟨more, ih⟩ := ih
    cases ws with
    | nil => exact ⟨sep ++ w, List.append_assoc v sep w⟩
    | cons u ws => exact ⟨more, by simpa [join] using ih⟩

theorem Path.text_child (p : Path) (name : Text) :
    p.text = ['.'] ∨ ∃ more, (p.child name).text = p.text ++ more := by
  by_cases hempty : List.replicate p.slashes '/' ++ Text.join ['/'] p.parts = []
  · exact .inl (if_pos (by simpa using hempty))
  · right
    obtain ⟨more, hjoin⟩ := Text.exists_join_concat ['/'] name p.parts
    have hchild : List.replicate p.slashes '/' ++ Text.join ['/'] (p.parts ++ [name]) =
        List.replicate p.slashes '/' ++ Text.join ['/'] p.parts ++ more := by
      rw [hjoin, List.append_assoc]
    refine ⟨more, ?_⟩
    rw [text_of_ne_nil hempty, ← hchild]
    apply text_of_ne_nil
    rw [child, hchild]
    exact List.append_ne_nil_of_left_ne_nil hempty more

namespace Points

variable {ps : Points} {room : Option Nat} {t : Text}

/-- All points are characters, and there is room for their bytes. -/
def Fits (room : Option Nat) (ps : Points) : Prop :=
  ∃ t, ps = ofText t ∧ ∀ n, room = some n → (Utf8.encode t).length ≤ n

theorem fits_ofText_iff :
    Fits room (ofText t) ↔ ∀ n, room = some n → (Utf8.encode t).length ≤ n := by
  constructor
  · rintro ⟨u, hu, h⟩
    cases ofText_injective hu
    exact h
  · exact fun h => ⟨t, rfl, h⟩

theorem exists_fault_of_not_fits (h : ¬ Fits room ps) : ∃ f, (written room ps).2 = some f := by
  unfold written
  cases ht : text? ps with
  | none => exact ⟨_, rfl⟩
  | some t =>
    cases text?_eq_some_iff.1 ht
    rw [fits_ofText_iff] at h
    cases room with
    | none => exact absurd nofun h
    | some n =>
      by_cases hn : (Utf8.encode t).length ≤ n
      · refine absurd ?_ h
        intro m hm
        cases hm
        exact hn
      · exact ⟨.noSpace, by simp only [hn, if_false]⟩

end Points

namespace FileTree

/-- The place of something in a directory is below the place of the directory. -/
theorem find_of_place?_child (hname : name ≠ ['.', '.'])
    (h : tree.place? (path.child name) = .ok place) :
    ∃ dir, tree.find path = .ok (dir, .directory) ∧ place = dir ++ [name] := by
  obtain ⟨hnul, hlong, hparts⟩ := place?_eq_ok_iff.1 h
  have hpath : '\x00' ∉ path.text ∧ (Utf8.encode path.text).length < pathLimit := by
    rcases path.text_child name with hdot | ⟨more, hmore⟩
    · rw [hdot]
      decide
    · rw [hmore, Utf8.encode, List.flatMap_append, List.length_append] at hlong
      rw [hmore] at hnul
      exact ⟨fun hmem => hnul (List.mem_append_left _ hmem),
        Nat.lt_of_le_of_lt (Nat.le_add_right _ _) hlong⟩
  obtain ⟨dir, hdir, hstep⟩ := foldlM_step_concat.1 hparts
  obtain ⟨hnode, -, hnext⟩ := step_eq_ok_iff.1 hstep
  have hplace : tree.place? path = .ok dir := place?_eq_ok_iff.2 ⟨hpath.1, hpath.2, hdir⟩
  refine ⟨dir, ?_, ?_⟩
  · rw [find_eq hplace, hnode]
  · rw [← hnext, Place.next, if_neg hname]

theorem filter_entries_of_node?_eq_none (h : tree.node? place = none) :
    tree.entries.filter (·.1 != place) = tree.entries := by
  have hlookup : tree.entries.lookup place = none := by
    unfold node? at h
    split at h
    · contradiction
    · exact h
  rw [List.filter_eq_self]
  intro entry hentry
  have hne := List.lookup_eq_none_iff.1 hlookup entry hentry
  simpa [bne, Bool.beq_comm] using hne

theorem put_of_node?_eq_none (h : tree.node? place = none) (node : Node) :
    tree.put place node = { tree with entries := (place, node) :: tree.entries } := by
  rw [put, filter_entries_of_node?_eq_none h]

theorem remove_put (hplace : tree.place? path = .ok place) (hnode : tree.node? place = none)
    (content : Bytes) : (tree.put place (.file content)).remove path = .ok tree := by
  have hdir : tree.node? place ≠ some .directory := by simp [hnode]
  have hplace' := (sameDirectories_put hdir content).place?_eq_ok hplace
  have hfind := find_eq hplace'
  rw [node?_put _ _ _ (ne_nil_of_node?_ne hdir), if_pos rfl] at hfind
  have hentries := filter_entries_of_node?_eq_none hnode
  rw [remove, hfind, put_of_node?_eq_none hnode]
  simp [bind, Except.bind, pure, Except.pure, hentries]

theorem remove_of_node?_eq_none (hplace : tree.place? path = .ok place)
    (hnode : tree.node? place = none) : tree.remove path = .error .missing := by
  rw [remove, find_eq hplace, hnode]
  rfl

/-- Nothing stands where the files of some names in a directory would stand. -/
def HasFreshNames (tree : FileTree) (scratch : Path) (scratchName : Nat → Text) : Prop :=
  ∀ n, scratchName n ≠ ['.', '.'] ∧
    ∀ place, tree.place? (scratch.child (scratchName n)) = .ok place → tree.node? place = none

end FileTree

namespace Command

def words (c : Command) : List Text := c.program.text :: c.arguments

/-- A command is given a text in a file, which its third word names. The scratch directory holds
this file, and nothing else is new. -/
structure ChecksIn (scratch : Path) (before : FileTree) (t : Text) (c : Command) : Prop where
  third : c.words[2]? = some c.file.text
  holds : ∃ dir name, before.find scratch = .ok (dir, .directory) ∧ c.file = scratch.child name ∧
    before.node? (dir ++ [name]) = none ∧
    c.files = { before with entries := (dir ++ [name], .file (Utf8.encode t)) :: before.entries }

end Command

namespace Tool

variable {tool : Tool} {disk : Disk} {runner : Runner} {space : Workspace} {ps : Points}
  {file : Path} {t : Text} {texts : List Text}

theorem fst_cleanUp_of_remove {files after : FileTree} (h : files.remove file = .ok after) :
    (cleanUp files file).1 = after := by
  rw [cleanUp, h]

theorem fst_cleanUp_of_error {files : FileTree} {e : FileError} (h : files.remove file = .error e) :
    (cleanUp files file).1 = files := by
  rw [cleanUp, h]

/-- A tool that checks points leaves the files as they are. It starts one command, on a file with
the points, or none if it cannot create that file. -/
structure Tidies (tool : Tool) (disk : Disk) (runner : Runner) (space : Workspace) (ps : Points) :
    Prop where
  files : (tool.checkPoints disk runner ps space).memory.files = space.files
  started : tool.Writes space.files space.count →
    ∃ (t : Text) (c : Command), ps = .ofText t ∧ c.ChecksIn tool.scratch space.files t ∧
      (tool.checkPoints disk runner ps space).memory.commands = space.commands ++ [c]
  blocked : ¬ tool.Writes space.files space.count →
    (∃ e, (tool.checkPoints disk runner ps space).result = .error (.file e)) ∧
      (tool.checkPoints disk runner ps space).memory.commands = space.commands

theorem count_checkPoints (tool : Tool) (disk : Disk) (runner : Runner) (ps : Points)
    (space : Workspace) :
    (tool.checkPoints disk runner ps space).memory.count = space.count + 1 := by
  simp only [checkPoints]
  split <;> rfl

theorem checkPoints_of_not_writes (h : ¬ tool.Writes space.files space.count) (disk : Disk)
    (runner : Runner) (ps : Points) :
    ∃ e, tool.checkPoints disk runner ps space =
      ⟨.error (.file e), { space with count := space.count + 1 }, []⟩ := by
  obtain ⟨e, he⟩ := exists_error_of_not_writes h []
  exact ⟨e, checkPoints_of_fault runner (FileTree.store_of_error he ps)⟩

/-- Points that do not fit leave the file that was created for them. -/
theorem checkPoints_of_not_fits (hw : tool.Writes space.files space.count)
    (h : ¬ ps.Fits (disk space.count)) (runner : Runner) :
    ∃ content after f,
      space.files.write (tool.scratchFile space.count) content = .ok after ∧
      tool.checkPoints disk runner ps space =
        ⟨.error f, { space with files := after, count := space.count + 1 }, []⟩ := by
  obtain ⟨f, hf⟩ := Points.exists_fault_of_not_fits h
  obtain ⟨after, hwrite⟩ := hw.exists_write (ps.written (disk space.count)).1
  refine ⟨_, after, f, hwrite, checkPoints_of_fault runner ?_⟩
  rw [FileTree.store, hwrite, hf]

theorem fits_of_result_eq_ok {o : Outcome}
    (h : (tool.checkPoints disk runner ps space).result = .ok o) : ps.Fits (disk space.count) := by
  by_contra hfits
  by_cases hw : tool.Writes space.files space.count
  · obtain ⟨content, after, f, -, hcheck⟩ := checkPoints_of_not_fits hw hfits runner
    rw [hcheck] at h
    contradiction
  · obtain ⟨e, hcheck⟩ := checkPoints_of_not_writes hw disk runner ps
    rw [hcheck] at h
    contradiction

theorem tidies_of_fits (hfresh : space.files.HasFreshNames tool.scratch tool.scratchName)
    (hw : tool.Writes space.files space.count) (hfits : ps.Fits (disk space.count))
    (runner : Runner) : tool.Tidies disk runner space ps := by
  obtain ⟨hname, hnode⟩ := hfresh space.count
  obtain ⟨t, rfl, hroom⟩ := hfits
  obtain ⟨during, hwrite⟩ := hw.exists_write (Utf8.encode t)
  obtain ⟨place, hplace, -, hput⟩ := FileTree.write_eq_ok_iff.1 hwrite
  have hfree := hnode place hplace
  obtain ⟨dir, hdir, rfl⟩ := FileTree.find_of_place?_child hname hplace
  have hremove := FileTree.remove_put hplace hfree (Utf8.encode t)
  have hmissing := FileTree.remove_of_node?_eq_none hplace hfree
  rw [hput] at hremove
  obtain ⟨removes, hmemory⟩ := memory_checkPoints runner (FileTree.store_ofText hroom hwrite)
  refine ⟨?_, ?_, fun hnot => absurd hw hnot⟩
  · rw [hmemory]
    cases removes with
    | true =>
      -- The file is gone already, so there is nothing left to delete.
      simp only [if_true, fst_cleanUp_of_remove hremove]
      exact fst_cleanUp_of_error hmissing
    | false => exact fst_cleanUp_of_remove hremove
  · intro _
    refine ⟨t, tool.command (tool.scratchFile space.count) during, rfl, ⟨rfl, ?_⟩, by rw [hmemory]⟩
    refine ⟨dir, _, hdir, rfl, hfree, ?_⟩
    rw [← FileTree.put_of_node?_eq_none hfree]
    exact hput.symm

theorem files_ne_of_not_fits (hfresh : space.files.HasFreshNames tool.scratch tool.scratchName)
    (hw : tool.Writes space.files space.count) (h : ¬ ps.Fits (disk space.count))
    (runner : Runner) : (tool.checkPoints disk runner ps space).memory.files ≠ space.files := by
  obtain ⟨content, after, f, hwrite, hcheck⟩ := checkPoints_of_not_fits hw h runner
  obtain ⟨place, hplace, hdir, rfl⟩ := FileTree.write_eq_ok_iff.1 hwrite
  have hfree := (hfresh space.count).2 place hplace
  rw [hcheck]
  intro hsame
  have hput : space.files.put place (.file content) = space.files := hsame
  have hnode : (space.files.put place (.file content)).node? place = some (.file content) := by
    rw [FileTree.node?_put _ _ _ (FileTree.ne_nil_of_node?_ne hdir), if_pos rfl]
  rw [hput, hfree] at hnode
  contradiction

/-- A check tidies up exactly if the points fit, or there is no file to put them into. -/
theorem tidies_iff (hfresh : space.files.HasFreshNames tool.scratch tool.scratchName)
    (disk : Disk) (runner : Runner) (ps : Points) :
    tool.Tidies disk runner space ps ↔
      (tool.Writes space.files space.count → ps.Fits (disk space.count)) := by
  constructor
  · intro h hw
    by_contra hfits
    exact files_ne_of_not_fits hfresh hw hfits runner h.files
  · intro h
    by_cases hw : tool.Writes space.files space.count
    · exact tidies_of_fits hfresh hw (h hw) runner
    · obtain ⟨e, hcheck⟩ := checkPoints_of_not_writes hw disk runner ps
      refine ⟨by rw [hcheck], fun hw' => absurd hw' hw, ?_⟩
      rw [hcheck]
      exact fun _ => ⟨⟨e, rfl⟩, rfl⟩

theorem tidies_of_result_eq_ok {o : Outcome}
    (hfresh : space.files.HasFreshNames tool.scratch tool.scratchName)
    (h : (tool.checkPoints disk runner ps space).result = .ok o) :
    tool.Tidies disk runner space ps :=
  (tidies_iff hfresh disk runner ps).2 fun _ => fits_of_result_eq_ok h

theorem files_checkPoints_iff (hfresh : space.files.HasFreshNames tool.scratch tool.scratchName)
    (disk : Disk) (runner : Runner) (ps : Points) :
    (tool.checkPoints disk runner ps space).memory.files = space.files ↔
      (tool.Writes space.files space.count → ps.Fits (disk space.count)) := by
  refine ⟨?_, fun h => ((tidies_iff hfresh disk runner ps).2 h).files⟩
  intro hfiles hw
  by_contra hfits
  exact files_ne_of_not_fits hfresh hw hfits runner hfiles

/-- A check starts at most one command, which is given the text, and none if its file cannot be
created. -/
theorem commands_checkPoints (hfresh : space.files.HasFreshNames tool.scratch tool.scratchName)
    (disk : Disk) (runner : Runner) (t : Text) :
    ∃ cs, (tool.checkPoints disk runner (.ofText t) space).memory.commands =
        space.commands ++ cs ∧
      (∀ c ∈ cs, c.ChecksIn tool.scratch space.files t) ∧
      (¬ tool.Writes space.files space.count → cs = []) := by
  by_cases htidies : tool.Tidies disk runner space (.ofText t)
  · by_cases hw : tool.Writes space.files space.count
    · obtain ⟨u, c, hu, hchecks, hcommands⟩ := htidies.started hw
      cases Points.ofText_injective hu
      exact ⟨[c], hcommands, List.forall_mem_singleton.2 hchecks, fun hnot => absurd hw hnot⟩
    · refine ⟨[], ?_, by simp, fun _ => rfl⟩
      rw [(htidies.blocked hw).2, List.append_nil]
  · rw [tidies_iff hfresh, Classical.not_imp] at htidies
    obtain ⟨hw, hfits⟩ := htidies
    obtain ⟨content, after, f, -, hcheck⟩ := checkPoints_of_not_fits hw hfits runner
    refine ⟨[], ?_, by simp, fun _ => rfl⟩
    rw [hcheck, List.append_nil]

/-- What a tool works with after it checked some points, one after another. -/
def afterPoints (tool : Tool) (disk : Disk) (runner : Runner) (space : Workspace)
    (pss : List Points) : Workspace :=
  pss.foldl (fun space ps => (tool.checkPoints disk runner ps space).memory) space

theorem afterPoints_concat (pss : List Points) (ps : Points) :
    tool.afterPoints disk runner space (pss ++ [ps]) =
      (tool.checkPoints disk runner ps (tool.afterPoints disk runner space pss)).memory := by
  rw [afterPoints, List.foldl_concat]
  rfl

theorem count_afterPoints (tool : Tool) (disk : Disk) (runner : Runner) (space : Workspace)
    (pss : List Points) :
    (tool.afterPoints disk runner space pss).count = space.count + pss.length := by
  induction pss using List.reverseRec with
  | nil => rfl
  | append_singleton pss ps ih =>
    rw [afterPoints_concat, count_checkPoints, ih, List.length_append, List.length_singleton,
      Nat.add_assoc]

/-- The files are as they were if no check changes them that finds them as they were. -/
theorem files_afterPoints {pss : List Points}
    (h : ∀ before ps later, pss = before ++ ps :: later →
      (tool.afterPoints disk runner space before).files = space.files →
        (tool.afterPoints disk runner space (before ++ [ps])).files = space.files) :
    (tool.afterPoints disk runner space pss).files = space.files := by
  induction pss using List.reverseRec with
  | nil => rfl
  | append_singleton pss ps ih =>
    refine h pss ps [] rfl (ih ?_)
    rintro before p later rfl
    exact h before p (later ++ [ps]) (by simp)

/-- Of some points, all fit that there is a file for, as long as the files stay as they are. -/
def EachFits (tool : Tool) (disk : Disk) (space : Workspace) (pss : List Points) : Prop :=
  ∀ before ps later, pss = before ++ ps :: later →
    tool.Writes space.files (space.count + before.length) →
      ps.Fits (disk (space.count + before.length))

theorem eachFits_ample (tool : Tool) (space : Workspace) (texts : List Text) :
    tool.EachFits .ample space (texts.map .ofText) := by
  intro before ps later h _
  have hmem : ps ∈ texts.map Points.ofText := h ▸ List.mem_append_right before List.mem_cons_self
  obtain ⟨t, -, rfl⟩ := List.mem_map.1 hmem
  exact Points.fits_ofText_iff.2 nofun

/-- Some checks all tidy up exactly if all points fit that there is a file for. -/
theorem tidies_afterPoints_iff
    (hfresh : space.files.HasFreshNames tool.scratch tool.scratchName) (disk : Disk)
    (runner : Runner) (pss : List Points) :
    (∀ before ps later, pss = before ++ ps :: later →
      tool.Tidies disk runner (tool.afterPoints disk runner space before) ps) ↔
    tool.EachFits disk space pss := by
  have hstep : ∀ before ps, (tool.afterPoints disk runner space before).files = space.files →
      (tool.Tidies disk runner (tool.afterPoints disk runner space before) ps ↔
        (tool.Writes space.files (space.count + before.length) →
          ps.Fits (disk (space.count + before.length)))) := by
    intro before ps hfiles
    have hiff := tidies_iff (hfiles.symm ▸ hfresh) disk runner ps
    rwa [hfiles, count_afterPoints] at hiff
  constructor
  · intro h before ps later hpss
    refine (hstep before ps (files_afterPoints ?_)).1 (h before ps later hpss)
    rintro before' p more rfl hfiles
    rw [afterPoints_concat, (h before' p (more ++ ps :: later) (by simp [hpss])).files, hfiles]
  · intro h before ps later hpss
    refine (hstep before ps (files_afterPoints ?_)).2 (h before ps later hpss)
    rintro before' p more rfl hfiles
    have htidies := (hstep before' p hfiles).2 (h before' p (more ++ ps :: later) (by simp [hpss]))
    rw [afterPoints_concat, htidies.files, hfiles]

theorem after_checkOn (tool : Tool) (disk : Disk) (runner : Runner) (space : Workspace)
    (texts : List Text) :
    (tool.checkOn disk runner).after space texts =
      tool.afterPoints disk runner space (texts.map .ofText) := by
  rw [afterPoints, List.foldl_map]
  rfl

/-- Before the last of some texts the files are as they were, since the others have outcomes. -/
theorem files_before_last (hfresh : space.files.HasFreshNames tool.scratch tool.scratchName)
    (h : (tool.checkOn disk runner).Proceeds space (texts ++ [t])) :
    ((tool.checkOn disk runner).after space texts).files = space.files := by
  induction texts generalizing space with
  | nil => rfl
  | cons u texts ih =>
    obtain ⟨hfirst, hrest⟩ := h
    obtain ⟨o, ho⟩ := hfirst (by simp)
    have hfiles := (tidies_of_result_eq_ok hfresh ho).files
    exact (ih (hfiles.symm ▸ hfresh) hrest).trans hfiles

/-- Where a check without an outcome is the last one, the files are as they were exactly if all
texts fitted. -/
theorem files_after_iff (hfresh : space.files.HasFreshNames tool.scratch tool.scratchName)
    (h : (tool.checkOn disk runner).Proceeds space texts) :
    ((tool.checkOn disk runner).after space texts).files = space.files ↔
      tool.EachFits disk space (texts.map .ofText) := by
  constructor
  · intro hfiles before ps later hsplit hw
    obtain ⟨us, ws, rfl, rfl, hws⟩ := List.map_eq_append_iff.1 hsplit
    obtain ⟨t, rest, rfl, rfl, rfl⟩ := List.map_eq_cons_iff.1 hws
    rw [List.length_map] at hw ⊢
    have hcount : ((tool.checkOn disk runner).after space us).count = space.count + us.length := by
      rw [after_checkOn, count_afterPoints, List.length_map]
    rw [← hcount] at hw ⊢
    by_cases hrest : rest = []
    · subst hrest
      have hbefore := files_before_last hfresh h
      rw [after_checkOn, List.map_append, List.map_singleton, afterPoints_concat,
        ← after_checkOn] at hfiles
      rw [← hbefore] at hfiles hw
      exact (files_checkPoints_iff (hbefore.symm ▸ hfresh) disk runner _).1 hfiles hw
    · obtain ⟨o, ho⟩ := h.exists_outcome hrest
      exact fits_of_result_eq_ok ho
  · intro hfits
    rw [after_checkOn]
    have htidies := (tidies_afterPoints_iff hfresh disk runner _).2 hfits
    apply files_afterPoints
    intro before ps later hsplit hfiles
    rw [afterPoints_concat, (htidies before ps later hsplit).files, hfiles]

/-- The commands of such checks were each given one of the texts. There are none if no file can be
created. -/
theorem commands_after (hfresh : space.files.HasFreshNames tool.scratch tool.scratchName)
    (h : (tool.checkOn disk runner).Proceeds space texts) :
    ∃ cs, ((tool.checkOn disk runner).after space texts).commands = space.commands ++ cs ∧
      (∀ c ∈ cs, ∃ t ∈ texts, c.ChecksIn tool.scratch space.files t) ∧
      ((∀ n, ¬ tool.Writes space.files n) → cs = []) := by
  induction texts generalizing space with
  | nil => exact ⟨[], (List.append_nil _).symm, by simp, fun _ => rfl⟩
  | cons t texts ih =>
    obtain ⟨hfirst, hrest⟩ := h
    obtain ⟨cs, hcommands, hcs, hnone⟩ := commands_checkPoints hfresh disk runner t
    have hcs' : ∀ c ∈ cs, ∃ u ∈ t :: texts, c.ChecksIn tool.scratch space.files u :=
      fun c hc => ⟨t, List.mem_cons_self, hcs c hc⟩
    by_cases hlast : texts = []
    · subst hlast
      exact ⟨cs, hcommands, hcs', fun hnot => hnone (hnot _)⟩
    · -- The names are fresh for the next text because the files are the same again.
      obtain ⟨o, ho⟩ := hfirst hlast
      have hfiles : (tool.checkOn disk runner t space).memory.files = space.files :=
        (tidies_of_result_eq_ok hfresh ho).files
      obtain ⟨ds, hmore, hds, hnothing⟩ := ih (hfiles.symm ▸ hfresh) hrest
      rw [hfiles] at hds hnothing
      refine ⟨cs ++ ds, ?_, ?_, ?_⟩
      · rw [← List.append_assoc, ← hcommands]
        exact hmore
      · intro c hc
        rcases List.mem_append.1 hc with hc | hc
        · exact hcs' c hc
        · obtain ⟨u, hu, hchecks⟩ := hds c hc
          exact ⟨u, List.mem_cons_of_mem t hu, hchecks⟩
      · intro hnot
        rw [hnone (hnot _), hnothing hnot, List.append_nil]

end Tool

end DocSamples
