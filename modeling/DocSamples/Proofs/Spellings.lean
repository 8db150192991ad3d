import DocSamples.Proofs.DocumentRun
import DocSamples.Proofs.FileSelection
import Mathlib.Data.List.Nodup

namespace DocSamples

namespace FileTree

variable {tree : FileTree} {suffixes : List Text} {roots ds : List Path} {root p q : Path}
  {place dir : Place} {names : List Text} {content : Bytes}

/-- A file that a path covers stands at the place to which the path leads or below it, and the path
is the start of the spelling under which the file is covered. -/
theorem Covers.exists_names (htree : tree.IsTree) (hcovers : tree.Covers root p)
    (hp : tree.find p = .ok (place, .file content)) :
    ∃ dir names, tree.place? root = .ok dir ∧ p = root.descend names ∧ place = dir ++ names := by
  cases hcovers with
  | itself =>
    exact ⟨place, [], (find_eq_ok_iff.1 hp).1, root.descend_nil.symm, (List.append_nil _).symm⟩
  | @below dir names hroot hnode =>
    have hplace := (find_eq_ok_iff.1 hroot).1
    obtain ⟨node, hnode⟩ := Option.isSome_iff_exists.1 hnode
    cases hp.symm.trans ((admits_of_find hp).find_descend htree hplace hnode)
    exact ⟨dir, names, hplace, rfl, rfl⟩

theorem covers_descend (htree : tree.IsTree) (hroot : tree.place? root = .ok dir)
    (hnode : (tree.node? (dir ++ names)).isSome = true) :
    tree.Covers root (root.descend names) := by
  by_cases hnames : names = []
  · subst hnames
    rw [Path.descend_nil]
    exact .itself
  · have hdir := htree.node?_of_append hnode hnames
    exact .below (find_eq_ok_iff.2 ⟨hroot, hdir⟩) hnode

/-- Two paths to one file end with the same name, so that both are documents or none is. -/
theorem IsDocument.of_find (htree : tree.IsTree) (hp : tree.IsDocument suffixes p)
    (hplace : tree.find p = .ok (place, .file content))
    (hq : tree.find q = .ok (place, .file content)) : tree.IsDocument suffixes q := by
  have hname : q.suffix = p.suffix := by
    rw [Path.suffix, Path.name, ← htree.getLast?_of_find hq, htree.getLast?_of_find hplace]
    rfl
  refine ⟨⟨place, content, hq⟩, ?_⟩
  rw [hname]
  exact hp.suffix

/-- Where one of some paths leads to the place of another one that covers a document, or above it,
the second is spelled as the first with the names that lead from one place to the other. -/
def SpelledAlike (tree : FileTree) (suffixes : List Text) (roots : List Path) : Prop :=
  ∀ r ∈ roots, ∀ r' ∈ roots, ∀ place names, tree.place? r = .ok place →
    tree.place? r' = .ok (place ++ names) →
    (∃ p, tree.Covers r' p ∧ tree.IsDocument suffixes p) → r' = r.descend names

/-- A document below the place to which a path leads is also selected under the spelling that starts
with that path. -/
theorem descend_mem_documents (htree : tree.IsTree) (h : tree.documents suffixes roots = .ok ds)
    (hroot : root ∈ roots) (hdir : tree.place? root = .ok dir)
    (hp : tree.find p = .ok (dir ++ names, .file content)) (hdoc : tree.IsDocument suffixes p) :
    root.descend names ∈ ds ∧ tree.place? (root.descend names) = .ok (dir ++ names) := by
  have hnode := (find_eq_ok_iff.1 hp).2
  have hcovers := covers_descend htree hdir (by rw [hnode]; rfl)
  have hadmits := exists_documents_iff.1 ⟨ds, h⟩ root hroot _ hcovers
  have hfind := hadmits.find_descend htree hdir hnode
  have hdoc' := hdoc.of_find htree hp hfind
  exact ⟨(mem_documents h).2 ⟨⟨root, hroot, hcovers⟩, hdoc'⟩, (find_eq_ok_iff.1 hfind).1⟩

theorem SpelledAlike.descend_eq {r r' : Path} {dir' a b : Place}
    (h : tree.SpelledAlike suffixes roots) (hr : r ∈ roots) (hr' : r' ∈ roots)
    (hdir : tree.place? r = .ok dir) (hdir' : tree.place? r' = .ok dir')
    (habove : dir <+: dir') (hplace : dir ++ a = dir' ++ b)
    (hdoc : ∃ p, tree.Covers r' p ∧ tree.IsDocument suffixes p) : r.descend a = r'.descend b := by
  obtain ⟨names, rfl⟩ := habove
  rw [List.append_assoc, List.append_cancel_left_eq] at hplace
  rw [h r hr r' hr' dir names hdir hdir' hdoc, Path.descend_descend, hplace]

theorem nodup_places_iff (htree : tree.IsTree) (hroots : ∀ r ∈ roots, r.IsNormal)
    (h : tree.documents suffixes roots = .ok ds) :
    (ds.map tree.place?).Nodup ↔ tree.SpelledAlike suffixes roots := by
  rw [List.nodup_map_iff_inj_on (inOrder_documents htree hroots h).nodup]
  constructor
  · rintro hinj r hr r' hr' dir names hdir hdir' ⟨p, hcovers, hdoc⟩
    obtain ⟨place, content, hp⟩ := hdoc.file
    obtain ⟨_, more, hplace', rfl, rfl⟩ := hcovers.exists_names htree hp
    cases hdir'.symm.trans hplace'
    have hmem := (mem_documents h).2 ⟨⟨r', hr', hcovers⟩, hdoc⟩
    have hplace := (find_eq_ok_iff.1 hp).1
    rw [List.append_assoc] at hp hplace
    obtain ⟨hmem', hplace'⟩ := descend_mem_documents htree h hr hdir hp hdoc
    have heq := hinj _ hmem _ hmem' (hplace.trans hplace'.symm)
    rw [← Path.descend_descend] at heq
    exact Path.descend_inj.1 heq
  · intro halike p hp q hq hsame
    obtain ⟨⟨r, hr, hcovers⟩, hdoc⟩ := (mem_documents h).1 hp
    obtain ⟨⟨r', hr', hcovers'⟩, hdoc'⟩ := (mem_documents h).1 hq
    obtain ⟨place, content, hfind⟩ := hdoc.file
    obtain ⟨place', content', hfind'⟩ := hdoc'.file
    obtain ⟨dir, a, hdir, hpa, hplace⟩ := hcovers.exists_names htree hfind
    obtain ⟨dir', b, hdir', hqb, hplace'⟩ := hcovers'.exists_names htree hfind'
    rw [(find_eq_ok_iff.1 hfind).1, (find_eq_ok_iff.1 hfind').1, Except.ok.injEq, hplace, hplace']
      at hsame
    rw [hpa, hqb]
    -- Both paths lead above one file, so that one of them leads above or to the other.
    rcases List.prefix_or_prefix_of_prefix ⟨a, rfl⟩ ⟨b, hsame.symm⟩ with habove | habove
    · exact halike.descend_eq hr hr' hdir hdir' habove hsame ⟨q, hcovers', hdoc'⟩
    · exact (halike.descend_eq hr' hr hdir' hdir habove hsame.symm ⟨p, hcovers, hdoc⟩).symm

theorem eq_append_of_foldlM_step {parts : List Text} (hdots : ['.', '.'] ∉ parts)
    (h : parts.foldlM tree.step dir = .ok place) : place = dir ++ parts := by
  induction parts generalizing dir with
  | nil =>
    cases h
    exact (List.append_nil _).symm
  | cons part parts ih =>
    rw [List.mem_cons, not_or] at hdots
    rw [List.foldlM_cons] at h
    obtain ⟨next, hnext, h⟩ := exists_of_bind_eq_ok h
    obtain ⟨-, -, rfl⟩ := step_eq_ok_iff.1 hnext
    rw [ih hdots.2 h, Place.next, if_neg (Ne.symm hdots.1), List.append_assoc]
    rfl

/-- Paths that start in the same way and never turn to a directory above are spelled alike. -/
theorem spelledAlike_of_forall (hdots : ∀ r ∈ roots, ['.', '.'] ∉ r.parts)
    (hslashes : ∀ r ∈ roots, ∀ r' ∈ roots, r.slashes = r'.slashes) :
    tree.SpelledAlike suffixes roots := by
  intro r hr r' hr' place names hplace hplace' _
  obtain ⟨-, -, hparts⟩ := place?_eq_ok_iff.1 hplace
  obtain ⟨-, -, hparts'⟩ := place?_eq_ok_iff.1 hplace'
  have hstart : tree.start r = tree.start r' := by
    rw [start, start, Path.isAbsolute, Path.isAbsolute, hslashes r hr r' hr']
  have heq := eq_append_of_foldlM_step (hdots r' hr') hparts'
  rw [eq_append_of_foldlM_step (hdots r hr) hparts, hstart, List.append_assoc,
    List.append_cancel_left_eq] at heq
  cases r'
  rw [Path.descend, heq, hslashes r hr _ hr']

/-- No file is selected twice exactly if the paths are spelled alike, as they are if all of them
start in the same way and none turns to a directory above. -/
theorem selects_once_iff (htree : tree.IsTree) (hroots : ∀ r ∈ roots, r.IsNormal)
    (h : tree.documents suffixes roots = .ok ds) :
    ((ds.map tree.place?).Nodup ↔ tree.SpelledAlike suffixes roots) ∧
    ((∀ r ∈ roots, ['.', '.'] ∉ r.parts) → (∀ r ∈ roots, ∀ r' ∈ roots, r.slashes = r'.slashes) →
      (ds.map tree.place?).Nodup) := by
  have hiff := nodup_places_iff htree hroots h
  exact ⟨hiff, fun hdots hslashes => hiff.2 (spelledAlike_of_forall hdots hslashes)⟩

theorem shelf_selects_once :
    shelf.IsTree ∧ (∀ r ∈ shelfRoots, r.IsNormal) ∧
      ∃ ds, shelf.documents [".Md"] shelfRoots = .ok ds ∧ (ds.map shelf.place?).Nodup := by
  refine ⟨isTree_shelf, isNormal_shelfRoots, _, documents_shelf, ?_⟩
  apply (selects_once_iff isTree_shelf isNormal_shelfRoots documents_shelf).2
  · decide +kernel
  · decide +kernel

end FileTree

namespace CommandLine

/-- The document of the host under two names. -/
def twiceOptions : Options := { paths := ["../docs/a.md", "a.md"] }

def twiceDocuments : List Document :=
  [{ assertionDocument with path := some ⟨0, ["..", "docs", "a.md"]⟩ }, assertionDocument]

theorem documents_twice :
    (assertionHost none).files.documents [".md", ".mdx"] (twiceOptions.paths.map Path.ofText) =
      .ok [⟨0, ["..", "docs", "a.md"]⟩, ⟨0, ["a.md"]⟩] := by
  have hfound : (twiceOptions.paths.map Path.ofText).mapM
      ((assertionHost none).files.documentsAt [".md", ".mdx"]) =
        .ok [[⟨0, ["..", "docs", "a.md"]⟩], [⟨0, ["a.md"]⟩]] := rfl
  exact FileTree.documents_of_mapM hfound rfl (by decide +kernel)

theorem selects_twice :
    Selects (assertionHost none) ["../docs/a.md", "a.md"] twiceOptions (assertionSettings "scaf")
      twiceDocuments where
  accepted := by rfl
  noSnippet := rfl
  loads := by
    have honce : Selects (assertionHost none) ["a.md"] assertionOptions (assertionSettings "scaf")
        [assertionDocument] := by
      apply selects_assertionHost
      simp only [assertionSettings, Settings.default, Settings.withEnvironment_none]
    exact honce.loads
  reads := ⟨_, documents_twice, by simp, by rfl⟩

theorem isClean_twice : ∀ d ∈ twiceDocuments,
    d.IsClean (toolAnswer (assertionHost none) (assertionSettings "scaf") twiceOptions
      acceptsFunctions) (assertionSettings "scaf") := by
  intro d hd f hf _
  have hscan : Fence.scan d.flavor d.text = [Block.indentedAssertion.fence] := by
    simp only [twiceDocuments, List.mem_cons, List.not_mem_nil, or_false] at hd
    rcases hd with rfl | rfl <;> exact scan_assertionDocument
  rw [hscan] at hf
  cases List.mem_singleton.1 hf
  exact (settles_iff_isSettled readsRejections_assertionHost).2 isSettled_assertion

/-- One file is selected under two names, and a run counts it as two documents. -/
theorem run_twice :
    (assertionHost none).files.documents [".md", ".mdx"] (twiceOptions.paths.map Path.ofText) =
        .ok [⟨0, ["..", "docs", "a.md"]⟩, ⟨0, ["a.md"]⟩] ∧
      (assertionHost none).files.place? ⟨0, ["..", "docs", "a.md"]⟩ = .ok ["docs", "a.md"] ∧
      (assertionHost none).files.place? ⟨0, ["a.md"]⟩ = .ok ["docs", "a.md"] ∧
      (run (assertionHost none) ["../docs/a.md", "a.md"]).exit = .status 0 ∧
      (run (assertionHost none) ["../docs/a.md", "a.md"]).output =
        unlines ["Validated 2 scaf snippet(s) in 2 document(s) (0 skipped)."] := by
  obtain ⟨hexit, houtput⟩ := selects_twice.exit_of_isClean (canWrite_assertionHost none _)
    functionRunner_follows isClean_twice nofun
  refine ⟨documents_twice, rfl, rfl, hexit, ?_⟩
  rw [houtput rfl, summary_map_passed]
  simp only [twiceDocuments, countFences, scan_assertionDocument]
  decide

end CommandLine

end DocSamples
