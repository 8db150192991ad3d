import DocSamples.Proofs.PathOrder
import DocSamples.Proofs.TreeShape

namespace DocSamples.FileTree

variable {tree : FileTree} {suffixes : List Text} {roots ds : List Path} {root p q : Path}
  {place : Place} {names : List Text} {node : Node}

def Admits (tree : FileTree) (p : Path) : Prop := tree.find p ≠ .error .nameTooLong

/-- A path covers itself and, if it leads to a directory, the paths from there to what stands
below. -/
inductive Covers (tree : FileTree) (root : Path) : Path → Prop
  | itself : Covers tree root root
  | below {place : Place} {rest : List Text} (hroot : tree.find root = .ok (place, .directory))
      (h : (tree.node? (place ++ rest)).isSome = true) : Covers tree root (root.descend rest)

/-- A path to a file with one of the suffixes, in small letters or capitals. -/
structure IsDocument (tree : FileTree) (suffixes : List Text) (p : Path) : Prop where
  file : ∃ place content, tree.find p = .ok (place, .file content)
  suffix : ∃ t ∈ suffixes, t.lower = p.suffix.lower

theorem admits_of_find {found : Place × Node} (h : tree.find p = .ok found) : tree.Admits p := by
  rw [Admits, h]
  nofun

theorem Admits.find_descend (h : tree.Admits (root.descend names)) (htree : tree.IsTree)
    (hroot : tree.place? root = .ok place) (hnode : tree.node? (place ++ names) = some node) :
    tree.find (root.descend names) = .ok (place ++ names, node) := by
  have hfind := htree.find_descend hroot hnode
  split at hfind
  · exact absurd hfind h
  · exact hfind

theorem exists_look_iff : (∃ found, tree.look p = .ok found) ↔ tree.Admits p := by
  unfold look Admits
  split <;> simp_all

theorem exists_isDocument_iff :
    (∃ b, tree.isDocument suffixes p = .ok b) ↔ tree.Admits p := by
  rw [← exists_look_iff]
  constructor
  · rintro ⟨b, h⟩
    obtain ⟨found, hlook, -⟩ := exists_of_bind_eq_ok h
    exact ⟨found, hlook⟩
  · rintro ⟨found, hlook⟩
    rw [isDocument, hlook]
    rcases found with _ | ⟨_, _ | _⟩ <;> exact ⟨_, rfl⟩

theorem look_eq_some_iff {found : Place × Node} :
    tree.look p = .ok (some found) ↔ tree.find p = .ok found := by
  unfold look
  split <;> simp_all

theorem hasSuffix_iff : p.hasSuffix suffixes = true ↔ ∃ t ∈ suffixes, t.lower = p.suffix.lower := by
  rw [Path.hasSuffix, List.contains_iff_mem, List.mem_map]

theorem isDocument_iff : tree.isDocument suffixes p = .ok true ↔ tree.IsDocument suffixes p := by
  constructor
  · intro h
    obtain ⟨found, hlook, h⟩ := exists_of_bind_eq_ok h
    rcases found with _ | ⟨place, _ | content⟩
    · cases h
    · cases h
    · exact ⟨⟨place, content, look_eq_some_iff.1 hlook⟩, hasSuffix_iff.1 (Except.ok.inj h)⟩
  · rintro ⟨⟨place, content, hfind⟩, hsuffix⟩
    rw [isDocument, look_eq_some_iff.2 hfind]
    exact congrArg Except.ok (hasSuffix_iff.2 hsuffix)

theorem IsDocument.admits (h : tree.IsDocument suffixes p) : tree.Admits p := by
  obtain ⟨place, content, hfind⟩ := h.file
  exact admits_of_find hfind

theorem covers_of_directory (h : tree.find root = .ok (place, .directory)) :
    tree.Covers root p ↔ p = root ∨ ∃ rest ∈ tree.below place, p = root.descend rest := by
  constructor
  · rintro (_ | ⟨hroot, hnode⟩)
    · exact .inl rfl
    · rename_i rest
      cases h.symm.trans hroot
      rcases isSome_node?_iff.1 hnode with hnil | hmem
      · rw [(List.append_eq_nil_iff.1 hnil).2, Path.descend_nil]
        exact .inl rfl
      · exact .inr ⟨rest, mem_below_iff.2 hmem, rfl⟩
  · rintro (rfl | ⟨rest, hrest, rfl⟩)
    · exact .itself
    · exact .below h (isSome_node?_iff.2 (.inr (mem_below_iff.1 hrest)))

theorem covers_of_not_directory (h : ∀ place, tree.find root ≠ .ok (place, .directory)) :
    tree.Covers root p ↔ p = root := by
  constructor
  · rintro (_ | ⟨hroot, -⟩)
    · rfl
    · exact absurd hroot (h _)
  · rintro rfl
    exact .itself

theorem Covers.isNormal (htree : tree.IsTree) (hroot : root.IsNormal) (h : tree.Covers root p) :
    p.IsNormal := by
  cases h with
  | itself => exact hroot
  | below _ hnode =>
    apply hroot.descend
    intro w hw
    exact (htree.isName hnode w (List.mem_append_right _ hw)).toIsPart

/-- The paths that are looked at are those that are covered. A directory from which they start need
not be among them, as it is no document. -/
theorem exists_candidates (suffixes : List Text) (h : tree.Admits root) :
    ∃ ps, tree.candidates root = .ok ps ∧ (∀ p, tree.Covers root p ↔ p = root ∨ p ∈ ps) ∧
    (tree.IsDocument suffixes root → root ∈ ps) := by
  by_cases hdir : ∃ place, tree.find root = .ok (place, .directory)
  · obtain ⟨place, hfind⟩ := hdir
    refine ⟨(tree.below place).map root.descend, ?_, fun p => ?_, ?_⟩
    · rw [candidates, look_eq_some_iff.2 hfind]
      rfl
    · rw [covers_of_directory hfind, List.mem_map]
      simp only [eq_comm]
    · rintro ⟨⟨_, _, hfile⟩, -⟩
      cases hfind.symm.trans hfile
  · rw [not_exists] at hdir
    refine ⟨[root], ?_, fun p => ?_, fun _ => List.mem_cons_self⟩
    · obtain ⟨found, hlook⟩ := exists_look_iff.2 h
      rw [candidates, hlook]
      rcases found with _ | ⟨place, _ | _⟩
      · rfl
      · exact absurd (look_eq_some_iff.1 hlook) (hdir place)
      · rfl
    · rw [covers_of_not_directory hdir, List.mem_singleton, or_self]

theorem admits_of_candidates {ps : List Path} (h : tree.candidates root = .ok ps) :
    tree.Admits root := by
  obtain ⟨found, hlook, -⟩ := exists_of_bind_eq_ok h
  exact exists_look_iff.1 ⟨found, hlook⟩

theorem exists_documentsAt_iff :
    (∃ ds, tree.documentsAt suffixes root = .ok ds) ↔ ∀ p, tree.Covers root p → tree.Admits p := by
  constructor
  · rintro ⟨ds, h⟩ p hp
    obtain ⟨ps, hps, hfilter⟩ := exists_of_bind_eq_ok h
    have hroot := admits_of_candidates hps
    obtain ⟨ps', hps', hcovers, -⟩ := exists_candidates suffixes hroot
    cases hps.symm.trans hps'
    rcases (hcovers p).1 hp with rfl | hmem
    · exact hroot
    · exact exists_isDocument_iff.1 (exists_filterM_eq_ok_iff.1 ⟨ds, hfilter⟩ p hmem)
  · intro h
    obtain ⟨ps, hps, hcovers, -⟩ := exists_candidates suffixes (h root .itself)
    rw [documentsAt, hps]
    refine exists_filterM_eq_ok_iff.2 fun p hp => exists_isDocument_iff.2 (h p ?_)
    exact (hcovers p).2 (.inr hp)

theorem mem_documentsAt (h : tree.documentsAt suffixes root = .ok ds) :
    p ∈ ds ↔ tree.Covers root p ∧ tree.IsDocument suffixes p := by
  obtain ⟨ps, hps, hfilter⟩ := exists_of_bind_eq_ok h
  obtain ⟨ps', hps', hcovers, hself⟩ := exists_candidates suffixes (admits_of_candidates hps)
  cases hps.symm.trans hps'
  rw [mem_filterM hfilter, isDocument_iff, hcovers]
  constructor
  · rintro ⟨hp, hdoc⟩
    exact ⟨.inr hp, hdoc⟩
  · rintro ⟨rfl | hp, hdoc⟩
    · exact ⟨hself hdoc, hdoc⟩
    · exact ⟨hp, hdoc⟩

/-- Documents are selected unless a path that has to be looked at is too long. -/
theorem exists_documents_iff :
    (∃ ds, tree.documents suffixes roots = .ok ds) ↔
      ∀ r ∈ roots, ∀ p, tree.Covers r p → tree.Admits p := by
  have hbind : (∃ ds, tree.documents suffixes roots = .ok ds) ↔
      ∃ found, roots.mapM (tree.documentsAt suffixes) = .ok found := by
    constructor
    · rintro ⟨ds, h⟩
      obtain ⟨found, hfound, -⟩ := exists_of_bind_eq_ok h
      exact ⟨found, hfound⟩
    · rintro ⟨found, hfound⟩
      exact ⟨found.flatten.eraseDups.mergeSort Path.le, by rw [documents, hfound]; rfl⟩
  rw [hbind, exists_mapM_eq_ok_iff]
  simp only [exists_documentsAt_iff]

theorem mem_documents (h : tree.documents suffixes roots = .ok ds) :
    p ∈ ds ↔ (∃ r ∈ roots, tree.Covers r p) ∧ tree.IsDocument suffixes p := by
  obtain ⟨found, hfound, h⟩ := exists_of_bind_eq_ok h
  cases h
  rw [List.mem_mergeSort, List.mem_eraseDups, mem_flatten_of_mapM hfound]
  constructor
  · rintro ⟨r, hr, ps, hps, hp⟩
    obtain ⟨hcovers, hdoc⟩ := (mem_documentsAt hps).1 hp
    exact ⟨⟨r, hr, hcovers⟩, hdoc⟩
  · rintro ⟨⟨r, hr, hcovers⟩, hdoc⟩
    obtain ⟨ps, hps⟩ := exists_mapM_eq_ok_iff.1 ⟨found, hfound⟩ r hr
    exact ⟨r, hr, ps, hps, (mem_documentsAt hps).2 ⟨hcovers, hdoc⟩⟩

theorem nodup_documents (h : tree.documents suffixes roots = .ok ds) : ds.Nodup := by
  obtain ⟨found, -, hsort⟩ := exists_of_bind_eq_ok h
  cases hsort
  exact Path.nodup_mergeSort _

theorem inOrder_documents (htree : tree.IsTree) (hroots : ∀ r ∈ roots, r.IsNormal)
    (h : tree.documents suffixes roots = .ok ds) : Path.InOrder ds := by
  obtain ⟨found, -, hsort⟩ := exists_of_bind_eq_ok h
  cases hsort
  apply Path.inOrder_mergeSort
  intro p hp
  obtain ⟨⟨r, hr, hcovers⟩, -⟩ :=
    (mem_documents h).1 (List.mem_mergeSort.2 (List.mem_eraseDups.2 hp))
  exact hcovers.isNormal htree (hroots r hr)

/-- What is selected: the documents that the paths cover, in the order of their texts. -/
theorem documents_eq_ok_iff (htree : tree.IsTree) (hroots : ∀ r ∈ roots, r.IsNormal) :
    tree.documents suffixes roots = .ok ds ↔
      (∀ r ∈ roots, ∀ p, tree.Covers r p → tree.Admits p) ∧ Path.InOrder ds ∧
      ∀ p, p ∈ ds ↔ (∃ r ∈ roots, tree.Covers r p) ∧ tree.IsDocument suffixes p := by
  constructor
  · intro h
    exact ⟨exists_documents_iff.1 ⟨ds, h⟩, inOrder_documents htree hroots h,
      fun _ => mem_documents h⟩
  · rintro ⟨hadmits, horder, hmem⟩
    obtain ⟨ds', h⟩ := exists_documents_iff.2 hadmits
    rw [h]
    refine congrArg Except.ok ((inOrder_documents htree hroots h).eq_of_mem_iff horder fun p => ?_)
    rw [mem_documents h, hmem]

theorem IsDocument.covers_iff (h : tree.IsDocument suffixes p) : tree.Covers p q ↔ q = p := by
  apply covers_of_not_directory
  intro place hdir
  obtain ⟨_, _, hfile⟩ := h.file
  cases hdir.symm.trans hfile

/-- What is selected selects itself. -/
theorem documents_documents (htree : tree.IsTree) (hroots : ∀ r ∈ roots, r.IsNormal)
    (h : tree.documents suffixes roots = .ok ds) : tree.documents suffixes ds = .ok ds := by
  have hdoc : ∀ p ∈ ds, tree.IsDocument suffixes p := fun p hp => ((mem_documents h).1 hp).2
  have hnormal : ∀ p ∈ ds, p.IsNormal := by
    intro p hp
    obtain ⟨⟨r, hr, hcovers⟩, -⟩ := (mem_documents h).1 hp
    exact hcovers.isNormal htree (hroots r hr)
  refine (documents_eq_ok_iff htree hnormal).2 ⟨?_, inOrder_documents htree hroots h, fun p => ?_⟩
  · intro r hr p hp
    cases (hdoc r hr).covers_iff.1 hp
    exact (hdoc r hr).admits
  · constructor
    · intro hp
      exact ⟨⟨p, hp, .itself⟩, hdoc p hp⟩
    · rintro ⟨⟨r, hr, hp⟩, -⟩
      cases (hdoc r hr).covers_iff.1 hp
      exact hr

/-- The selection is a function of the set of paths. It is in order, consists of the documents that
they cover, selects itself, and joins what both sets of a union select. There is one unless a path
that has to be looked at is too long. -/
theorem documents_setwise (htree : tree.IsTree) (suffixes : List Text)
    (hroots : ∀ r ∈ roots, r.IsNormal) (more : List Path) :
    ((∃ ds, tree.documents suffixes roots = .ok ds) ↔
      ∀ r ∈ roots, ∀ p, tree.Covers r p → tree.Admits p) ∧
    (∀ ds, tree.documents suffixes roots = .ok ds →
      Path.InOrder ds ∧
      (∀ p, p ∈ ds ↔ (∃ r ∈ roots, tree.Covers r p) ∧ tree.IsDocument suffixes p) ∧
      tree.documents suffixes ds = .ok ds) ∧
    (∀ roots', (∀ r, r ∈ roots' ↔ r ∈ roots) → ∀ ds,
      tree.documents suffixes roots' = .ok ds ↔ tree.documents suffixes roots = .ok ds) ∧
    ((∃ ds, tree.documents suffixes (roots ++ more) = .ok ds) ↔
      (∃ ds, tree.documents suffixes roots = .ok ds) ∧
      ∃ ds, tree.documents suffixes more = .ok ds) ∧
    ∀ ds ds₁ ds₂, tree.documents suffixes (roots ++ more) = .ok ds →
      tree.documents suffixes roots = .ok ds₁ → tree.documents suffixes more = .ok ds₂ →
      ∀ p, p ∈ ds ↔ p ∈ ds₁ ∨ p ∈ ds₂ := by
  refine ⟨exists_documents_iff, fun ds h => ?_, fun roots' hsame ds => ?_, ?_, ?_⟩
  · exact ⟨inOrder_documents htree hroots h, fun p => mem_documents h,
      documents_documents htree hroots h⟩
  · rw [documents_eq_ok_iff htree hroots,
      documents_eq_ok_iff htree fun r hr => hroots r ((hsame r).1 hr)]
    simp only [hsame]
  · simp only [exists_documents_iff, List.mem_append, or_imp, forall_and]
  · intro ds ds₁ ds₂ h h₁ h₂ p
    rw [mem_documents h, mem_documents h₁, mem_documents h₂, ← or_and_right]
    simp only [List.mem_append, or_and_right, exists_or]

theorem documents_of_mapM {found : List (List Path)}
    (hfound : roots.mapM (tree.documentsAt suffixes) = .ok found)
    (hds : found.flatten.eraseDups = ds) (horder : ds.Pairwise fun p q => p.le q = true) :
    tree.documents suffixes roots = .ok ds := by
  rw [documents, hfound]
  subst hds
  exact congrArg Except.ok (List.mergeSort_of_pairwise horder)

/-- A directory with a document, a file that is none, and a directory that is named like one. -/
def shelf : FileTree where
  entries := [(["d"], .directory), (["d", "a.md"], .file []), (["d", "b.txt"], .file []),
    (["d", "c.md"], .directory), (["d", "c.md", "e.MD"], .file [])]
  current := []

/-- The directory and, once more, the second document below it. -/
def shelfRoots : List Path := ["d".toList, "./d//c.md/e.MD".toList].map Path.ofText

theorem isTree_shelf : shelf.IsTree := by
  decide +kernel

theorem isNormal_shelfRoots : ∀ r ∈ shelfRoots, r.IsNormal :=
  List.forall_mem_map.2 fun t _ => Path.isNormal_ofText t

theorem documents_shelf : shelf.documents [".Md"] shelfRoots =
    .ok [⟨0, ["d", "a.md"]⟩, ⟨0, ["d", "c.md", "e.MD"]⟩] := by
  have hfound : shelfRoots.mapM (shelf.documentsAt [".Md"]) =
      .ok [[⟨0, ["d", "a.md"]⟩, ⟨0, ["d", "c.md", "e.MD"]⟩], [⟨0, ["d", "c.md", "e.MD"]⟩]] := rfl
  exact documents_of_mapM hfound rfl (by decide +kernel)

theorem documents_setwise_shelf :
    shelf.IsTree ∧ (∀ r ∈ shelfRoots, r.IsNormal) ∧
      ∃ ds, shelf.documents [".Md"] shelfRoots = .ok ds ∧
        shelf.documents [".Md"] (shelfRoots.reverse ++ shelfRoots) = .ok ds ∧
        shelf.documents [".Md"] ds = .ok ds := by
  obtain ⟨-, hselected, hset, -⟩ := documents_setwise isTree_shelf [".Md"] isNormal_shelfRoots []
  obtain ⟨-, -, hself⟩ := hselected _ documents_shelf
  refine ⟨isTree_shelf, isNormal_shelfRoots, _, documents_shelf, ?_, hself⟩
  refine (hset _ (fun r => ?_) _).2 documents_shelf
  rw [List.mem_append, List.mem_reverse, or_self]

end DocSamples.FileTree
