import DocSamples.Proofs.Directories
import DocSamples.Proofs.NormalPaths
import Mathlib.Data.List.Induction

namespace DocSamples

variable {tree : FileTree} {p root : Path} {place : Place} {rest : List Text} {w : Text}
  {c : Char} {node : Node} {content : Bytes}

namespace Path

theorem mem_text (hslash : c ≠ '/') (hdot : c ≠ '.') : c ∈ p.text ↔ ∃ w ∈ p.parts, c ∈ w := by
  rw [← Text.mem_join (mt List.mem_singleton.1 hslash)]
  by_cases hempty : List.replicate p.slashes '/' ++ Text.join ['/'] p.parts = []
  · have htext : p.text = ['.'] := if_pos (by simpa using hempty)
    rw [htext, (List.append_eq_nil_iff.1 hempty).2]
    simp [hdot]
  · rw [text_of_ne_nil hempty, List.mem_append]
    simp [List.mem_replicate, hslash]

theorem IsNormal.descend (hp : p.IsNormal) (h : ∀ w ∈ rest, IsPart w) : (p.descend rest).IsNormal :=
  ⟨hp.slashes, fun w hw => (List.mem_append.1 hw).elim (hp.parts w) (h w)⟩

theorem descend_nil (p : Path) : p.descend [] = p := by
  rw [descend, List.append_nil]

theorem descend_descend (p : Path) (a b : List Text) :
    (p.descend a).descend b = p.descend (a ++ b) := by
  simp only [descend, List.append_assoc]

theorem descend_inj : p.descend rest = root.descend rest ↔ p = root := by
  constructor
  · intro h
    obtain ⟨hslashes, hparts⟩ := Path.mk.inj h
    cases p
    cases root
    simp_all
  · rintro rfl
    rfl

end Path

namespace FileTree

structure IsName (w : Text) : Prop extends Path.IsPart w where
  ne_dots : w ≠ ['.', '.']
  nul_not_mem : '\x00' ∉ w
  length_le : (Utf8.encode w).length ≤ nameLimit

instance : Decidable (IsName w) :=
  decidable_of_iff ((w ≠ [] ∧ w ≠ ['.'] ∧ '/' ∉ w) ∧ w ≠ ['.', '.'] ∧ '\x00' ∉ w ∧
      (Utf8.encode w).length ≤ nameLimit)
    ⟨fun ⟨⟨h₁, h₂, h₃⟩, h₄, h₅, h₆⟩ => ⟨⟨h₁, h₂, h₃⟩, h₄, h₅, h₆⟩,
      fun ⟨⟨h₁, h₂, h₃⟩, h₄, h₅, h₆⟩ => ⟨⟨h₁, h₂, h₃⟩, h₄, h₅, h₆⟩⟩

/-- Everything that is stored has a name and stands in a directory, and so does what paths without a
root start from. -/
structure IsTree (tree : FileTree) : Prop where
  names : ∀ e ∈ tree.entries, ∀ w ∈ e.1, IsName w
  parent : ∀ e ∈ tree.entries, tree.node? e.1.dropLast = some .directory
  current : tree.node? tree.current = some .directory

instance : Decidable tree.IsTree :=
  decidable_of_iff ((∀ e ∈ tree.entries, ∀ w ∈ e.1, IsName w) ∧
      (∀ e ∈ tree.entries, tree.node? e.1.dropLast = some .directory) ∧
      tree.node? tree.current = some .directory)
    ⟨fun ⟨h₁, h₂, h₃⟩ => ⟨h₁, h₂, h₃⟩, fun ⟨h₁, h₂, h₃⟩ => ⟨h₁, h₂, h₃⟩⟩

theorem isSome_node?_iff :
    (tree.node? place).isSome = true ↔ place = [] ∨ ∃ e ∈ tree.entries, e.1 = place := by
  unfold node?
  split
  · rename_i h
    exact iff_of_true rfl (.inl (List.isEmpty_iff.1 h))
  · rename_i h
    rw [List.lookup_isSome_iff, or_iff_right (mt List.isEmpty_iff.2 h)]
    simp only [beq_iff_eq, eq_comm (a := place)]

theorem mem_below_iff :
    rest ∈ tree.below place ↔ ∃ e ∈ tree.entries, e.1 = place ++ rest := by
  simp only [below, List.mem_map, List.mem_filter, List.isPrefixOf_iff_prefix]
  constructor
  · rintro ⟨e, ⟨he, more, hmore⟩, rfl⟩
    exact ⟨e, he, by rw [← hmore, List.drop_left]⟩
  · rintro ⟨e, he, hplace⟩
    exact ⟨e, ⟨he, rest, hplace.symm⟩, by rw [hplace, List.drop_left]⟩

namespace IsTree

theorem isName (htree : tree.IsTree) (h : (tree.node? place).isSome = true) :
    ∀ w ∈ place, IsName w := by
  rcases isSome_node?_iff.1 h with rfl | ⟨e, he, rfl⟩
  · exact List.forall_mem_nil _
  · exact htree.names e he

/-- What something stands in is a directory. -/
theorem node?_dropLast (htree : tree.IsTree) (h : (tree.node? place).isSome = true) :
    tree.node? place.dropLast = some .directory := by
  rcases isSome_node?_iff.1 h with rfl | ⟨e, he, rfl⟩
  · rfl
  · exact htree.parent e he

theorem node?_of_append (htree : tree.IsTree) (h : (tree.node? (place ++ rest)).isSome = true)
    (hrest : rest ≠ []) : tree.node? place = some .directory := by
  induction rest using List.reverseRec with
  | nil => contradiction
  | append_singleton rest w ih =>
    have hdir := htree.node?_dropLast h
    rw [← List.append_assoc, List.dropLast_concat] at hdir
    cases rest with
    | nil => rwa [List.append_nil] at hdir
    | cons v rest => exact ih (by rw [hdir]; rfl) (List.cons_ne_nil v rest)

theorem step_eq (htree : tree.IsTree) (h : (tree.node? (place ++ [w])).isSome = true) :
    tree.step place w = .ok (place ++ [w]) := by
  have hname := htree.isName h w (List.mem_append_right _ List.mem_cons_self)
  refine step_eq_ok_iff.2 ⟨htree.node?_of_append h (List.cons_ne_nil w []), hname.length_le, ?_⟩
  exact if_neg hname.ne_dots

theorem foldlM_step_eq (htree : tree.IsTree) (h : (tree.node? (place ++ rest)).isSome = true) :
    rest.foldlM tree.step place = .ok (place ++ rest) := by
  induction rest using List.reverseRec with
  | nil => rw [List.append_nil]; rfl
  | append_singleton rest w ih =>
    rw [← List.append_assoc] at h ⊢
    have hdir := htree.node?_of_append h (List.cons_ne_nil w [])
    exact foldlM_step_concat.2 ⟨_, ih (by rw [hdir]; rfl), htree.step_eq h⟩

/-- The names that lead from a directory to what stands below lead there behind a path to that
directory, unless it gets too long with them. -/
theorem find_descend (htree : tree.IsTree) (hplace : tree.place? root = .ok place)
    (h : tree.node? (place ++ rest) = some node) :
    tree.find (root.descend rest) =
      if pathLimit ≤ (Utf8.encode (root.descend rest).text).length then .error .nameTooLong
      else .ok (place ++ rest, node) := by
  have hsome : (tree.node? (place ++ rest)).isSome = true := by rw [h]; rfl
  obtain ⟨hnul, -, hparts⟩ := place?_eq_ok_iff.1 hplace
  have hnul' : '\x00' ∉ (root.descend rest).text := by
    rw [Path.mem_text (by decide) (by decide)] at hnul ⊢
    rintro ⟨w, hw, hmem⟩
    rcases List.mem_append.1 hw with hw | hw
    · exact hnul ⟨w, hw, hmem⟩
    · exact (htree.isName hsome w (List.mem_append_right _ hw)).nul_not_mem hmem
  have hfold : (root.descend rest).parts.foldlM tree.step (tree.start (root.descend rest)) =
      .ok (place ++ rest) := by
    have hroot : root.parts.foldlM tree.step (tree.start (root.descend rest)) = .ok place := hparts
    rw [Path.descend, List.foldlM_append]
    rw [Path.descend] at hroot
    rw [hroot]
    exact htree.foldlM_step_eq hsome
  split
  · rename_i hlong
    rw [find, place?, if_neg (by simpa using hnul'), if_pos hlong]
    rfl
  · rename_i hlong
    have hplace' := place?_eq_ok_iff.2 ⟨hnul', Nat.lt_of_not_le hlong, hfold⟩
    rw [find_eq hplace', h]

/-- A path to a file ends with the name of the file. -/
theorem getLast?_of_find (htree : tree.IsTree) (h : tree.find p = .ok (place, .file content)) :
    place.getLast? = p.parts.getLast? := by
  obtain ⟨hplace, hnode⟩ := find_eq_ok_iff.1 h
  obtain ⟨-, -, hparts⟩ := place?_eq_ok_iff.1 hplace
  rcases List.eq_nil_or_concat p.parts with hnil | ⟨parts, w, hconcat⟩
  · -- Where paths start is a directory.
    rw [hnil] at hparts
    cases hparts
    unfold start at hnode
    split at hnode
    · cases hnode
    · cases htree.current.symm.trans hnode
  · rw [hconcat, List.concat_eq_append] at hparts
    rw [hconcat, List.concat_eq_append]
    obtain ⟨dir, -, hstep⟩ := foldlM_step_concat.1 hparts
    obtain ⟨hdir, -, rfl⟩ := step_eq_ok_iff.1 hstep
    unfold Place.next at hnode ⊢
    split
    · rename_i hdots
      rw [if_pos hdots, htree.node?_dropLast (by rw [hdir]; rfl)] at hnode
      cases hnode
    · rw [List.getLast?_concat, List.getLast?_concat]

end IsTree

end FileTree

end DocSamples
