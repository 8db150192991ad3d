import DocSamples.FileTree
import DocSamples.Proofs.Traversals

namespace DocSamples.FileTree

variable {tree after a b c : FileTree} {path : Path} {place p q : Place} {part : Text}
  {content : Bytes}

theorem lookup_filter_ne (entries : List (Place × Node)) (p q : Place) :
    (entries.filter (·.1 != p)).lookup q = if q = p then none else entries.lookup q := by
  induction entries with
  | nil => simp
  | cons e entries ih =>
    obtain ⟨r, node⟩ := e
    rw [List.filter_cons, List.lookup_cons]
    by_cases hr : r = p
    · subst hr
      rw [if_neg (by simp), ih]
      by_cases hq : q = r
      · rw [if_pos hq, if_pos hq]
      · rw [if_neg hq, if_neg hq, beq_eq_false_iff_ne.2 hq]
    · rw [if_pos (by simpa using hr), List.lookup_cons, ih]
      by_cases hq : q = r
      · subst hq
        simp [hr]
      · rw [beq_eq_false_iff_ne.2 hq]

theorem node?_put (tree : FileTree) (q : Place) (node : Node) (hp : p ≠ []) :
    (tree.put p node).node? q = if q = p then some node else tree.node? q := by
  by_cases hq : q = p
  · subst hq
    simp [node?, put, hp]
  · simp only [node?, put, List.lookup_cons, beq_eq_false_iff_ne.2 hq, lookup_filter_ne,
      if_neg hq]

theorem node?_filter (tree : FileTree) (q : Place) (hp : p ≠ []) :
    node? { tree with entries := tree.entries.filter (·.1 != p) } q =
      if q = p then none else tree.node? q := by
  by_cases hq : q = p
  · subst hq
    simp [node?, lookup_filter_ne, hp]
  · simp only [node?, lookup_filter_ne, if_neg hq]

/-- Two trees with the same directories, where paths without a root start in the same one. -/
structure SameDirectories (a b : FileTree) : Prop where
  current : a.current = b.current
  node? : ∀ place, a.node? place = some .directory ↔ b.node? place = some .directory

theorem SameDirectories.refl (a : FileTree) : SameDirectories a a := ⟨rfl, fun _ => .rfl⟩

theorem SameDirectories.trans (h : SameDirectories a b) (h' : SameDirectories b c) :
    SameDirectories a c :=
  ⟨h.current.trans h'.current, fun place => (h.node? place).trans (h'.node? place)⟩

theorem step_eq_ok_iff :
    tree.step place part = .ok q ↔ tree.node? place = some .directory ∧
      (Utf8.encode part).length ≤ nameLimit ∧ place.next part = q := by
  unfold step
  split
  · rename_i h
    simp [h]
  · rename_i h
    simp [h]
  · rename_i h
    split <;> simp [h] <;> omega

theorem foldlM_step_concat {parts : List Text} :
    (parts ++ [part]).foldlM tree.step p = .ok q ↔
      ∃ dir, parts.foldlM tree.step p = .ok dir ∧ tree.step dir part = .ok q := by
  have hlast : ∀ dir, [part].foldlM tree.step dir = tree.step dir part := fun _ => bind_pure _
  rw [List.foldlM_append]
  simp only [hlast]
  constructor
  · exact exists_of_bind_eq_ok
  · rintro ⟨dir, hdir, hstep⟩
    rw [hdir]
    exact hstep

theorem SameDirectories.foldlM_step (h : SameDirectories a b) {parts : List Text}
    (hp : parts.foldlM a.step place = .ok p) : parts.foldlM b.step place = .ok p := by
  induction parts generalizing place with
  | nil => exact hp
  | cons part parts ih =>
    rw [List.foldlM_cons] at hp ⊢
    cases hs : a.step place part with
    | error e => rw [hs] at hp; contradiction
    | ok q =>
      rw [hs] at hp
      obtain ⟨hdir, hname⟩ := step_eq_ok_iff.1 hs
      rw [step_eq_ok_iff.2 ⟨(h.node? place).1 hdir, hname⟩]
      exact ih hp

theorem place?_eq_ok_iff :
    tree.place? path = .ok place ↔ '\x00' ∉ path.text ∧
      (Utf8.encode path.text).length < pathLimit ∧
      path.parts.foldlM tree.step (tree.start path) = .ok place := by
  unfold place?
  by_cases hnul : '\x00' ∈ path.text
  · simp [hnul]
  · by_cases hlong : pathLimit ≤ (Utf8.encode path.text).length
    · simp [hnul, hlong, Nat.not_lt_of_le hlong]
    · simp [hnul, hlong, Nat.lt_of_not_le hlong]

theorem find_eq (h : tree.place? path = .ok place) :
    tree.find path =
      match tree.node? place with
      | some node => .ok (place, node)
      | none => .error .missing := by
  rw [find, h]
  rfl

theorem find_eq_ok_iff {node : Node} :
    tree.find path = .ok (place, node) ↔
      tree.place? path = .ok place ∧ tree.node? place = some node := by
  constructor
  · intro h
    obtain ⟨q, hq, h⟩ := exists_of_bind_eq_ok h
    cases hnode : tree.node? q with
    | none => rw [hnode] at h; contradiction
    | some node' =>
      rw [hnode] at h
      cases h
      exact ⟨hq, hnode⟩
  · rintro ⟨hplace, hnode⟩
    rw [find_eq hplace, hnode]

theorem SameDirectories.place?_eq_ok (h : SameDirectories a b) (hp : a.place? path = .ok p) :
    b.place? path = .ok p := by
  obtain ⟨hnul, hlong, hparts⟩ := place?_eq_ok_iff.1 hp
  refine place?_eq_ok_iff.2 ⟨hnul, hlong, ?_⟩
  rw [start, ← h.current]
  exact h.foldlM_step hparts

theorem write_eq_ok_iff :
    tree.write path content = .ok after ↔ ∃ place, tree.place? path = .ok place ∧
      tree.node? place ≠ some .directory ∧ tree.put place (.file content) = after := by
  unfold write
  cases hp : tree.place? path with
  | error e => simp [bind, Except.bind]
  | ok place =>
    simp only [bind, Except.bind, Except.ok.injEq, exists_eq_left']
    split <;> simp_all [pure, Except.pure, throw, throwThe, MonadExceptOf.throw]

theorem write_of_error {e : FileError} (h : tree.write path content = .error e)
    (content' : Bytes) : tree.write path content' = .error e := by
  unfold write at h ⊢
  cases hp : tree.place? path with
  | error e' =>
    rw [hp] at h
    exact h
  | ok place =>
    rw [hp] at h
    simp only [bind, Except.bind] at h ⊢
    split at h
    · exact h
    · contradiction

theorem ne_nil_of_node?_ne (h : a.node? place ≠ some .directory) : place ≠ [] := by
  rintro rfl
  exact h rfl

theorem sameDirectories_put (h : tree.node? place ≠ some .directory) (content : Bytes) :
    SameDirectories tree (tree.put place (.file content)) where
  current := rfl
  -- Nothing but a file can stand where a file is put.
  node? q := by
    rw [node?_put _ _ _ (ne_nil_of_node?_ne h)]
    split
    · rename_i hq
      subst hq
      simp [h]
    · exact .rfl

theorem sameDirectories_of_write (h : tree.write path content = .ok after) :
    SameDirectories tree after := by
  obtain ⟨place, _, hdir, rfl⟩ := write_eq_ok_iff.1 h
  exact sameDirectories_put hdir content

theorem read_of_write (h : tree.write path content = .ok after) :
    after.read path = .ok content := by
  obtain ⟨place, hplace, hdir, rfl⟩ := write_eq_ok_iff.1 h
  have hplace' := (sameDirectories_put hdir content).place?_eq_ok hplace
  have hnode : (tree.put place (.file content)).node? place = some (.file content) := by
    rw [node?_put _ _ _ (ne_nil_of_node?_ne hdir), if_pos rfl]
  simp [read, find, hplace', hnode, bind, Except.bind, pure, Except.pure]

theorem sameDirectories_of_remove (h : tree.remove path = .ok after) :
    SameDirectories tree after := by
  unfold remove at h
  cases hf : tree.find path with
  | error e => rw [hf] at h; contradiction
  | ok found =>
    obtain ⟨place, node⟩ := found
    rw [hf] at h
    cases node with
    | directory => contradiction
    | file content =>
      cases h
      have hnode := (find_eq_ok_iff.1 hf).2
      have hne : place ≠ [] := ne_nil_of_node?_ne (a := tree) (by simp [hnode])
      refine ⟨rfl, fun q => ?_⟩
      rw [node?_filter _ _ hne]
      split
      · rename_i hq
        subst hq
        simp [hnode]
      · exact .rfl

theorem look_of_read (h : tree.read path = .ok content) :
    ∃ found, tree.look path = .ok (some found) := by
  unfold read at h
  unfold look
  cases hfind : tree.find path with
  | ok found => exact ⟨found, rfl⟩
  | error e =>
    rw [hfind] at h
    contradiction

/-- What can be written somewhere can be written there as long as the directories are the same. -/
theorem SameDirectories.write (h : SameDirectories a b) (hw : a.write path content = .ok after)
    (content' : Bytes) : ∃ after', b.write path content' = .ok after' := by
  obtain ⟨place, hplace, hdir, -⟩ := write_eq_ok_iff.1 hw
  have hdir' : b.node? place ≠ some .directory := fun e => hdir ((h.node? place).2 e)
  exact ⟨_, write_eq_ok_iff.2 ⟨place, h.place?_eq_ok hplace, hdir', rfl⟩⟩

end DocSamples.FileTree
