import Mathlib.Data.List.Forall2

namespace DocSamples

variable {ε α β : Type} {a : α} {b : β} {xs acc as : List α} {ys : List β} {yss : List (List β)}

theorem exists_of_bind_eq_ok {x : Except ε α} {f : α → Except ε β} (h : x >>= f = .ok b) :
    ∃ a, x = .ok a ∧ f a = .ok b := by
  cases x with
  | error e => contradiction
  | ok a => exact ⟨a, rfl, h⟩

/-- A traversal succeeds where it does at each element. -/
theorem mapM_eq_ok_iff {f : α → Except ε β} :
    xs.mapM f = .ok ys ↔ List.Forall₂ (fun x y => f x = .ok y) xs ys := by
  induction xs generalizing ys with
  | nil => cases ys <;> simp [pure, Except.pure]
  | cons x xs ih =>
    rw [List.mapM_cons, List.forall₂_cons_left_iff]
    constructor
    · intro h
      obtain ⟨y, hy, h⟩ := exists_of_bind_eq_ok h
      obtain ⟨ys', hys, h⟩ := exists_of_bind_eq_ok h
      cases h
      exact ⟨y, ys', hy, ih.1 hys, rfl⟩
    · rintro ⟨y, ys', hy, hys, rfl⟩
      rw [hy, ih.2 hys]
      rfl

theorem exists_mapM_eq_ok_iff {f : α → Except ε β} :
    (∃ ys, xs.mapM f = .ok ys) ↔ ∀ x ∈ xs, ∃ y, f x = .ok y := by
  simp only [mapM_eq_ok_iff]
  induction xs with
  | nil => exact iff_of_true ⟨[], .nil⟩ (List.forall_mem_nil _)
  | cons x xs ih =>
    rw [List.forall_mem_cons, ← ih]
    constructor
    · rintro ⟨ys, h⟩
      obtain ⟨y, ys', hy, hys, -⟩ := List.forall₂_cons_left_iff.1 h
      exact ⟨⟨y, hy⟩, ys', hys⟩
    · rintro ⟨⟨y, hy⟩, ys, hys⟩
      exact ⟨y :: ys, .cons hy hys⟩

theorem mem_flatten_of_mapM {f : α → Except ε (List β)} (h : xs.mapM f = .ok yss) :
    b ∈ yss.flatten ↔ ∃ x ∈ xs, ∃ ys, f x = .ok ys ∧ b ∈ ys := by
  have hall := mapM_eq_ok_iff.1 h
  clear h
  induction hall with
  | nil => simp
  | cons hy _ ih => simp [ih, hy]

theorem exists_filterAuxM_eq_ok_iff {f : α → Except ε Bool} :
    (∃ as, xs.filterAuxM f acc = .ok as) ↔ ∀ x ∈ xs, ∃ b, f x = .ok b := by
  induction xs generalizing acc with
  | nil => exact iff_of_true ⟨acc, rfl⟩ (List.forall_mem_nil _)
  | cons x xs ih =>
    rw [List.forall_mem_cons]
    change (∃ as, (f x >>= fun b => xs.filterAuxM f (cond b (x :: acc) acc)) = .ok as) ↔ _
    constructor
    · rintro ⟨as, h⟩
      obtain ⟨b, hb, h⟩ := exists_of_bind_eq_ok h
      exact ⟨⟨b, hb⟩, ih.1 ⟨as, h⟩⟩
    · rintro ⟨⟨b, hb⟩, hxs⟩
      rw [hb]
      exact ih.2 hxs

theorem mem_filterAuxM {f : α → Except ε Bool} (h : xs.filterAuxM f acc = .ok as) :
    a ∈ as ↔ a ∈ acc ∨ a ∈ xs ∧ f a = .ok true := by
  induction xs generalizing acc with
  | nil =>
    cases h
    simp
  | cons x xs ih =>
    change (f x >>= fun b => xs.filterAuxM f (cond b (x :: acc) acc)) = .ok as at h
    obtain ⟨b, hb, h⟩ := exists_of_bind_eq_ok h
    rw [ih h]
    cases b with
    | true => grind
    | false => grind

theorem exists_filterM_eq_ok_iff {f : α → Except ε Bool} :
    (∃ as, xs.filterM f = .ok as) ↔ ∀ x ∈ xs, ∃ b, f x = .ok b := by
  refine Iff.trans ?_ (exists_filterAuxM_eq_ok_iff : (∃ as, xs.filterAuxM f [] = .ok as) ↔ _)
  constructor
  · rintro ⟨as, h⟩
    obtain ⟨as', h', -⟩ := exists_of_bind_eq_ok h
    exact ⟨as', h'⟩
  · rintro ⟨as, h⟩
    exact ⟨as.reverse, by rw [List.filterM, h]; rfl⟩

/-- What a filter keeps that may fail. -/
theorem mem_filterM {f : α → Except ε Bool} (h : xs.filterM f = .ok as) :
    a ∈ as ↔ a ∈ xs ∧ f a = .ok true := by
  obtain ⟨as', h', hrev⟩ := exists_of_bind_eq_ok h
  cases hrev
  rw [List.mem_reverse, mem_filterAuxM h']
  simp

end DocSamples
