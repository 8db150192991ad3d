import DocSamples.Proofs.NormalPaths
import DocSamples.Selection
import Mathlib.Data.List.Basic

namespace DocSamples

variable {t u v : Text} {x y : Char} {p q : Path} {ps qs : List Path}

theorem nodup_eraseDups {α : Type} [DecidableEq α] (xs : List α) : xs.eraseDups.Nodup := by
  match xs with
  | [] => exact List.nodup_nil
  | x :: xs =>
    rw [List.eraseDups_cons, List.nodup_cons]
    refine ⟨?_, nodup_eraseDups _⟩
    intro hmem
    simpa using List.mem_eraseDups.1 hmem
termination_by xs.length
decreasing_by exact Nat.lt_succ_of_le (List.length_filter_le _ _)

namespace Text

/-- A text precedes another if it has the smaller code point where they first differ, or ends
there. -/
def Precedes (t u : Text) : Prop := List.Lex (fun x y : Char => x.toNat < y.toNat) t u

theorem precedes_nil_iff : t.Precedes [] ↔ False := iff_false_intro nofun

theorem nil_precedes_iff : Precedes [] u ↔ u ≠ [] := by
  cases u with
  | nil => simp [precedes_nil_iff]
  | cons y u => exact iff_of_true .nil (List.cons_ne_nil y u)

theorem cons_precedes_cons_iff :
    Precedes (x :: t) (y :: u) ↔ x.toNat < y.toNat ∨ x = y ∧ t.Precedes u := by
  constructor
  · rintro (_ | h | h)
    · exact .inl h
    · exact .inr ⟨rfl, h⟩
  · rintro (h | ⟨rfl, h⟩)
    · exact .rel h
    · exact .cons h

theorem Precedes.asymm (h : t.Precedes u) : ¬ u.Precedes t := by
  induction t generalizing u with
  | nil => exact precedes_nil_iff.1
  | cons x t ih =>
    cases u with
    | nil => exact absurd h precedes_nil_iff.1
    | cons y u =>
      rw [cons_precedes_cons_iff] at h ⊢
      grind

theorem Precedes.trans (h : t.Precedes u) (h' : u.Precedes v) : t.Precedes v := by
  induction t generalizing u v with
  | nil =>
    cases v with
    | nil => exact absurd h' precedes_nil_iff.1
    | cons z v => exact .nil
  | cons x t ih =>
    cases u with
    | nil => exact absurd h precedes_nil_iff.1
    | cons y u =>
      cases v with
      | nil => exact absurd h' precedes_nil_iff.1
      | cons z v =>
        rw [cons_precedes_cons_iff] at h h' ⊢
        grind

theorem precedes_or_eq_or (t u : Text) : t.Precedes u ∨ t = u ∨ u.Precedes t := by
  induction t generalizing u with
  | nil =>
    cases u with
    | nil => exact .inr (.inl rfl)
    | cons y u => exact .inl .nil
  | cons x t ih =>
    cases u with
    | nil => exact .inr (.inr .nil)
    | cons y u =>
      rw [cons_precedes_cons_iff, cons_precedes_cons_iff]
      rcases Nat.lt_trichotomy x.toNat y.toNat with h | h | h
      · exact .inl (.inl h)
      · cases Char.toNat_inj.1 h
        rcases ih u with h | rfl | h
        · exact .inl (.inr ⟨rfl, h⟩)
        · exact .inr (.inl rfl)
        · exact .inr (.inr (.inr ⟨rfl, h⟩))
      · exact .inr (.inr (.inl h))

theorem le_iff : t.le u = true ↔ t = u ∨ t.Precedes u := by
  fun_induction t.le u with
  | case1 u => cases u <;> simp [nil_precedes_iff]
  | case2 x t => simp [precedes_nil_iff]
  | case3 t y u ih => simp [ih, cons_precedes_cons_iff]
  | case4 x t y u hne => simp [hne, cons_precedes_cons_iff]

end Text

namespace Path

/-- Different texts are written for different paths. -/
theorem IsNormal.eq_of_text_eq (hp : p.IsNormal) (hq : q.IsNormal) (h : p.text = q.text) :
    p = q := by
  rw [← hp.ofText_text, h, hq.ofText_text]

theorem le_iff : p.le q = true ↔ p.text = q.text ∨ p.text.Precedes q.text := Text.le_iff

theorem pairwise_mergeSort_le (ps : List Path) :
    (ps.mergeSort le).Pairwise fun p q => p.le q = true := by
  apply List.pairwise_mergeSort
  · intro a b c hab hbc
    rw [le_iff] at hab hbc ⊢
    rcases hab with hab | hab
    · rwa [hab]
    · rcases hbc with hbc | hbc
      · exact .inr (hbc ▸ hab)
      · exact .inr (hab.trans hbc)
  · intro a b
    rw [Bool.or_eq_true, le_iff, le_iff]
    rcases Text.precedes_or_eq_or a.text b.text with h | h | h
    · exact .inl (.inr h)
    · exact .inl (.inl h)
    · exact .inr (.inr h)

/-- Paths in the order of their texts, none of which occurs twice. -/
abbrev InOrder (ps : List Path) : Prop := ps.Pairwise fun p q => p.text.Precedes q.text

theorem InOrder.nodup (h : InOrder ps) : ps.Nodup := by
  apply List.Pairwise.imp _ h
  rintro p q hpq rfl
  exact hpq.asymm hpq

theorem InOrder.eq_of_mem_iff (hp : InOrder ps) (hq : InOrder qs)
    (h : ∀ p, p ∈ ps ↔ p ∈ qs) : ps = qs :=
  List.Perm.eq_of_pairwise (fun _ _ _ _ hab hba => absurd hba hab.asymm) hp hq
    ((List.perm_ext_iff_of_nodup hp.nodup hq.nodup).2 h)

theorem nodup_mergeSort (ps : List Path) : (ps.eraseDups.mergeSort le).Nodup :=
  (List.mergeSort_perm _ _).nodup_iff.2 (nodup_eraseDups ps)

theorem inOrder_mergeSort (h : ∀ p ∈ ps, p.IsNormal) :
    InOrder (ps.eraseDups.mergeSort le) := by
  have hnormal : ∀ p ∈ ps.eraseDups.mergeSort le, p.IsNormal := fun p hp =>
    h p (List.mem_eraseDups.1 (List.mem_mergeSort.1 hp))
  refine ((pairwise_mergeSort_le ps.eraseDups).and (nodup_mergeSort ps)).imp_of_mem ?_
  rintro p q hp hq ⟨hle, hne⟩
  refine (le_iff.1 hle).resolve_left fun htext => hne ?_
  exact (hnormal p hp).eq_of_text_eq (hnormal q hq) htext

end Path

end DocSamples
