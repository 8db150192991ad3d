import DocSamples.Text.Lowercase

namespace DocSamples

variable {c : Char} {cased : Bool} {t : Text}

theorem ofNat_ne_dot {n : Nat} (h : n ≠ 46) : Char.ofNat n ≠ '.' := by
  intro hdot
  by_cases hvalid : n.isValidChar
  · rw [Char.ofNat, dif_pos hvalid] at hdot
    exact h (congrArg Char.toNat hdot)
  · rw [Char.ofNat, dif_neg hvalid] at hdot
    contradiction

theorem dot_mem_smallForm : '.' ∈ smallForm c ↔ c = '.' := by
  unfold smallForm
  split
  · rename_i hascii
    have hall : ∀ n < 128, '.' = (Char.ofNat n).toLower ↔ Char.ofNat n = '.' := by
      decide +kernel
    rw [List.mem_singleton, ← Char.ofNat_toNat c]
    exact hall c.toNat hascii
  · rename_i hascii
    have hc : c ≠ '.' := by
      rintro rfl
      exact hascii (by decide)
    refine iff_of_false ?_ hc
    split
    · decide
    · split
      · rename_i first last step distance hrun
        have hbehind : ∀ run ∈ smallLetterRuns, (46 : Int) < run.1 + run.2.2.2 := by
          decide +kernel
        have hdistance : (46 : Int) < first + distance :=
          hbehind _ (List.mem_of_find?_eq_some hrun)
        have hrange := List.find?_some hrun
        simp only [Bool.and_eq_true, decide_eq_true_eq] at hrange
        rw [List.mem_singleton]
        exact (ofNat_ne_dot (by omega)).symm
      · rw [List.mem_singleton]
        exact hc.symm

theorem smallForm_ne_nil (c : Char) : smallForm c ≠ [] := by
  unfold smallForm
  split
  · exact List.cons_ne_nil _ _
  · split
    · exact List.cons_ne_nil _ _
    · split <;> exact List.cons_ne_nil _ _

/-- Every character is put into small letters as something, which has a dot exactly for a dot. -/
theorem exists_lowerAfter_cons (cased : Bool) (c : Char) (t : Text) :
    ∃ small next, lowerAfter cased (c :: t) = small ++ lowerAfter next t ∧ small ≠ [] ∧
      ('.' ∈ small ↔ c = '.') := by
  refine ⟨_, _, rfl, ?_, ?_⟩
  · split
    · split <;> exact List.cons_ne_nil _ _
    · exact smallForm_ne_nil c
  · split
    · rename_i hsigma
      have hc : c ≠ '.' := by
        rintro rfl
        revert hsigma
        decide
      refine iff_of_false ?_ hc
      split <;> decide
    · exact dot_mem_smallForm

theorem dot_mem_lowerAfter : '.' ∈ lowerAfter cased t ↔ '.' ∈ t := by
  induction t generalizing cased with
  | nil => exact Iff.rfl
  | cons c t ih =>
    obtain ⟨small, next, hlower, -, hdot⟩ := exists_lowerAfter_cons cased c t
    rw [hlower, List.mem_append, hdot, ih, List.mem_cons, eq_comm]

theorem lowerAfter_eq_nil_iff : lowerAfter cased t = [] ↔ t = [] := by
  cases t with
  | nil => exact Iff.rfl
  | cons c t =>
    obtain ⟨small, next, hlower, hne, -⟩ := exists_lowerAfter_cons cased c t
    rw [hlower]
    exact iff_of_false (List.append_ne_nil_of_left_ne_nil hne _) (List.cons_ne_nil c t)

/-- What comes behind a start of a text is put into small letters by itself, but for a sigma. -/
theorem exists_lowerAfter_append (cased : Bool) (a b : Text) :
    ∃ small next, lowerAfter cased (a ++ b) = small ++ lowerAfter next b ∧
      (small = [] ↔ a = []) := by
  induction a generalizing cased with
  | nil => exact ⟨[], cased, rfl, Iff.rfl⟩
  | cons c a ih =>
    obtain ⟨small, next, hlower, hne, -⟩ := exists_lowerAfter_cons cased c (a ++ b)
    obtain ⟨more, last, hmore, -⟩ := ih next
    rw [List.cons_append, hlower, hmore, ← List.append_assoc]
    refine ⟨small ++ more, last, rfl, ?_⟩
    exact iff_of_false (List.append_ne_nil_of_left_ne_nil hne _) (List.cons_ne_nil c a)

theorem lowerAfter_dot (cased : Bool) (t : Text) :
    lowerAfter cased ('.' :: t) = '.' :: lowerAfter cased t := by
  have hignorable : caseIgnorableRanges.holds '.'.toNat = true := by decide +kernel
  rw [lowerAfter, if_neg (by decide), if_pos hignorable]
  rfl

/-- Only a capital sigma is put into small letters by what stands before it. -/
theorem lowerAfter_eq (h : 'Σ' ∉ t) (cased cased' : Bool) :
    lowerAfter cased t = lowerAfter cased' t := by
  induction t generalizing cased cased' with
  | nil => rfl
  | cons c t ih =>
    rw [List.mem_cons, not_or] at h
    have hsigma : c.toNat ≠ 0x3A3 := fun hc => h.1 (Char.toNat_inj.1 hc.symm)
    simp only [lowerAfter, if_neg hsigma]
    rw [ih h.2]

namespace Text

theorem dot_mem_lower : '.' ∈ t.lower ↔ '.' ∈ t := dot_mem_lowerAfter

theorem lower_dot (t : Text) : lower ('.' :: t) = '.' :: t.lower := lowerAfter_dot false t

/-- A text is put into small letters on both sides of a dot. -/
theorem exists_lower_append_dot (a b : Text) :
    ∃ small next, lower (a ++ '.' :: b) = small ++ '.' :: lowerAfter next b ∧
      (small = [] ↔ a = []) := by
  obtain ⟨small, next, hlower, hnil⟩ := exists_lowerAfter_append false a ('.' :: b)
  exact ⟨small, next, by rw [lower, hlower, lowerAfter_dot], hnil⟩

end Text

end DocSamples
