import DocSamples.Number.Double

namespace DocSamples.Double

variable {num den n q e : Nat} {i : Int} {x : Double}

theorem le_roundQuotient (num den : Nat) : num / den ≤ roundQuotient num den := by
  simp only [roundQuotient]
  split
  · exact Nat.le_refl _
  split
  · exact Nat.le_succ _
  split
  · exact Nat.le_refl _
  · exact Nat.le_succ _

theorem le_roundQuotient_iff (hden : 0 < den) (hq : q % 2 = 0) :
    q ≤ roundQuotient num den ↔ 2 * (q * den) ≤ 2 * num + den := by
  have hnum : num = den * (num / den) + num % den := (Nat.div_add_mod num den).symm
  have hrest : num % den < den := Nat.mod_lt num hden
  -- The two sides are compared by how far `q` is from the quotient that is rounded.
  have hle : ∀ k, q ≤ num / den + k → q * den ≤ den * (num / den) + k * den := by
    intro k hk
    have h := Nat.mul_le_mul_right den hk
    rwa [Nat.add_mul, Nat.mul_comm (num / den)] at h
  have hge : ∀ k, num / den + k ≤ q → den * (num / den) + k * den ≤ q * den := by
    intro k hk
    have h := Nat.mul_le_mul_right den hk
    rwa [Nat.add_mul, Nat.mul_comm (num / den)] at h
  have h0 := hle 0
  have h1 := hle 1
  have h1' := hge 1
  have h2' := hge 2
  simp only [roundQuotient]
  split
  · omega
  split
  · omega
  split <;> omega

theorem roundUnits_one (num : Nat) :
    roundUnits num 1 =
      roundQuotient num (Nat.pow 2 (num.log2 - 52)) * Nat.pow 2 (num.log2 - 52) := by
  simp only [roundUnits, Nat.div_one, Nat.one_mul]

/-- Rounding reaches a power of two from halfway between it and the number before. -/
theorem pow_le_roundUnits_iff :
    Nat.pow 2 (e + 54) ≤ roundUnits num 1 ↔ Nat.pow 2 (e + 54) ≤ num + Nat.pow 2 e := by
  rw [roundUnits_one]
  change 2 ^ (e + 54) ≤ roundQuotient num (2 ^ (num.log2 - 52)) * 2 ^ (num.log2 - 52) ↔
    2 ^ (e + 54) ≤ num + 2 ^ e
  have hsucc : 2 ^ (e + 1) = 2 * 2 ^ e := Nat.pow_succ'
  have hpow : 2 ^ (e + 54) = 2 * 2 ^ (e + 53) := Nat.pow_succ'
  by_cases hbig : 2 ^ (e + 54) ≤ num
  · -- The leading digits by themselves are as much as the power.
    refine iff_of_true ?_ (Nat.le_add_right_of_le hbig)
    have hne : num ≠ 0 := by
      rintro rfl
      exact absurd hbig (Nat.not_le_of_gt (Nat.two_pow_pos _))
    have hlog : e + 54 ≤ num.log2 := (Nat.le_log2 hne).2 hbig
    have hsplit : 2 ^ num.log2 = 2 ^ 52 * 2 ^ (num.log2 - 52) := by
      rw [← Nat.pow_add, Nat.add_sub_cancel' (by omega)]
    have hlead : 2 ^ 52 ≤ num / 2 ^ (num.log2 - 52) := by
      rw [Nat.le_div_iff_mul_le (Nat.two_pow_pos _), ← hsplit]
      exact Nat.log2_self_le hne
    calc 2 ^ (e + 54) ≤ 2 ^ num.log2 := Nat.pow_le_pow_right (by decide) hlog
      _ = 2 ^ 52 * 2 ^ (num.log2 - 52) := hsplit
      _ ≤ _ := Nat.mul_le_mul_right _ (Nat.le_trans hlead (le_roundQuotient _ _))
  · have hlog : num.log2 ≤ e + 53 := by
      by_cases hne : num = 0
      · subst hne
        exact Nat.zero_le _
      · exact Nat.le_of_lt_succ ((Nat.log2_lt hne).2 (Nat.lt_of_not_le hbig))
    have hlt : num < 2 ^ (num.log2 - 52 + 53) :=
      Nat.lt_of_lt_of_le Nat.lt_log2_self (Nat.pow_le_pow_right (by decide) (by omega))
    have hs : num.log2 - 52 ≤ e + 1 := Nat.sub_le_of_le_add hlog
    generalize num.log2 - 52 = s at hlt hs ⊢
    have hsplit : 2 ^ (e + 54) = 2 ^ (e + 54 - s) * 2 ^ s := by
      rw [← Nat.pow_add, Nat.sub_add_cancel (by omega)]
    have heven : 2 ^ (e + 54 - s) % 2 = 0 := by
      rw [show e + 54 - s = e + 53 - s + 1 by omega, Nat.pow_succ, Nat.mul_mod_left]
    rw [hsplit, Nat.mul_le_mul_right_iff (Nat.two_pow_pos s),
      le_roundQuotient_iff (Nat.two_pow_pos s) heven, ← hsplit]
    rcases Nat.lt_or_eq_of_le hs with hs | rfl
    · -- With fewer digits than the power's both sides are out of reach.
      have hnum : 2 ^ (s + 53) ≤ 2 ^ (e + 53) := Nat.pow_le_pow_right (by decide) (by omega)
      have hstep : 2 ^ s ≤ 2 ^ e := Nat.pow_le_pow_right (by decide) (by omega)
      have hhalf : 2 ^ e ≤ 2 ^ (e + 53) := Nat.pow_le_pow_right (by decide) (by omega)
      omega
    · omega

theorem isInfinite_ofUnits_iff {negative : Bool} :
    (ofUnits negative n).isInfinite = true ↔ Nat.pow 2 2098 ≤ n := by
  unfold ofUnits
  split
  · rename_i h
    exact iff_of_false Bool.false_ne_true (Nat.not_le_of_gt h)
  · rename_i h
    exact iff_of_true rfl (Nat.le_of_not_lt h)

theorem pow_le_roundUnits_mul_iff {u : Nat} :
    Nat.pow 2 (e + 54 + u) ≤ roundUnits (n * Nat.pow 2 u) 1 ↔
      Nat.pow 2 (e + 54) ≤ n + Nat.pow 2 e := by
  have h : 2 ^ (e + u + 54) ≤ roundUnits (n * 2 ^ u) 1 ↔
      2 ^ (e + u + 54) ≤ n * 2 ^ u + 2 ^ (e + u) := pow_le_roundUnits_iff
  rw [Nat.add_right_comm, Nat.pow_add 2 e u, ← Nat.add_mul, Nat.pow_add 2 (e + 54),
    Nat.mul_le_mul_right_iff (Nat.two_pow_pos u), ← Nat.pow_add] at h
  exact h

/-- A whole number is beyond the doubles if it is at least as close to 2¹⁰²⁴ as to the greatest
one. -/
theorem isInfinite_ofInt_iff :
    (ofInt i).isInfinite = true ↔ Nat.pow 2 1024 ≤ i.natAbs + Nat.pow 2 970 := by
  have hreach : 2098 = 970 + 54 + 1074 := rfl
  have htop : 1024 = 970 + 54 := rfl
  have hround := pow_le_roundUnits_mul_iff (n := i.natAbs) (e := 970) (u := 1074)
  rw [ofInt, ofQuotient, isInfinite_ofUnits_iff, hreach, htop]
  exact hround

theorem roundUnits_pos (h : 0 < num) : 0 < roundUnits num 1 := by
  rw [roundUnits_one]
  change 0 < roundQuotient num (2 ^ (num.log2 - 52)) * 2 ^ (num.log2 - 52)
  apply Nat.mul_pos _ (Nat.two_pow_pos _)
  have hlead : 1 ≤ num / 2 ^ (num.log2 - 52) := by
    rw [Nat.le_div_iff_mul_le (Nat.two_pow_pos _), Nat.one_mul]
    calc 2 ^ (num.log2 - 52) ≤ 2 ^ num.log2 := Nat.pow_le_pow_right (by decide) (Nat.sub_le _ _)
      _ ≤ num := Nat.log2_self_le (Nat.ne_of_gt h)
  exact Nat.le_trans hlead (le_roundQuotient _ _)

/-- Greater than zero, which a number that is no number is not. -/
inductive IsPositive : Double → Prop
  | infinite : IsPositive (.infinite false)
  | finite {units : Nat} (h : 0 < units) : IsPositive (.finite false units)

theorem not_isPositive_nan : ¬ IsPositive .nan := nofun

theorem isNonPositive_eq_false_iff : x.isNonPositive = false ↔ x.IsPositive ∨ x = .nan := by
  constructor
  · intro h
    cases x with
    | nan => exact .inr rfl
    | infinite negative =>
      cases h
      exact .inl .infinite
    | finite negative units =>
      obtain ⟨rfl, hunits⟩ := Bool.or_eq_false_iff.1 h
      exact .inl (.finite (Nat.pos_of_ne_zero (ne_of_beq_false hunits)))
  · rintro (h | rfl)
    · cases h with
      | infinite => rfl
      | finite h => exact Bool.or_eq_false_iff.2 ⟨rfl, beq_false_of_ne (Nat.ne_of_gt h)⟩
    · rfl

theorem isPositive_ofUnits (h : 0 < n) : (ofUnits false n).IsPositive := by
  unfold ofUnits
  split
  · exact .finite h
  · exact .infinite

theorem unitsPerOne_pos : 0 < unitsPerOne := Nat.two_pow_pos _

theorem isPositive_ofInt (h : 0 < i) : (ofInt i).IsPositive := by
  have hsign : decide (i < 0) = false := decide_eq_false (Int.not_lt.2 (Int.le_of_lt h))
  have hunits := Nat.mul_pos (Int.natAbs_pos.2 (Int.ne_of_gt h)) unitsPerOne_pos
  rw [ofInt, ofQuotient, hsign]
  exact isPositive_ofUnits (roundUnits_pos hunits)

end DocSamples.Double
