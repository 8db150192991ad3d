import DocSamples.Proofs.Locations

namespace DocSamples

theorem digitValue?_of_isDigit {c : Char} (h : c.isDigit = true) :
    digitValue? c = some (c.toNat - '0'.toNat) := by
  obtain ⟨hlow, hhigh⟩ := Char.isDigit_iff_toNat.1 h
  change 48 ≤ c.toNat at hlow
  change c.toNat ≤ 57 at hhigh
  have hzero : digitZeros.find? (fun z => z ≤ c.toNat && c.toNat < z + 10) = some 48 := by
    rw [digitZeros, List.find?_cons_of_pos]
    simp only [Bool.and_eq_true, decide_eq_true_eq]
    omega
  rw [digitValue?, hzero]
  rfl

namespace Text

theorem digit_of_mem_ofNat {n : Nat} {c : Char} (h : c ∈ ofNat n) : c.isDigit = true :=
  Nat.isDigit_of_mem_toDigits (by decide) (by decide) h

theorem isDigit_of_mem_ofNat {n : Nat} {c : Char} (h : c ∈ ofNat n) :
    DocSamples.isDigit c = true := by
  rw [DocSamples.isDigit, digitValue?_of_isDigit (digit_of_mem_ofNat h)]
  rfl

theorem ofNat_ne_nil (n : Nat) : ofNat n ≠ [] := Nat.toDigits_ne_nil

theorem digitsValue_ofNat (n : Nat) : digitsValue (ofNat n) = n := by
  have hfold : ∀ (ds : Text) (k : Nat), (∀ c ∈ ds, c.isDigit = true) →
      ds.foldl (fun n c => 10 * n + (digitValue? c).getD 0) k = Nat.ofDigitChars 10 ds k := by
    intro ds
    induction ds with
    | nil => exact fun _ _ => rfl
    | cons c ds ih =>
      intro k h
      obtain ⟨hc, hds⟩ := List.forall_mem_cons.1 h
      rw [List.foldl_cons, digitValue?_of_isDigit hc]
      exact ih _ hds
  rw [digitsValue, hfold (ofNat n) 0 fun c hc => digit_of_mem_ofNat hc]
  exact Nat.ofDigitChars_ten_toDigits

end Text

namespace Diagnostic

variable {t ds column rest : Text}

/-- A text none of whose rows of digits is too long to be read. -/
def Readable (t : Text) : Prop :=
  ∀ ds : Text, ds <:+: t → (∀ c ∈ ds, isDigit c = true) → ds.length ≤ digitLimit

theorem LocatedFirst.digits_isInfix (h : LocatedFirst t ds rest) :
    ds <:+: t ∧ ∀ c ∈ ds, isDigit c = true := by
  obtain ⟨before, r, rfl, hloc, -⟩ := h
  obtain ⟨blanks, column, -, -, -, rfl⟩ := hloc.form
  refine ⟨?_, hloc.digits.2⟩
  exact ⟨before ++ ':' :: blanks, ':' :: (column ++ ':' :: rest), by simp⟩

theorem exists_parse (h : Readable t) : ∃ d, parse t = .ok d := by
  apply exists_parse_iff.2
  intro ds rest hfirst
  obtain ⟨hpart, hdigits⟩ := hfirst.digits_isInfix
  exact h ds hpart hdigits

theorem digits_replicate {n : Nat} {c : Char} (hn : n ≠ 0) (hc : isDigit c = true) :
    List.replicate n c ≠ [] ∧ ∀ d ∈ List.replicate n c, isDigit d = true := by
  refine ⟨by simp [hn], ?_⟩
  intro d hd
  rw [List.eq_of_mem_replicate hd]
  exact hc

theorem locatedFirst_of_front (hds : ds ≠ [] ∧ ∀ c ∈ ds, isDigit c = true)
    (hcolumn : column ≠ [] ∧ ∀ c ∈ column, isDigit c = true) (htells : ∃ c ∈ rest, c ≠ '\n') :
    LocatedFirst (':' :: (ds ++ ':' :: (column ++ ':' :: rest))) ds rest := by
  refine ⟨[], _, rfl, ⟨hds, ?_, htells⟩, by simp⟩
  exact ⟨[], column, by simp, hcolumn.1, hcolumn.2, rfl⟩

end Diagnostic

end DocSamples
