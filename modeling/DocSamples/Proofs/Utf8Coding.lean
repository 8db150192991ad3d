import DocSamples.Text.Utf8

namespace DocSamples.Utf8

variable {a n fuel position : Nat} {c : Char} {t : Text} {rest : Bytes}

theorem toNat_toUInt8 (h : n < 256) : n.toUInt8.toNat = n := by
  rw [Nat.toUInt8, UInt8.toNat_ofNat', Nat.mod_eq_of_lt h]

theorem toUInt8_eq_iff (ha : a < 256) (b : UInt8) : a.toUInt8 = b ↔ a = b.toNat := by
  rw [← UInt8.toNat_inj, toNat_toUInt8 ha]

theorem continuation?_toUInt8 (h : n < 64) : continuation? (0x80 + n).toUInt8 = some n := by
  have hlt : 0x80 + n < 256 := by omega
  have hrange : 0x80 ≤ 0x80 + n ∧ 0x80 + n < 0xC0 := by omega
  rw [continuation?, toNat_toUInt8 hlt, if_pos (by simpa using hrange), Nat.add_sub_cancel_left]

/-- The second byte is as the first allows it: neither too small for the number of bytes, nor of a
surrogate, nor too great. -/
def Allows (first second : Nat) : Prop :=
  (first = 0xE0 → 0x20 ≤ second) ∧ (first = 0xED → second < 0x20) ∧
    (first = 0xF0 → 0x10 ≤ second) ∧ (first = 0xF4 → second < 0x10)

theorem second?_toUInt8 (ha : a < 256) (hn : n < 64) (h : Allows a n) :
    second? a.toUInt8 (0x80 + n).toUInt8 = some n := by
  obtain ⟨hE0, hED, hF0, hF4⟩ := h
  have hlt : 0x80 + n < 256 := by omega
  have hE0' : a = 224 → ¬ 128 + n < 160 := by omega
  have hED' : a = 237 → ¬ 160 ≤ 128 + n := by omega
  have hF0' : a = 240 → ¬ 128 + n < 144 := by omega
  have hF4' : a = 244 → ¬ 144 ≤ 128 + n := by omega
  rw [second?, if_neg, continuation?_toUInt8 hn]
  simp only [Bool.or_eq_true, Bool.and_eq_true, decide_eq_true_eq, toNat_toUInt8 hlt,
    toUInt8_eq_iff ha]
  rintro (((⟨h, h'⟩ | ⟨h, h'⟩) | ⟨h, h'⟩) | ⟨h, h'⟩)
  · exact hE0' h h'
  · exact hED' h h'
  · exact hF0' h h'
  · exact hF4' h h'

theorem continueChar_toUInt8 (hn : n < 64) (code size missing : Nat) (rest : Bytes) :
    continueChar code size (missing + 1) ((0x80 + n).toUInt8 :: rest) =
      continueChar (code * 64 + n) (size + 1) missing rest := by
  rw [continueChar, continuation?_toUInt8 hn]

theorem toNat_range (c : Char) : c.toNat < 0xD800 ∨ 0xDFFF < c.toNat ∧ c.toNat < 0x110000 := c.valid

theorem front_two (n : Nat) (ha : 0x80 ≤ n) (hn : n < 0x800) (rest : Bytes) :
    front (0xC0 + n / 64).toUInt8 ((0x80 + n % 64).toUInt8 :: rest) =
      .char (Char.ofNat n) 2 rest := by
  have hfirst : (0xC0 + n / 64).toUInt8.toNat = 0xC0 + n / 64 := toNat_toUInt8 (by omega)
  have hsecond : second? (0xC0 + n / 64).toUInt8 (0x80 + n % 64).toUInt8 = some (n % 64) :=
    second?_toUInt8 (by omega) (by omega) ⟨by omega, by omega, by omega, by omega⟩
  have hcode : (0xC0 + n / 64 - 0xC0) * 64 + n % 64 = n := by omega
  rw [front, hfirst, if_neg (by omega), if_neg (by omega), if_pos (by omega)]
  simp only [hsecond, hcode]
  rfl

theorem front_three (n : Nat) (ha : 0x800 ≤ n) (hn : n < 0xD800 ∨ 0xDFFF < n ∧ n < 0x10000)
    (rest : Bytes) :
    front (0xE0 + n / 4096).toUInt8
      ((0x80 + n / 64 % 64).toUInt8 :: (0x80 + n % 64).toUInt8 :: rest) =
      .char (Char.ofNat n) 3 rest := by
  have hfirst : (0xE0 + n / 4096).toUInt8.toNat = 0xE0 + n / 4096 := toNat_toUInt8 (by omega)
  have hsecond : second? (0xE0 + n / 4096).toUInt8 (0x80 + n / 64 % 64).toUInt8 =
      some (n / 64 % 64) :=
    second?_toUInt8 (by omega) (by omega) ⟨by omega, by omega, by omega, by omega⟩
  have hcode : ((0xE0 + n / 4096 - 0xE0) * 64 + n / 64 % 64) * 64 + n % 64 = n := by omega
  rw [front, hfirst, if_neg (by omega), if_neg (by omega), if_neg (by omega), if_pos (by omega)]
  simp only [hsecond]
  rw [continueChar_toUInt8 (by omega), hcode]
  rfl

theorem front_four (n : Nat) (ha : 0x10000 ≤ n) (hn : n < 0x110000) (rest : Bytes) :
    front (0xF0 + n / 262144).toUInt8 ((0x80 + n / 4096 % 64).toUInt8 ::
      (0x80 + n / 64 % 64).toUInt8 :: (0x80 + n % 64).toUInt8 :: rest) =
      .char (Char.ofNat n) 4 rest := by
  have hfirst : (0xF0 + n / 262144).toUInt8.toNat = 0xF0 + n / 262144 := toNat_toUInt8 (by omega)
  have hsecond : second? (0xF0 + n / 262144).toUInt8 (0x80 + n / 4096 % 64).toUInt8 =
      some (n / 4096 % 64) :=
    second?_toUInt8 (by omega) (by omega) ⟨by omega, by omega, by omega, by omega⟩
  have hcode : (((0xF0 + n / 262144 - 0xF0) * 64 + n / 4096 % 64) * 64 + n / 64 % 64) * 64 +
      n % 64 = n := by omega
  rw [front, hfirst, if_neg (by omega), if_neg (by omega), if_neg (by omega), if_neg (by omega),
    if_pos (by omega)]
  simp only [hsecond]
  rw [continueChar_toUInt8 (by omega), continueChar_toUInt8 (by omega), hcode]
  rfl

/-- The code of a character is read back, whatever follows it. -/
theorem exists_front_encodeChar (c : Char) (rest : Bytes) :
    ∃ first more size, encodeChar c = first :: more ∧
      front first (more ++ rest) = .char c size rest := by
  have hc : Char.ofNat c.toNat = c := Char.ofNat_toNat c
  have hrange := toNat_range c
  unfold encodeChar
  by_cases h1 : c.toNat < 0x80
  · refine ⟨c.toNat.toUInt8, [], 1, if_pos h1, ?_⟩
    have hfirst : c.toNat.toUInt8.toNat = c.toNat := toNat_toUInt8 (by omega)
    rw [front, hfirst, if_pos h1, hc]
    rfl
  by_cases h2 : c.toNat < 0x800
  · rw [if_neg h1, if_pos h2]
    refine ⟨_, _, 2, rfl, ?_⟩
    have htwo := front_two c.toNat (by omega) h2 rest
    rw [hc] at htwo
    exact htwo
  by_cases h3 : c.toNat < 0x10000
  · rw [if_neg h1, if_neg h2, if_pos h3]
    refine ⟨_, _, 3, rfl, ?_⟩
    have hthree := front_three c.toNat (by omega) (by omega) rest
    rw [hc] at hthree
    exact hthree
  · rw [if_neg h1, if_neg h2, if_neg h3]
    refine ⟨_, _, 4, rfl, ?_⟩
    have hfour := front_four c.toNat (by omega) (by omega) rest
    rw [hc] at hfour
    exact hfour

theorem decodeFrom_encode (t : Text) (h : (encode t).length ≤ fuel) (position : Nat) :
    decodeFrom fuel position (encode t) = .ok t := by
  induction t generalizing fuel position with
  | nil => cases fuel <;> rfl
  | cons c t ih =>
    obtain ⟨first, more, size, hcode, hfront⟩ := exists_front_encodeChar c (encode t)
    have hencode : encode (c :: t) = first :: (more ++ encode t) := by
      rw [encode, List.flatMap_cons, hcode]
      rfl
    rw [hencode] at h ⊢
    cases fuel with
    | zero => contradiction
    | succ fuel =>
      have hfuel : (encode t).length ≤ fuel := by
        simp only [List.length_cons, List.length_append] at h
        omega
      rw [decodeFrom, hfront]
      simp only [ih hfuel]

/-- The bytes of a text are those of no other text, and can be decoded. -/
theorem decode_encode (t : Text) : decode (encode t) = .ok t :=
  decodeFrom_encode t (Nat.le_refl _) 0

end DocSamples.Utf8
