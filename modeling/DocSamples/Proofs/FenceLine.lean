import DocSamples.Fence
import DocSamples.Proofs.Splitting

namespace DocSamples

/-- A line that opens a fence: an indentation, the longest run of three or more markers of one
kind, and an info, which has no backtick after backticks. -/
structure Opens (flavor : Flavor) (line : Text) (o : Opening) : Prop where
  parts : ∃ w : Text, w.length = o.indent ∧ (∀ c ∈ w, Fence.indents flavor c = true) ∧
    line = w ++ List.replicate o.size o.mark ++ o.info
  indent : Fence.admits flavor o.indent = true
  mark : o.mark = '\x60' ∨ o.mark = '~'
  size : 3 ≤ o.size
  longest : o.info.head? ≠ some o.mark
  info : o.mark = '\x60' → '\x60' ∉ o.info

/-- A line that closes a fence: an indentation, a run of the marker that is at least as long as the
opening one, and blanks. -/
def Closes (flavor : Flavor) (o : Opening) (line : Text) : Prop :=
  ∃ (w : Text) (n : Nat) (r : Text), line = w ++ List.replicate n o.mark ++ r ∧
    (∀ c ∈ w, Fence.isIndent c = true) ∧ Fence.admits flavor w.length = true ∧ o.size ≤ n ∧
    ∀ c ∈ r, isBlank c = true

/-- A line without its longest run of spaces and tabs that is no longer than `n`. -/
def Stripped (n : Nat) (line rest : Text) : Prop :=
  ∃ w : Text, line = w ++ rest ∧ (∀ c ∈ w, Fence.isIndent c = true) ∧ w.length ≤ n ∧
    ∀ w' r' : Text, line = w' ++ r' → (∀ c ∈ w', Fence.isIndent c = true) → w'.length ≤ n →
      w'.length ≤ w.length

/-- The language in an info is its first word; the metadata is what follows that word, trimmed, and
absent where nothing is left. -/
def Informs (info language : Text) (metadata : Option Text) : Prop :=
  ∃ u v : Text, info = u ++ language ++ v ∧ (∀ c ∈ u, isBlank c = true) ∧
    (∀ c ∈ language, isBlank c = false) ∧ StopsAt (!isBlank ·) v ∧ (language = [] → v = []) ∧
    metadata = (some v.trim).filter (!·.isEmpty)

namespace Fence

theorem isIndent_of_indents {flavor : Flavor} {c : Char} (h : indents flavor c = true) :
    isIndent c = true := by
  cases flavor with
  | markdown => simp only [isIndent, Bool.or_eq_true]; exact .inl h
  | mdx => exact h

theorem indents_of_mem_spaces (flavor : Flavor) {n : Nat} {c : Char}
    (h : c ∈ List.replicate n ' ') : indents flavor c = true := by
  cases List.eq_of_mem_replicate h
  cases flavor <;> rfl

theorem isIndent_mark {c : Char} (h : c = '\x60' ∨ c = '~') : isIndent c = false := by
  rcases h with rfl | rfl <;> rfl

theorem isBlank_mark {c : Char} (h : c = '\x60' ∨ c = '~') : isBlank c = false := by
  rcases h with rfl | rfl <;> decide

theorem opening?_sound {flavor : Flavor} {line : Text} {o : Opening}
    (h : opening? flavor line = some o) : Opens flavor line o := by
  have hline := List.takeWhile_append_dropWhile (p := indents flavor) (l := line)
  unfold opening? at h
  cases hd : line.dropWhile (indents flavor) with
  | nil => rw [hd] at h; contradiction
  | cons mark r =>
    simp only [hd] at h hline
    split at h
    · rename_i hc
      cases h
      simp only [Bool.and_eq_true, Bool.or_eq_true, beq_iff_eq, decide_eq_true_eq,
        Bool.not_eq_true', Bool.and_eq_false_imp] at hc
      obtain ⟨⟨⟨hindent, hmark⟩, hsize⟩, hinfo⟩ := hc
      have hrun : r.takeWhile (· == mark) =
          List.replicate (r.takeWhile (· == mark)).length mark := by
        apply List.eq_replicate_iff.2 ⟨rfl, ?_⟩
        intro c hc
        exact eq_of_beq (all_of_mem_takeWhile c hc)
      refine ⟨⟨_, rfl, all_of_mem_takeWhile, ?_⟩, hindent, hmark, hsize, ?_, ?_⟩
      · rw [List.replicate_succ, ← hrun, List.append_assoc, List.cons_append,
          List.takeWhile_append_dropWhile, hline]
      · intro e
        simpa using stopsAt_dropWhile (· == mark) r mark e
      · intro e hm
        have hn := hinfo e
        rw [List.contains_eq_mem, decide_eq_false_iff_not] at hn
        exact hn hm
    · contradiction

theorem opening?_complete {flavor : Flavor} {line : Text} {o : Opening}
    (h : Opens flavor line o) : opening? flavor line = some o := by
  obtain ⟨indent, mark, size, info⟩ := o
  obtain ⟨⟨w, hlen, hw, rfl⟩, hindent, hmark, hsize, hlongest, hinfo⟩ := h
  simp only at *
  obtain ⟨n, rfl⟩ : ∃ n, size = n + 1 := ⟨size - 1, by omega⟩
  have hstop : StopsAt (indents flavor) (mark :: (List.replicate n mark ++ info)) := by
    apply StopsAt.cons
    cases hi : indents flavor mark with
    | false => rfl
    | true => rw [← isIndent_of_indents hi, isIndent_mark hmark]
  have hmarks : ∀ c ∈ List.replicate n mark, (c == mark) = true := by
    intro c hc
    simp [List.eq_of_mem_replicate hc]
  have hstop' : StopsAt (· == mark) info := by
    intro c hc
    simp only [beq_eq_false_iff_ne]
    rintro rfl
    exact hlongest hc
  have hline : w ++ List.replicate (n + 1) mark ++ info =
      w ++ mark :: (List.replicate n mark ++ info) := by
    rw [List.replicate_succ, List.append_assoc, List.cons_append]
  simp only [opening?, hline, takeWhile_append_of_stopsAt hw hstop,
    dropWhile_append_of_stopsAt hw hstop, takeWhile_append_of_stopsAt hmarks hstop',
    dropWhile_append_of_stopsAt hmarks hstop', List.length_replicate, hlen]
  rw [if_pos]
  simp only [List.contains_eq_mem, Bool.and_eq_true, Bool.or_eq_true, beq_iff_eq, decide_eq_true_eq,
    Bool.not_eq_true', Bool.and_eq_false_imp, decide_eq_false_iff_not]
  exact ⟨⟨⟨hindent, hmark⟩, hsize⟩, hinfo⟩

theorem not_opens {flavor : Flavor} {line : Text} (h : opening? flavor line = none) (o : Opening) :
    ¬ Opens flavor line o := by
  intro ho
  rw [opening?_complete ho] at h
  contradiction

theorem closes_sound {flavor : Flavor} {o : Opening} {line : Text}
    (h : closes flavor o line = true) : Closes flavor o line := by
  simp only [closes, Bool.and_eq_true, decide_eq_true_eq, List.all_eq_true] at h
  obtain ⟨⟨hindent, hsize⟩, hrest⟩ := h
  have hrun : (line.dropWhile isIndent).takeWhile (· == o.mark) =
      List.replicate ((line.dropWhile isIndent).takeWhile (· == o.mark)).length o.mark := by
    apply List.eq_replicate_iff.2 ⟨rfl, ?_⟩
    intro c hc
    exact eq_of_beq (all_of_mem_takeWhile c hc)
  refine ⟨_, _, _, ?_, all_of_mem_takeWhile, hindent, hsize, hrest⟩
  rw [← hrun, List.append_assoc, List.takeWhile_append_dropWhile, List.takeWhile_append_dropWhile]

theorem closes_complete {flavor : Flavor} {o : Opening} {line : Text}
    (hmark : o.mark = '\x60' ∨ o.mark = '~') (hsize : 0 < o.size) (h : Closes flavor o line) :
    closes flavor o line = true := by
  obtain ⟨w, n, r, rfl, hw, hindent, hn, hr⟩ := h
  have hstop : StopsAt isIndent (List.replicate n o.mark ++ r) :=
    .replicate (by omega) (isIndent_mark hmark) r
  have hmarks : ∀ c ∈ List.replicate n o.mark, (c == o.mark) = true := by
    intro c hc
    simp [List.eq_of_mem_replicate hc]
  have hstop' : StopsAt (· == o.mark) r := by
    intro c hc
    simp only [beq_eq_false_iff_ne]
    rintro rfl
    have hb := hr _ (List.mem_of_mem_head? hc)
    rw [isBlank_mark hmark] at hb
    contradiction
  rw [List.append_assoc]
  simp only [closes, takeWhile_append_of_stopsAt hw hstop, dropWhile_append_of_stopsAt hw hstop,
    takeWhile_append_of_stopsAt hmarks hstop', dropWhile_append_of_stopsAt hmarks hstop',
    List.length_replicate, Bool.and_eq_true, decide_eq_true_eq, List.all_eq_true]
  exact ⟨⟨hindent, hn⟩, hr⟩

theorem not_closes {flavor : Flavor} {o : Opening} {line : Text}
    (hmark : o.mark = '\x60' ∨ o.mark = '~') (hsize : 0 < o.size)
    (h : closes flavor o line = false) : ¬ Closes flavor o line := by
  intro hc
  rw [closes_complete hmark hsize hc] at h
  contradiction

theorem dropIndent_eq_drop (n : Nat) (line : Text) :
    dropIndent n line = line.drop (min n (line.takeWhile isIndent).length) := by
  fun_induction dropIndent n line with
  | case1 n c t hc ih => rw [ih, List.takeWhile_cons_of_pos hc]; simp [Nat.add_min_add_right]
  | case2 n c t hc => rw [List.takeWhile_cons_of_neg hc]; simp
  | case3 n t h =>
    cases n with
    | zero => simp
    | succ n =>
      cases t with
      | nil => rfl
      | cons c t => exact absurd rfl (h n c t rfl)

theorem stripped_dropIndent (n : Nat) (line : Text) : Stripped n line (dropIndent n line) := by
  have hk := List.prefix_iff_eq_take.1 (List.takeWhile_prefix (p := isIndent) (l := line))
  rw [dropIndent_eq_drop]
  refine ⟨_, (List.take_append_drop _ line).symm, ?_, ?_, ?_⟩
  · intro c hc
    rw [← List.take_take, ← hk] at hc
    exact all_of_mem_takeWhile c (List.mem_of_mem_take hc)
  · rw [List.length_take]
    omega
  · intro w' r' h hw' hn
    have hle : w'.length ≤ (line.takeWhile isIndent).length := by
      rw [h, List.takeWhile_append_of_pos hw', List.length_append]
      omega
    have hlen := (List.takeWhile_prefix (p := isIndent) (l := line)).length_le
    rw [List.length_take]
    omega

theorem stripped_iff {n : Nat} {line rest : Text} :
    Stripped n line rest ↔ dropIndent n line = rest := by
  constructor
  · rintro ⟨w, h, hw, hn, hmax⟩
    obtain ⟨w', h', hw', hn', hmax'⟩ := stripped_dropIndent n line
    have hlen : w'.length = w.length := Nat.le_antisymm (hmax _ _ h' hw' hn') (hmax' _ _ h hw hn)
    exact List.append_inj_right (h'.symm.trans h) hlen
  · rintro rfl
    exact stripped_dropIndent n line

theorem informs_iff {info language : Text} {metadata : Option Text} :
    Informs info language metadata ↔ language = info.firstWord ∧
      metadata = (some info.afterFirstWord).filter (!·.isEmpty) := by
  constructor
  · rintro ⟨u, v, rfl, hu, hl, hv, hempty, rfl⟩
    have hl' : ∀ c ∈ language, (!isBlank c) = true := by simpa using hl
    have hstop : StopsAt isBlank (language ++ v) := by
      cases language with
      | nil => rw [hempty rfl]; exact .nil
      | cons c l => exact .cons (hl c List.mem_cons_self)
    have htrim : Text.trimLeft (u ++ language ++ v) = language ++ v := by
      rw [List.append_assoc, Text.trimLeft, dropWhile_append_of_stopsAt hu hstop]
    simp only [Text.firstWord, Text.afterFirstWord, htrim, takeWhile_append_of_stopsAt hl' hv,
      dropWhile_append_of_stopsAt hl' hv, and_self]
  · rintro ⟨rfl, rfl⟩
    refine ⟨info.takeWhile isBlank, info.trimLeft.dropWhile (!isBlank ·), ?_, all_of_mem_takeWhile,
      ?_, stopsAt_dropWhile _ _, ?_, rfl⟩
    · rw [Text.firstWord, List.append_assoc, List.takeWhile_append_dropWhile, Text.trimLeft,
        List.takeWhile_append_dropWhile]
    · intro c hc
      simpa using all_of_mem_takeWhile c hc
    · intro h
      have hstop := stopsAt_dropWhile isBlank info
      change info.trimLeft.takeWhile _ = [] at h
      change info.trimLeft.dropWhile _ = []
      cases ht : info.trimLeft with
      | nil => rfl
      | cons c t =>
        have hc : isBlank c = false := hstop c (by rw [← Text.trimLeft, ht]; rfl)
        rw [ht, List.takeWhile_cons_of_pos (by simp [hc])] at h
        contradiction

/-- An info of a language and of metadata after a space. -/
theorem informs_words {u language : Text} {metadata : Option Text} (hu : Text.Blank u)
    (hne : language ≠ []) (hl : ∀ c ∈ language, isBlank c = false)
    (hm : ∀ t, metadata = some t → t ≠ [] ∧ t.trim = t) :
    Informs (u ++ language ++ metadata.elim [] (' ' :: ·)) language metadata := by
  refine ⟨u, metadata.elim [] (' ' :: ·), rfl, hu, hl, ?_, fun h => absurd h hne, ?_⟩
  · cases metadata with
    | none => exact .nil
    | some t => exact .cons (by decide)
  · cases metadata with
    | none => rfl
    | some t =>
      obtain ⟨ht, htrim⟩ := hm t rfl
      have hspace : Text.trim (' ' :: t) = t := by
        rw [Text.trim, Text.trimLeft, List.dropWhile_cons_of_pos (by decide)]
        exact htrim
      change some t = (some (Text.trim (' ' :: t))).filter (!·.isEmpty)
      rw [hspace]
      cases t with
      | nil => contradiction
      | cons c t => rfl

end Fence

end DocSamples
