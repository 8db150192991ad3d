import DocSamples.Proofs.Block
import DocSamples.Proofs.Lines

namespace DocSamples

variable {flavor : Flavor} {first n : Nat} {ls ls' : List Text} {line : Text} {o : Opening}

/-- The blocks among lines, of which the first has the number `first`: each stands there, they
follow one another without overlap, and no line outside of them opens a fence. -/
structure Segmented (flavor : Flavor) (first : Nat) (ls : List Text) (blocks : List Block) :
    Prop where
  ordered : blocks.Pairwise fun a b => a.endLine < b.startLine
  stands : ∀ b ∈ blocks, b.Stands flavor first ls
  outside : ∀ n line, lineFrom? first ls n = some line →
    (∀ b ∈ blocks, n < b.startLine ∨ b.endLine < n) → ∀ o, ¬ Opens flavor line o

namespace Segmented

variable {blocks blocks' : List Block}

theorem nil (flavor : Flavor) (first : Nat) : Segmented flavor first [] [] where
  ordered := .nil
  stands := by simp
  outside n line h := by
    have := lineFrom?_bounds h
    simp only [List.length_nil] at this
    omega

theorem of_not_opens (first : Nat) (h : ∀ o, ¬ Opens flavor line o) :
    Segmented flavor first [line] [] where
  ordered := .nil
  stands := by simp
  outside n line' hn _ := by
    have hb := lineFrom?_bounds hn
    obtain ⟨i, rfl⟩ := Nat.exists_eq_add_of_le hb.1
    simp only [List.length_singleton] at hb
    obtain rfl : i = 0 := by omega
    rw [lineFrom?_add] at hn
    cases hn
    exact h

theorem append (h : Segmented flavor first ls blocks) (hc : ∀ b ∈ blocks, b.isClosed = true)
    (h' : Segmented flavor (first + ls.length) ls' blocks') :
    Segmented flavor first (ls ++ ls') (blocks ++ blocks') where
  ordered := by
    refine List.pairwise_append.2 ⟨h.ordered, h'.ordered, ?_⟩
    intro a ha b hb
    exact Nat.lt_of_lt_of_le (h.stands a ha).endLine_lt (h'.stands b hb).first_le
  stands := by
    intro b hb
    rcases List.mem_append.1 hb with hb | hb
    · exact (h.stands b hb).append_left (hc b hb)
    · exact (h'.stands b hb).append_right
  outside n line hn hout := by
    have hout' := List.forall_mem_append.1 hout
    by_cases hlt : n < first + ls.length
    · obtain ⟨i, rfl⟩ := Nat.exists_eq_add_of_le (lineFrom?_bounds hn).1
      apply h.outside (first + i) line ?_ hout'.1
      rw [lineFrom?_add] at hn ⊢
      rw [← hn, List.getElem?_append_left (by omega)]
    · apply h'.outside n line ?_ hout'.2
      rw [← lineFrom?_append_right (by omega), hn]

theorem singleton {b : Block} (h : b.Stands flavor first ls) (hstart : b.startLine = first)
    (hend : b.endLine + 1 = first + ls.length) : Segmented flavor first ls [b] where
  ordered := List.pairwise_singleton _ _
  stands := by simpa using h
  outside n line hline hout := by
    have hb := lineFrom?_bounds hline
    have hn := hout b List.mem_cons_self
    omega

theorem openBlock {body : List Text} (first : Nat) (ho : Opens flavor line o)
    (hin : ∀ l ∈ body, ¬ Closes flavor o l) :
    Segmented flavor first (line :: body) [⟨first, o, body, false⟩] := by
  have hst := Block.stands_cons first none ho hin (by simp)
  rw [Option.toList_none, List.append_nil] at hst
  apply singleton hst rfl
  simp only [Block.endLine, Option.isSome_none, Bool.toNat_false, List.length_cons]
  omega

theorem closedBlock {body : List Text} {close : Text} (first : Nat) (ho : Opens flavor line o)
    (hin : ∀ l ∈ body, ¬ Closes flavor o l) (hclose : Closes flavor o close) :
    Segmented flavor first (line :: body ++ [close]) [⟨first, o, body, true⟩] := by
  have hst := Block.stands_cons first (some close) ho hin (by rintro l ⟨⟩; exact hclose)
  apply singleton hst rfl
  simp only [Block.endLine, Option.isSome_some, Bool.toNat_true, Option.toList_some,
    List.cons_append, List.length_cons, List.length_append, List.length_nil]
  omega

end Segmented

/-- The blocks among the lines from the number `k` on. -/
structure SegmentedFrom (flavor : Flavor) (first : Nat) (ls : List Text) (k : Nat)
    (blocks : List Block) : Prop where
  ordered : blocks.Pairwise fun a b => a.endLine < b.startLine
  stands : ∀ b ∈ blocks, b.Stands flavor first ls
  le : ∀ b ∈ blocks, k ≤ b.startLine
  outside : ∀ n line, k ≤ n → lineFrom? first ls n = some line →
    (∀ b ∈ blocks, n < b.startLine ∨ b.endLine < n) → ∀ o, ¬ Opens flavor line o

namespace SegmentedFrom

variable {k : Nat} {b b' : Block} {blocks blocks' : List Block}

theorem tail (h : SegmentedFrom flavor first ls k (b :: blocks)) :
    SegmentedFrom flavor first ls (b.endLine + 1) blocks where
  ordered := h.ordered.of_cons
  stands c hc := h.stands c (List.mem_cons_of_mem b hc)
  le := (List.pairwise_cons.1 h.ordered).1
  outside n line hn hline hout := by
    have hb := h.le b List.mem_cons_self
    have hle := b.startLine_le_endLine
    apply h.outside n line (by omega) hline
    intro c hc
    rcases List.mem_cons.1 hc with rfl | hc
    · exact .inr (by omega)
    · exact hout c hc

/-- The line that opens the first block of one segmentation lies in a block of any other. -/
theorem head_le (h : SegmentedFrom flavor first ls k (b :: blocks))
    (h' : SegmentedFrom flavor first ls k blocks') :
    ∃ c cs, blocks' = c :: cs ∧ c.startLine ≤ b.startLine := by
  obtain ⟨line, hline, ho⟩ := (h.stands b List.mem_cons_self).opened
  have hin : ∃ c ∈ blocks', c.startLine ≤ b.startLine := by
    by_contra hnone
    -- If all blocks start later, this line lies outside of them and must not open a fence.
    refine h'.outside _ line (h.le b List.mem_cons_self) hline ?_ _ ho
    intro c hc
    by_contra hlt
    exact hnone ⟨c, hc, by omega⟩
  obtain ⟨c, hc, hle⟩ := hin
  cases blocks' with
  | nil => contradiction
  | cons d ds =>
    refine ⟨d, ds, rfl, ?_⟩
    rcases List.mem_cons.1 hc with rfl | hc
    · exact hle
    · have hlt := (List.pairwise_cons.1 h'.ordered).1 c hc
      have hd := d.startLine_le_endLine
      omega

theorem unique (h : SegmentedFrom flavor first ls k blocks)
    (h' : SegmentedFrom flavor first ls k blocks') : blocks = blocks' := by
  induction blocks generalizing k blocks' with
  | nil =>
    cases blocks' with
    | nil => rfl
    | cons c cs =>
      obtain ⟨_, _, heq, _⟩ := h'.head_le h
      contradiction
  | cons b bs ih =>
    -- Each head starts no later than the other one, and a start determines its block.
    obtain ⟨c, cs, rfl, hle⟩ := h.head_le h'
    obtain ⟨d, ds, heq, hle'⟩ := h'.head_le h
    cases heq
    have hstart := Nat.le_antisymm hle' hle
    obtain rfl := (h.stands b List.mem_cons_self).unique (h'.stands c List.mem_cons_self) hstart
    rw [ih h.tail h'.tail]

end SegmentedFrom

namespace Segmented

variable {blocks blocks' : List Block}

theorem segmentedFrom (h : Segmented flavor first ls blocks) :
    SegmentedFrom flavor first ls first blocks where
  ordered := h.ordered
  stands := h.stands
  le b hb := (h.stands b hb).first_le
  outside n line _ hline hout := h.outside n line hline hout

theorem unique (h : Segmented flavor first ls blocks) (h' : Segmented flavor first ls blocks') :
    blocks = blocks' :=
  h.segmentedFrom.unique h'.segmentedFrom

/-- Blocks of one segmentation are equal or have no line in common. -/
theorem eq_or_apart {b c : Block} (h : Segmented flavor first ls blocks) (hb : b ∈ blocks)
    (hc : c ∈ blocks) : b = c ∨ b.endLine < c.startLine ∨ c.endLine < b.startLine := by
  obtain ⟨i, hi, rfl⟩ := List.getElem_of_mem hb
  obtain ⟨j, hj, rfl⟩ := List.getElem_of_mem hc
  have hordered := List.pairwise_iff_getElem.1 h.ordered
  rcases Nat.lt_trichotomy i j with hij | rfl | hij
  · exact .inr (.inl (hordered i j hi hj hij))
  · exact .inl rfl
  · exact .inr (.inr (hordered j i hj hi hij))

end Segmented

namespace Fence

/-- Lines can be divided into blocks, and the scanner finds the fences of these blocks. -/
theorem exists_segmented (flavor : Flavor) (first : Nat) (ls : List Text) :
    ∃ blocks, Segmented flavor first ls blocks ∧
      scanFrom flavor first ls = blocks.map Block.fence := by
  fun_induction scanFrom flavor first ls with
  | case1 n => exact ⟨[], .nil flavor n, rfl⟩
  | case2 n line ls hnone ih =>
    obtain ⟨blocks, hseg, hscan⟩ := ih
    have hline := Segmented.of_not_opens n (not_opens hnone)
    exact ⟨blocks, hline.append (by simp) hseg, hscan⟩
  | case3 n line ls o hsome body ih =>
    obtain ⟨blocks, hseg, hscan⟩ := ih
    have ho := opening?_sound hsome
    have hin : ∀ l ∈ body, ¬ Closes flavor o l := by
      intro l hl
      have hfalse : (!closes flavor o l) = true := all_of_mem_takeWhile l hl
      exact ho.not_closes (Bool.not_eq_true' _ ▸ hfalse)
    have hls := List.takeWhile_append_dropWhile (p := (!closes flavor o ·)) (l := ls)
    have hstop := stopsAt_dropWhile (!closes flavor o ·) ls
    rw [show ls.takeWhile (!closes flavor o ·) = body from rfl] at hls
    -- Either no line closes the fence, or the first one after its body does.
    cases hd : ls.dropWhile (!closes flavor o ·) with
    | nil =>
      rw [hd, List.append_nil] at hls
      have hrest : ls.drop (body.length + 1) = [] := by rw [← hls]; simp
      rw [hrest] at hseg hscan ⊢
      obtain rfl := hseg.unique (.nil flavor _)
      refine ⟨_, .openBlock n ho (hls ▸ hin), ?_⟩
      rw [hscan, hls]
      rfl
    | cons close rest =>
      rw [hd] at hls hstop
      have hclose : Closes flavor o close := closes_sound (by simpa using hstop close rfl)
      have hrest : ls.drop (body.length + 1) = rest := by rw [← hls]; simp
      rw [hrest] at hseg hscan ⊢
      have hlen : n + body.length + 2 = n + (line :: body ++ [close]).length := by
        simp only [List.cons_append, List.length_cons, List.length_append, List.length_nil]
        omega
      rw [hlen] at hseg
      have hall := (Segmented.closedBlock n ho hin hclose).append (by simp) hseg
      rw [List.append_assoc, List.singleton_append, List.cons_append, hls] at hall
      refine ⟨_, hall, ?_⟩
      rw [hscan]
      rfl

theorem scan_eq_of_segmented {document : Text} {blocks : List Block}
    (h : Segmented flavor 1 (Text.lines document) blocks) :
    scan flavor document = blocks.map Block.fence := by
  obtain ⟨blocks', h', hscan⟩ := exists_segmented flavor 1 (Text.lines document)
  rw [scan, hscan, h.unique h']

/-- The lines of a document are divided into blocks in exactly one way, and the scanner finds
exactly the fences that these blocks yield. -/
theorem scan_segmentation (flavor : Flavor) (document : Text) :
    ∃ ls, Text.Broken document ls ∧ (∃! blocks, Segmented flavor 1 ls blocks) ∧
      ∀ blocks, Segmented flavor 1 ls blocks →
        ∀ fences, List.Forall₂ Block.Yields blocks fences ↔ scan flavor document = fences := by
  refine ⟨Text.lines document, Text.broken_iff.2 rfl, ?_, ?_⟩
  · obtain ⟨blocks, hseg, _⟩ := exists_segmented flavor 1 (Text.lines document)
    exact ⟨blocks, hseg, fun blocks' h' => h'.unique hseg⟩
  · intro blocks hseg fences
    rw [Block.forall₂_yields_iff, scan_eq_of_segmented hseg]

end Fence

end DocSamples
