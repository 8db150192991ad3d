import DocSamples.Proofs.Segmentation

namespace DocSamples

variable {o : Opening} {line : Text}

namespace Opening

/-- A closing fence of CommonMark: at most three spaces, a run of the marker at least as long as the
opening one, and then only spaces and tabs. -/
def ClosedBy (o : Opening) (line : Text) : Prop :=
  ∃ (k n : Nat) (r : Text), line = List.replicate k ' ' ++ List.replicate n o.mark ++ r ∧
    k ≤ 3 ∧ o.size ≤ n ∧ ∀ c ∈ r, c = ' ' ∨ c = '\t'

/-- No tab stands before the first marker, and there are no blanks but spaces and tabs. -/
def IsPlain (o : Opening) (line : Text) : Prop :=
  '\t' ∉ line.takeWhile (· != o.mark) ∧ ∀ c ∈ line, isBlank c = true → c = ' ' ∨ c = '\t'

instance (o : Opening) (line : Text) : Decidable (o.IsPlain line) :=
  @instDecidableAnd _ _ inferInstance (List.decidableBAll _ _)

theorem takeWhile_ne_mark {w r : Text} {n : Nat} (hmark : o.mark = '\x60' ∨ o.mark = '~')
    (hw : ∀ c ∈ w, Fence.isIndent c = true) (hn : 0 < n) :
    (w ++ List.replicate n o.mark ++ r).takeWhile (· != o.mark) = w := by
  rw [List.append_assoc]
  apply takeWhile_append_of_stopsAt
  · intro c hc
    have hm := Fence.isIndent_mark hmark
    simp only [bne_iff_ne]
    rintro rfl
    rw [hw _ hc] at hm
    contradiction
  · exact .replicate hn (by simp) r

theorem ClosedBy.closes (h : o.ClosedBy line) : Closes .markdown o line := by
  obtain ⟨k, n, r, rfl, hk, hn, hr⟩ := h
  refine ⟨List.replicate k ' ', n, r, rfl, ?_, ?_, hn, ?_⟩
  · exact fun _ hc => Fence.indents_of_mem_spaces .mdx hc
  · simpa [Fence.admits] using hk
  · intro c hc
    rcases hr c hc with rfl | rfl <;> decide

theorem ClosedBy.isPlain (hmark : o.mark = '\x60' ∨ o.mark = '~') (hsize : 3 ≤ o.size)
    (h : o.ClosedBy line) : o.IsPlain line := by
  obtain ⟨k, n, r, rfl, -, hn, hr⟩ := h
  constructor
  · have hspaces : ∀ c ∈ List.replicate k ' ', Fence.isIndent c = true :=
      fun _ hc => Fence.indents_of_mem_spaces .mdx hc
    rw [takeWhile_ne_mark hmark hspaces (by omega)]
    intro ht
    have he := List.eq_of_mem_replicate ht
    contradiction
  · intro c hc hb
    rcases List.mem_append.1 hc with hc | hc
    · rcases List.mem_append.1 hc with hc | hc
      · exact .inl (List.eq_of_mem_replicate hc)
      · cases List.eq_of_mem_replicate hc
        rw [Fence.isBlank_mark hmark] at hb
        contradiction
    · exact hr c hc

theorem IsPlain.closedBy (hmark : o.mark = '\x60' ∨ o.mark = '~') (hsize : 3 ≤ o.size)
    (h : o.IsPlain line) (hc : Closes .markdown o line) : o.ClosedBy line := by
  obtain ⟨w, n, r, rfl, hw, hk, hn, hr⟩ := hc
  obtain ⟨htab, hblank⟩ := h
  rw [takeWhile_ne_mark hmark hw (by omega)] at htab
  have hspaces : w = List.replicate w.length ' ' := by
    apply List.eq_replicate_iff.2 ⟨rfl, ?_⟩
    intro c hc
    have hi := hw c hc
    simp only [Fence.isIndent, Bool.or_eq_true, beq_iff_eq] at hi
    rcases hi with rfl | rfl
    · rfl
    · contradiction
  refine ⟨w.length, n, r, by rw [← hspaces], by simpa [Fence.admits] using hk, hn, ?_⟩
  intro c hc
  exact hblank c (List.mem_append_right _ hc) (hr c hc)

end Opening

namespace Block

variable {flavor : Flavor} {first n : Nat} {ls : List Text} {b : Block}

/-- The block ends at the first line of a kind: of the lines after its first one, that of the kind
is the one that closes it, and without such a line it goes on to the end of the lines. -/
structure EndsAtFirst (kind : Text → Prop) (first : Nat) (ls : List Text) (b : Block) : Prop where
  closing_iff : ∀ n line, b.startLine < n → n ≤ b.endLine → lineFrom? first ls n = some line →
    (kind line ↔ b.isClosed = true ∧ n = b.endLine)
  unclosed : b.isClosed = false → b.endLine + 1 = first + ls.length

/-- A line of a block after its first one lies in the body or closes the block. -/
theorem Stands.mem_body_or_closes (h : b.Stands flavor first ls) (hstart : b.startLine < n)
    (hend : n ≤ b.endLine) (hline : lineFrom? first ls n = some line) :
    (line ∈ b.body ∧ (b.isClosed = true → n ≠ b.endLine)) ∨
      (b.isClosed = true ∧ n = b.endLine ∧ Closes flavor b.opening line) := by
  by_cases hn : b.Holds n
  · left
    refine ⟨h.mem_body hn hline, ?_⟩
    rintro hc rfl
    exact not_holds_endLine hc hn
  · right
    cases hc : b.isClosed with
    | true =>
      have hlast : n = b.endLine := by
        simp only [Holds, endLine, hc, Bool.toNat_true] at hn hend ⊢
        omega
      obtain ⟨line', hline', hclose⟩ := h.closed hc
      rw [← hlast, hline] at hline'
      cases hline'
      exact ⟨rfl, hlast, hclose⟩
    | false =>
      simp only [Holds, endLine, hc, Bool.toNat_false] at hn hend
      omega

theorem Stands.endsAtFirst (h : b.Stands flavor first ls) :
    b.EndsAtFirst (Closes flavor b.opening) first ls where
  closing_iff n line hstart hend hline := by
    rcases h.mem_body_or_closes hstart hend hline with ⟨hmem, hn⟩ | ⟨hc, hn, hclose⟩
    · exact ⟨fun hclose => absurd hclose (h.inside line hmem), fun ⟨hc, he⟩ => absurd he (hn hc)⟩
    · exact ⟨fun _ => ⟨hc, hn⟩, fun _ => hclose⟩
  unclosed := h.unclosed

/-- A fence of Markdown ends where CommonMark has it end, exactly if the line that closes it is
plain. -/
theorem Stands.endsAtFirst_closedBy_iff (h : b.Stands .markdown first ls) :
    b.EndsAtFirst b.opening.ClosedBy first ls ↔
      (b.isClosed = true → ∀ line, lineFrom? first ls b.endLine = some line →
        b.opening.IsPlain line) := by
  obtain ⟨_, _, ho⟩ := h.opened
  have hends := h.endsAtFirst
  constructor
  · intro hc hclosed line hline
    have hlt : b.startLine < b.endLine := by
      simp only [endLine, hclosed, Bool.toNat_true]
      omega
    have hby := (hc.closing_iff _ line hlt (Nat.le_refl _) hline).2 ⟨hclosed, rfl⟩
    exact hby.isPlain ho.mark ho.size
  · intro hplain
    refine ⟨fun n line hstart hend hline => ?_, h.unclosed⟩
    have hiff := hends.closing_iff n line hstart hend hline
    constructor
    · intro hby
      exact hiff.1 hby.closes
    · rintro ⟨hclosed, rfl⟩
      exact (hplain hclosed line hline).closedBy ho.mark ho.size (hiff.2 ⟨hclosed, rfl⟩)

end Block

namespace Fence

/-- Every fence of a Markdown document ends at the first line with an indentation of at most three
spaces and tabs, enough markers, and blanks of any kind. That is where CommonMark has it end unless
there is a tab before the markers of that line, or a blank that is neither a space nor a tab. -/
theorem markdown_closing_iff (document : Text) :
    ∃ blocks, Segmented .markdown 1 (Text.lines document) blocks ∧
      scan .markdown document = blocks.map Block.fence ∧
      ∀ b ∈ blocks, b.EndsAtFirst (Closes .markdown b.opening) 1 (Text.lines document) ∧
        (b.EndsAtFirst b.opening.ClosedBy 1 (Text.lines document) ↔
          (b.isClosed = true → ∀ line, lineFrom? 1 (Text.lines document) b.endLine = some line →
            b.opening.IsPlain line)) := by
  obtain ⟨blocks, hseg, hscan⟩ := exists_segmented .markdown 1 (Text.lines document)
  refine ⟨blocks, hseg, hscan, fun b hb => ?_⟩
  have hstands := hseg.stands b hb
  exact ⟨hstands.endsAtFirst, hstands.endsAtFirst_closedBy_iff⟩

end Fence

def Block.emptyFence : Block := ⟨1, ⟨0, '\x60', 3, "scaf"⟩, [], true⟩

theorem Block.segmented_emptyFence (close : Text)
    (h : Fence.closes .markdown emptyFence.opening close = true) :
    Segmented .markdown 1 ["```scaf", close] [emptyFence] := by
  have ho : Opens .markdown "```scaf" emptyFence.opening := Fence.opening?_sound (by decide)
  have hin : ∀ l ∈ emptyFence.body, ¬ Closes .markdown emptyFence.opening l := by
    intro l hl
    contradiction
  exact .closedBlock 1 ho hin (Fence.closes_sound h)

/-- A line that closes a fence but is not plain takes from it what CommonMark has in its body. -/
theorem Block.emptyFence_ends_early {document close : Text}
    (hlines : Text.lines document = [("```scaf" : Text), close])
    (h : Fence.closes .markdown emptyFence.opening close = true)
    (hplain : ¬ emptyFence.opening.IsPlain close) :
    Segmented .markdown 1 (Text.lines document) [emptyFence] ∧
      Fence.scan .markdown document = [emptyFence.fence] ∧
      lineFrom? 1 (Text.lines document) 2 = some close ∧
      ¬ emptyFence.opening.ClosedBy close ∧
      ¬ emptyFence.EndsAtFirst emptyFence.opening.ClosedBy 1 (Text.lines document) := by
  have hseg := segmented_emptyFence close h
  rw [← hlines] at hseg
  have hstands := hseg.stands emptyFence (by simp)
  have hline : lineFrom? 1 (Text.lines document) 2 = some close := by
    rw [hlines]
    rfl
  refine ⟨hseg, Fence.scan_eq_of_segmented hseg, hline, ?_, ?_⟩
  · intro hby
    exact hplain (hby.isPlain (.inl rfl) (by decide))
  · rw [hstands.endsAtFirst_closedBy_iff]
    intro hall
    exact hplain (hall rfl close hline)

namespace Fence

def tabbedClosing : Text := "```scaf\n\t```\n"

def unbrokenClosing : Text := "```scaf\n```\u00a0\n"

/-- Markers behind a tab and markers before a no-break space close a fence, though CommonMark has
the fence go on to the end of the document. -/
theorem markdown_closing_unlike_commonMark :
    (Segmented .markdown 1 (Text.lines tabbedClosing) [Block.emptyFence] ∧
      scan .markdown tabbedClosing = [Block.emptyFence.fence] ∧
      lineFrom? 1 (Text.lines tabbedClosing) 2 = some "\t```" ∧
      ¬ Block.emptyFence.opening.ClosedBy "\t```" ∧
      ¬ Block.emptyFence.EndsAtFirst Block.emptyFence.opening.ClosedBy 1
        (Text.lines tabbedClosing)) ∧
    Segmented .markdown 1 (Text.lines unbrokenClosing) [Block.emptyFence] ∧
      scan .markdown unbrokenClosing = [Block.emptyFence.fence] ∧
      lineFrom? 1 (Text.lines unbrokenClosing) 2 = some "```\u00a0" ∧
      ¬ Block.emptyFence.opening.ClosedBy "```\u00a0" ∧
      ¬ Block.emptyFence.EndsAtFirst Block.emptyFence.opening.ClosedBy 1
        (Text.lines unbrokenClosing) := by
  constructor
  · exact Block.emptyFence_ends_early (by decide) (by decide) (by decide)
  · exact Block.emptyFence_ends_early (by decide) (by decide) (by decide)

theorem markdown_closing_iff_tabbed :
    ∃ b : Block, b.EndsAtFirst (Closes .markdown b.opening) 1 (Text.lines tabbedClosing) ∧
      ¬ b.EndsAtFirst b.opening.ClosedBy 1 (Text.lines tabbedClosing) := by
  obtain ⟨blocks, hseg, -, hall⟩ := markdown_closing_iff tabbedClosing
  have hone : Segmented .markdown 1 (Text.lines tabbedClosing) [Block.emptyFence] :=
    Block.segmented_emptyFence "\t```" (by decide)
  obtain rfl := hseg.unique hone
  obtain ⟨hends, hiff⟩ := hall Block.emptyFence List.mem_cons_self
  refine ⟨_, hends, ?_⟩
  rw [hiff]
  intro hplain
  exact absurd (hplain rfl "\t```" rfl) (by decide)

end Fence

end DocSamples
