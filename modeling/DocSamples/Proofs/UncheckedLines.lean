import DocSamples.Proofs.LineMapping

namespace DocSamples

variable {σ : Type} {flavor : Flavor} {settings : Settings} {first n : Nat} {ls ls' : List Text}
  {line line' : Text} {b c : Block} {blocks : List Block} {fs fs' : List Fence}

namespace Block

/-- The block with the body that stands in its place among other lines. -/
def reread (first : Nat) (ls : List Text) (b : Block) : Block :=
  { b with body := (ls.drop (b.startLine + 1 - first)).take b.body.length }

theorem Stands.length_reread (h : b.Stands flavor first ls) (hlen : ls'.length = ls.length) :
    (b.reread first ls').body.length = b.body.length := by
  have hfirst := h.first_le
  have hend := h.endLine_lt
  unfold endLine at hend
  simp only [reread, List.length_take, List.length_drop]
  omega

theorem Stands.endLine_reread (h : b.Stands flavor first ls) (hlen : ls'.length = ls.length) :
    (b.reread first ls').endLine = b.endLine := by
  rw [endLine, h.length_reread hlen]
  rfl

theorem Stands.line_of_reread {i : Nat} (h : b.Stands flavor first ls)
    (hlen : ls'.length = ls.length) (hi : (b.reread first ls').body[i]? = some line) :
    b.Holds (b.startLine + 1 + i) ∧ lineFrom? first ls' (b.startLine + 1 + i) = some line := by
  have hlt := (List.getElem?_eq_some_iff.1 hi).1
  rw [h.length_reread hlen] at hlt
  refine ⟨⟨by omega, by omega⟩, ?_⟩
  have hfirst := h.first_le
  have hn : b.startLine + 1 + i = first + (b.startLine + 1 - first + i) := by omega
  rw [reread, List.getElem?_take_of_lt hlt, List.getElem?_drop] at hi
  rw [hn, lineFrom?_add, hi]

end Block

/-- A line that may stand at the number `n` without being checked: outside of all blocks, one that
opens no fence, and in the body of a block that has another language or the skip token, one that
does not close it. -/
inductive Unchecked (flavor : Flavor) (settings : Settings) (blocks : List Block) (n : Nat)
    (line : Text) : Prop
  | outside (hn : ∀ b ∈ blocks, n < b.startLine ∨ b.endLine < n) (ho : ∀ o, ¬ Opens flavor line o)
  | inside {b : Block} (hb : b ∈ blocks) (hn : b.Holds n)
      (hf : b.fence.language ≠ settings.language ∨ b.fence.isSkipped settings.skipToken = true)
      (hc : ¬ Closes flavor b.opening line)

/-- An unchecked line within a block is one of its body, and the block is not validated. -/
theorem Unchecked.within (hu : Unchecked flavor settings blocks n line)
    (h : Segmented flavor first ls blocks) (hb : b ∈ blocks)
    (hn : b.startLine ≤ n ∧ n ≤ b.endLine) :
    b.Holds n ∧ b.fence.isValidated settings = false ∧ ¬ Closes flavor b.opening line := by
  cases hu with
  | outside hout =>
    have hn' := hout b hb
    omega
  | @inside c hc hholds hf hclose =>
    have hle := hholds.le_endLine
    have hlt := hholds.1
    rcases h.eq_or_apart hb hc with rfl | hapart | hapart
    · refine ⟨hholds, ?_, hclose⟩
      rw [Bool.eq_false_iff, ne_eq, Fence.isValidated_iff]
      rintro ⟨hl, hs⟩
      rcases hf with hf | hf
      · exact hf hl
      · rw [hs] at hf
        contradiction
    · omega
    · omega

/-- There are as many lines as before, and each is the one before or an unchecked one. -/
structure Revised (flavor : Flavor) (settings : Settings) (blocks : List Block) (first : Nat)
    (ls ls' : List Text) : Prop where
  length : ls'.length = ls.length
  changed : ∀ n line line', lineFrom? first ls n = some line → lineFrom? first ls' n = some line' →
    line' = line ∨ Unchecked flavor settings blocks n line'

namespace Revised

theorem exists_before (hr : Revised flavor settings blocks first ls ls')
    (hline : lineFrom? first ls' n = some line') :
    ∃ line, lineFrom? first ls n = some line ∧
      (line' = line ∨ Unchecked flavor settings blocks n line') := by
  have hbounds := lineFrom?_bounds hline
  rw [hr.length] at hbounds
  obtain ⟨line, hline'⟩ := exists_lineFrom? hbounds
  exact ⟨line, hline', hr.changed n line line' hline' hline⟩

theorem exists_after (hr : Revised flavor settings blocks first ls ls')
    (hline : lineFrom? first ls n = some line) :
    ∃ line', lineFrom? first ls' n = some line' ∧
      (line' = line ∨ Unchecked flavor settings blocks n line') := by
  have hbounds := lineFrom?_bounds hline
  rw [← hr.length] at hbounds
  obtain ⟨line', hline'⟩ := exists_lineFrom? hbounds
  exact ⟨line', hline', hr.changed n line line' hline hline'⟩

/-- A line that opens or closes a block stays as it is. -/
theorem line_of_not_holds (hr : Revised flavor settings blocks first ls ls')
    (h : Segmented flavor first ls blocks) (hb : b ∈ blocks)
    (hn : b.startLine ≤ n ∧ n ≤ b.endLine) (hedge : ¬ b.Holds n)
    (hline : lineFrom? first ls n = some line) : lineFrom? first ls' n = some line := by
  obtain ⟨line', hline', rfl | hu⟩ := hr.exists_after hline
  · exact hline'
  · exact absurd (hu.within h hb hn).1 hedge

/-- A line of the body of a block stays as it is, if the block is validated. -/
theorem line_of_holds (hr : Revised flavor settings blocks first ls ls')
    (h : Segmented flavor first ls blocks) (hb : b ∈ blocks) (hn : b.Holds n)
    (hline : lineFrom? first ls' n = some line) :
    lineFrom? first ls n = some line ∨
      b.fence.isValidated settings = false ∧ ¬ Closes flavor b.opening line := by
  obtain ⟨line, hline', rfl | hu⟩ := hr.exists_before hline
  · exact .inl hline'
  · exact .inr (hu.within h hb ⟨Nat.le_of_lt hn.1, hn.le_endLine⟩).2

theorem stands (hr : Revised flavor settings blocks first ls ls')
    (h : Segmented flavor first ls blocks) (hb : b ∈ blocks) :
    (b.reread first ls').Stands flavor first ls' := by
  have hstands := h.stands b hb
  have hle := b.startLine_le_endLine
  refine ⟨?_, fun i line hi => (hstands.line_of_reread hr.length hi).2, ?_, ?_, ?_⟩
  · obtain ⟨line, hline, ho⟩ := hstands.opened
    have hn := And.intro (Nat.le_refl b.startLine) hle
    exact ⟨line, hr.line_of_not_holds h hb hn b.not_holds_startLine hline, ho⟩
  · intro line hmem hclose
    obtain ⟨i, hi⟩ := List.mem_iff_getElem?.1 hmem
    obtain ⟨hholds, hline⟩ := hstands.line_of_reread hr.length hi
    rcases hr.line_of_holds h hb hholds hline with hsame | ⟨-, hnot⟩
    · exact hstands.inside line (hstands.mem_body hholds hsame) hclose
    · exact hnot hclose
  · intro hc
    obtain ⟨line, hline, hclose⟩ := hstands.closed hc
    have hn := And.intro hle (Nat.le_refl b.endLine)
    rw [hstands.endLine_reread hr.length]
    exact ⟨line, hr.line_of_not_holds h hb hn (Block.not_holds_endLine hc) hline, hclose⟩
  · intro hu
    rw [hstands.endLine_reread hr.length, hr.length]
    exact hstands.unclosed hu

/-- The blocks keep their places among the lines, and nothing but their bodies changes. -/
theorem segmented (hr : Revised flavor settings blocks first ls ls')
    (h : Segmented flavor first ls blocks) :
    Segmented flavor first ls' (blocks.map (Block.reread first ls')) where
  ordered := by
    rw [List.pairwise_map]
    apply h.ordered.imp_of_mem
    intro a b ha _ hlt
    rw [(h.stands a ha).endLine_reread hr.length]
    exact hlt
  stands := by
    intro b hb
    obtain ⟨b, hb', rfl⟩ := List.mem_map.1 hb
    exact hr.stands h hb'
  outside n line hline hout := by
    have hout' : ∀ b ∈ blocks, n < b.startLine ∨ b.endLine < n := by
      intro b hb
      rw [← (h.stands b hb).endLine_reread hr.length]
      exact hout _ (List.mem_map_of_mem hb)
    obtain ⟨line, hline', rfl | hu⟩ := hr.exists_before hline
    · exact h.outside n _ hline' hout'
    · cases hu with
      | outside _ ho => exact ho
      | inside hb hholds =>
        have hn := hout' _ hb
        have hle := hholds.le_endLine
        have hlt := hholds.1
        omega

theorem reread_of_isValidated (hr : Revised flavor settings blocks first ls ls')
    (h : Segmented flavor first ls blocks) (hb : b ∈ blocks)
    (hf : b.fence.isValidated settings = true) : b.reread first ls' = b := by
  have hstands := h.stands b hb
  have hbody : (b.reread first ls').body = b.body := by
    apply List.ext_getElem (hstands.length_reread hr.length)
    intro i hi hi'
    obtain ⟨hholds, hline⟩ := hstands.line_of_reread hr.length (List.getElem?_eq_getElem hi)
    rcases hr.line_of_holds h hb hholds hline with hsame | ⟨hnot, -⟩
    · rw [hstands.body i _ (List.getElem?_eq_getElem hi')] at hsame
      exact (Option.some.inj hsame).symm
    · rw [hf] at hnot
      contradiction
  change { b with body := (b.reread first ls').body } = b
  rw [hbody]

end Revised

/-- A fence that differs from another in its text at most, and only if neither is validated. -/
structure Fence.Alike (settings : Settings) (f f' : Fence) : Prop where
  language : f'.language = f.language
  metadata : f'.metadata = f.metadata
  startLine : f'.startLine = f.startLine
  text : f.isValidated settings = true → f'.text = f.text

theorem Revised.alike (hr : Revised flavor settings blocks first ls ls')
    (h : Segmented flavor first ls blocks) :
    List.Forall₂ (Fence.Alike settings) (blocks.map Block.fence)
      ((blocks.map (Block.reread first ls')).map Block.fence) := by
  rw [List.map_map, List.forall₂_map_left_iff, List.forall₂_map_right_iff, List.forall₂_same]
  intro b hb
  refine ⟨rfl, rfl, rfl, fun hf => ?_⟩
  rw [Function.comp_apply, hr.reread_of_isValidated h hb hf]

namespace Document

theorem walk_alike (check : Checker σ) (h : List.Forall₂ (Fence.Alike settings) fs fs')
    (r : Report) : walk check settings fs' r = walk check settings fs r := by
  induction h generalizing r with
  | nil => rfl
  | @cons f f' fs fs' hf hfs ih =>
    have hskip : f'.isSkipped settings.skipToken = f.isSkipped settings.skipToken := by
      rw [Fence.isSkipped, Fence.isSkipped, hf.metadata]
    simp only [walk, failureOf, ih, hf.language, hf.startLine, hskip]
    split
    · rfl
    · rename_i hl
      split
      · rfl
      · rename_i hs
        rw [hf.text (Fence.isValidated_iff.2 ⟨not_not.1 hl, Bool.eq_false_iff.2 hs⟩)]

/-- What is not checked has no influence. Two documents that differ only in lines outside of the
fences, where neither opens one, and in the bodies of fences in other languages or with the skip
token, where neither closes one, are validated in the same way: the checker is asked the same, and
the reports and the failures are equal. -/
theorem validate_revised {t t' : Text} (check : Checker σ) (path : Option Path)
    (h : Segmented flavor 1 (Text.lines t) blocks)
    (hr : Revised flavor settings blocks 1 (Text.lines t) (Text.lines t')) :
    report check settings ⟨path, flavor, t'⟩ = report check settings ⟨path, flavor, t⟩ ∧
      validate check settings ⟨path, flavor, t'⟩ = validate check settings ⟨path, flavor, t⟩ := by
  have hreport :
      report check settings ⟨path, flavor, t'⟩ = report check settings ⟨path, flavor, t⟩ := by
    rw [report, report, Fence.scan_eq_of_segmented h, Fence.scan_eq_of_segmented (hr.segmented h)]
    exact walk_alike check (hr.alike h) _
  exact ⟨hreport, by rw [validate, validate, hreport]⟩

/-- A line of prose, a fence with the skip token, and one that fails. -/
def halfCheckedPage : Text := "a\n```scaf skip\nb\n```\n~~~scaf\nassert (x)\n"

/-- The page with markers in the prose that open nothing, and with some in the exempt fence that do
not close it. -/
def revisedPage : Text := "```a`\r\n```scaf skip\n~~~scaf\n```\n~~~scaf\nassert (x)"

def halfCheckedBlocks : List Block :=
  [⟨2, ⟨0, '\x60', 3, "scaf skip"⟩, [['b']], true⟩,
    ⟨5, ⟨0, '~', 3, "scaf"⟩, ["assert (x)"], false⟩]

theorem segmented_halfCheckedPage :
    Segmented .markdown 1 (Text.lines halfCheckedPage) halfCheckedBlocks := by
  have hprose : Segmented .markdown 1 [['a']] [] := .of_not_opens 1 (Fence.not_opens rfl)
  have ho : Opens .markdown "```scaf skip" ⟨0, '\x60', 3, "scaf skip"⟩ := Fence.opening?_sound rfl
  have hclose : Closes .markdown ⟨0, '\x60', 3, "scaf skip"⟩ "```" := Fence.closes_sound rfl
  have ho' : Opens .markdown "~~~scaf" ⟨0, '~', 3, "scaf"⟩ := Fence.opening?_sound rfl
  have hin : ∀ l ∈ [['b']], ¬ Closes .markdown ⟨0, '\x60', 3, "scaf skip"⟩ l :=
    List.forall_mem_singleton.2 (ho.not_closes rfl)
  have hin' : ∀ l ∈ [("assert (x)" : Text)], ¬ Closes .markdown ⟨0, '~', 3, "scaf"⟩ l :=
    List.forall_mem_singleton.2 (ho'.not_closes rfl)
  have hskipped := hprose.append (by simp) (.closedBlock 2 ho hin hclose)
  exact hskipped.append (by simp) (.openBlock 5 ho' hin')

theorem revised_halfCheckedPage :
    Revised .markdown (.default ⟨0, []⟩) halfCheckedBlocks 1 (Text.lines halfCheckedPage)
      (Text.lines revisedPage) where
  length := by decide
  changed := by
    intro n line line' hline hline'
    have hbound := (lineFrom?_bounds hline).2
    obtain rfl | rfl | hn : n = 1 ∨ n = 3 ∨ n ≠ 1 ∧ n ≠ 3 := by omega
    · obtain rfl : "```a`".toList = line' := Option.some.inj hline'
      exact .inr (.outside (by decide) (Fence.not_opens rfl))
    · obtain rfl : "~~~scaf".toList = line' := Option.some.inj hline'
      have hclose : ¬ Closes .markdown ⟨0, '\x60', 3, "scaf skip"⟩ "~~~scaf" :=
        Fence.not_closes (.inl rfl) (by decide) rfl
      exact .inr (.inside List.mem_cons_self ⟨by decide, by decide⟩ (.inr rfl) hclose)
    · have hsame : ∀ n < 7, n ≠ 1 ∧ n ≠ 3 → lineFrom? 1 (Text.lines revisedPage) n =
          lineFrom? 1 (Text.lines halfCheckedPage) n := by decide
      rw [hsame n hbound hn, hline] at hline'
      exact .inl (Option.some.inj hline').symm

theorem validate_revised_halfCheckedPage :
    Revised .markdown (.default ⟨0, []⟩) halfCheckedBlocks 1 (Text.lines halfCheckedPage)
        (Text.lines revisedPage) ∧
      validate rejectsFourthLine (.default ⟨0, []⟩) ⟨none, .markdown, revisedPage⟩ =
        validate rejectsFourthLine (.default ⟨0, []⟩) ⟨none, .markdown, halfCheckedPage⟩ :=
  ⟨revised_halfCheckedPage,
    (validate_revised rejectsFourthLine none segmented_halfCheckedPage revised_halfCheckedPage).2⟩

end Document

end DocSamples
