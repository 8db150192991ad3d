import DocSamples.Proofs.Segmentation

namespace DocSamples

variable {flavor flavor' : Flavor} {n k : Nat} {ls : List Text} {line w t : Text} {o : Opening}

namespace Fence

/-- Changed lines have the fences of the lines before the change, if each of them opens and closes
what it did, and if a fence takes the same text from its body. -/
theorem scanFrom_map {f : Text → Text} {g : Opening → Opening}
    (hopen : ∀ l ∈ ls, opening? flavor' (f l) = (opening? flavor l).map g)
    (hclose : ∀ l ∈ ls, ∀ l' ∈ ls, ∀ o, opening? flavor l = some o →
      closes flavor' (g o) (f l') = closes flavor o l')
    (hbody : ∀ o n body, ofBody (g o) n (body.map f) = ofBody o n body) (n : Nat) :
    scanFrom flavor' n (ls.map f) = scanFrom flavor n ls := by
  fun_induction scanFrom flavor n ls with
  | case1 n => rw [List.map_nil, scanFrom]
  | case2 n line ls hnone ih =>
    rw [List.forall_mem_cons] at hopen
    have hsub : ∀ l ∈ ls, l ∈ line :: ls := fun l hl => List.mem_cons_of_mem line hl
    rw [List.map_cons, scanFrom, hopen.1, hnone]
    exact ih hopen.2 fun l hl l' hl' => hclose l (hsub l hl) l' (hsub l' hl')
  | case3 n line ls o hsome body ih =>
    rw [List.forall_mem_cons] at hopen
    have hsub : ∀ l ∈ ls.drop (body.length + 1), l ∈ line :: ls :=
      fun l hl => List.mem_cons_of_mem line (List.mem_of_mem_drop hl)
    have hline : opening? flavor' (f line) = some (g o) := by
      rw [hopen.1, hsome]
      rfl
    have hwhile : (ls.map f).takeWhile (!closes flavor' (g o) ·) = body.map f := by
      rw [List.takeWhile_map]
      congr 1
      apply takeWhile_congr
      intro l hl
      rw [Function.comp_apply,
        hclose line List.mem_cons_self l (List.mem_cons_of_mem line hl) o hsome]
    have hrest := ih (fun l hl => hopen.2 l (List.mem_of_mem_drop hl))
      fun l hl l' hl' => hclose l (hsub l hl) l' (hsub l' hl')
    rw [List.map_cons, scanFrom, hline]
    simp only [hwhile, hbody, List.length_map, ← List.map_drop, hrest]

end Fence

theorem Opens.mdx (h : Opens flavor line o) : Opens .mdx line o where
  parts := by
    obtain ⟨w, hlen, hw, hline⟩ := h.parts
    exact ⟨w, hlen, fun c hc => Fence.isIndent_of_indents (hw c hc), hline⟩
  indent := rfl
  mark := h.mark
  size := h.size
  longest := h.longest
  info := h.info

theorem Closes.mdx (h : Closes flavor o line) : Closes .mdx o line := by
  obtain ⟨w, n, r, hline, hw, -, hn, hr⟩ := h
  exact ⟨w, n, r, hline, hw, rfl, hn, hr⟩

/-- If three backticks or three tildes follow the spaces and tabs at the start of a line, these are
at most three spaces. -/
def IsShallow (line : Text) : Prop :=
  Text.startsWith (line.dropWhile Fence.isIndent) "```" = true ∨
      Text.startsWith (line.dropWhile Fence.isIndent) "~~~" = true →
    (line.takeWhile Fence.isIndent).length ≤ 3 ∧ ∀ c ∈ line.takeWhile Fence.isIndent, c = ' '

instance (line : Text) : Decidable (IsShallow line) :=
  have := List.decidableBAll (fun c : Char => c = ' ') (line.takeWhile Fence.isIndent)
  inferInstanceAs (Decidable (_ ∨ _ → _ ∧ _))

theorem Text.startsWith_replicate (h : 3 ≤ n) (mark : Char) (t : Text) :
    startsWith (List.replicate n mark ++ t) (List.replicate 3 mark) = true := by
  obtain ⟨k, rfl⟩ := Nat.exists_eq_add_of_le h
  have hsplit : List.replicate (3 + k) mark ++ t =
      List.replicate 3 mark ++ (List.replicate k mark ++ t) := by
    rw [List.replicate_add, List.append_assoc]
  exact startsWith_iff.2 ⟨_, hsplit⟩

namespace IsShallow

theorem indentation {mark : Char} {r : Text} (h : IsShallow (w ++ List.replicate n mark ++ r))
    (hw : ∀ c ∈ w, Fence.isIndent c = true) (hmark : mark = '\x60' ∨ mark = '~') (hn : 3 ≤ n) :
    w.length ≤ 3 ∧ ∀ c ∈ w, c = ' ' := by
  have hstop : StopsAt Fence.isIndent (List.replicate n mark ++ r) :=
    .replicate (by omega) (Fence.isIndent_mark hmark) r
  rw [IsShallow, List.append_assoc, takeWhile_append_of_stopsAt hw hstop,
    dropWhile_append_of_stopsAt hw hstop] at h
  apply h
  rcases hmark with rfl | rfl
  · exact .inl (Text.startsWith_replicate hn '\x60' r)
  · exact .inr (Text.startsWith_replicate hn '~' r)

theorem opens (h : IsShallow line) (ho : Opens .mdx line o) : Opens .markdown line o := by
  obtain ⟨⟨w, hlen, hw, rfl⟩, -, hmark, hsize, hlongest, hinfo⟩ := ho
  obtain ⟨hle, hspaces⟩ := h.indentation hw hmark hsize
  have hw' : ∀ c ∈ w, Fence.indents .markdown c = true := by
    intro c hc
    rw [hspaces c hc]
    rfl
  have hindent : Fence.admits .markdown o.indent = true := by
    rw [← hlen]
    exact decide_eq_true hle
  exact ⟨⟨w, hlen, hw', rfl⟩, hindent, hmark, hsize, hlongest, hinfo⟩

theorem closes (h : IsShallow line) (ho : Opens flavor t o) (hc : Closes .mdx o line) :
    Closes .markdown o line := by
  obtain ⟨w, n, r, rfl, hw, -, hn, hr⟩ := hc
  obtain ⟨hle, -⟩ := h.indentation hw ho.mark (Nat.le_trans ho.size hn)
  exact ⟨w, n, r, rfl, hw, decide_eq_true hle, hn, hr⟩

theorem opening?_mdx (h : IsShallow line) :
    Fence.opening? .mdx line = Fence.opening? .markdown line := by
  apply Option.ext
  intro o
  constructor
  · intro ho
    exact Fence.opening?_complete (h.opens (Fence.opening?_sound ho))
  · intro ho
    exact Fence.opening?_complete (Fence.opening?_sound ho).mdx

theorem closes_mdx (h : IsShallow line) (ho : Opens flavor t o) :
    Fence.closes .mdx o line = Fence.closes .markdown o line := by
  rw [Bool.eq_iff_iff, ho.closes_iff, ho.closes_iff]
  exact ⟨h.closes ho, Closes.mdx⟩

end IsShallow

namespace Fence

/-- The flavors differ in nothing but the indentation of markers: where none stand behind more than
three spaces, or behind a tab, both have the same fences. -/
theorem scan_markdown_eq_scan_mdx {document : Text}
    (h : ∀ line ∈ Text.lines document, IsShallow line) :
    scan .markdown document = scan .mdx document := by
  have hmap : scanFrom .mdx 1 ((Text.lines document).map id) = scan .markdown document := by
    apply scanFrom_map (g := id)
    · intro line hline
      rw [Option.map_id]
      exact (h line hline).opening?_mdx
    · intro _ _ line hline o ho
      exact (h line hline).closes_mdx (opening?_sound ho)
    · intro o n body
      rw [List.map_id]
      rfl
  rw [List.map_id] at hmap
  exact hmap.symm

/-- Markers behind three spaces, two tildes behind four, and one backtick behind a tab. -/
def shallowPage : Text := "   ```scaf\n\tx\n  ```\n\t`a\r\n~~~~go\n    ~~\n ~~~~\n"

theorem scan_markdown_eq_scan_mdx_shallowPage :
    (∀ line ∈ Text.lines shallowPage, IsShallow line) ∧
      scan .mdx shallowPage = [⟨"x", "scaf", none, 1⟩, ⟨"    ~~", "go", none, 5⟩] := by
  have hshallow : ∀ line ∈ Text.lines shallowPage, IsShallow line := by decide
  refine ⟨hshallow, ?_⟩
  rw [← scan_markdown_eq_scan_mdx hshallow]
  decide +kernel

end Fence

namespace Text

/-- A text with `w` in front of each line that starts in it. -/
def indentFrom (w : Text) : (starts : Bool) → Text → Text
  | _, [] => []
  | s, '\r' :: '\n' :: t => (if s then w else []) ++ '\r' :: '\n' :: indentFrom w true t
  | s, c :: t => (if s then w else []) ++ c :: indentFrom w (c == '\r' || c == '\n') t

/-- A text with `w` in front of each of its lines. -/
def indentLines (w t : Text) : Text := indentFrom w true t

theorem indentFrom_cons {c : Char} {s : Bool} (h : c = '\r' → t.head? ≠ some '\n') :
    indentFrom w s (c :: t) =
      (if s then w else []) ++ c :: indentFrom w (c == '\r' || c == '\n') t := by
  rw [indentFrom.eq_def]
  split
  · contradiction
  · rename_i heq
    cases heq
    exact absurd rfl (h rfl)
  · rename_i heq
    cases heq
    rfl

theorem indentFrom_cons_of_ne {c : Char} {s : Bool} (hn : c ≠ '\n') (hr : c ≠ '\r') (t : Text) :
    indentFrom w s (c :: t) = (if s then w else []) ++ c :: indentFrom w false t := by
  have hbreak : (c == '\r' || c == '\n') = false := by simp [hn, hr]
  rw [indentFrom_cons (fun h => absurd h hr), hbreak]

theorem indentFrom_false_append {l : Text} (hn : '\n' ∉ l) (hr : '\r' ∉ l) (t : Text) :
    indentFrom w false (l ++ t) = l ++ indentFrom w false t := by
  induction l with
  | nil => rfl
  | cons c l ih =>
    rw [List.mem_cons, not_or] at hn hr
    rw [List.cons_append, indentFrom_cons_of_ne (Ne.symm hn.1) (Ne.symm hr.1), ih hn.2 hr.2]
    rfl

theorem indentFrom_break {b : Text} {s : Bool} (hb : b ∈ breaks)
    (hcr : b = ['\r'] → t.head? ≠ some '\n') :
    indentFrom w s (b ++ t) = (if s then w else []) ++ (b ++ indentLines w t) := by
  simp only [breaks, List.mem_cons, List.not_mem_nil, or_false] at hb
  rcases hb with rfl | rfl | rfl
  · rfl
  · exact indentFrom_cons fun _ => hcr rfl
  · rfl

theorem indentLines_append {l : Text} (hl : l ≠ []) (hn : '\n' ∉ l) (hr : '\r' ∉ l) (t : Text) :
    indentLines w (l ++ t) = w ++ (l ++ indentFrom w false t) := by
  obtain ⟨c, l, rfl⟩ := List.exists_cons_of_ne_nil hl
  rw [List.mem_cons, not_or] at hn hr
  rw [indentLines, List.cons_append, indentFrom_cons_of_ne (Ne.symm hn.1) (Ne.symm hr.1),
    indentFrom_false_append hn.2 hr.2, if_pos rfl]
  rfl

theorem indentLines_line {l b : Text} (hn : '\n' ∉ l) (hr : '\r' ∉ l) (hb : b ∈ breaks)
    (hcr : b = ['\r'] → t.head? ≠ some '\n') :
    indentLines w (l ++ b ++ t) = (w ++ l) ++ b ++ indentLines w t := by
  simp only [List.append_assoc]
  by_cases hl : l = []
  · subst hl
    exact indentFrom_break hb hcr
  · rw [indentLines_append hl hn hr, indentFrom_break hb hcr]
    rfl

theorem head?_indentLines (hn : '\n' ∉ w) (ht : t.head? ≠ some '\n') :
    (indentLines w t).head? ≠ some '\n' := by
  have hhead : ∀ c r, c ≠ '\n' → (w ++ c :: r).head? ≠ some '\n' := by
    intro c r hc h
    cases w with
    | nil => exact hc (Option.some.inj h)
    | cons d w => exact hn (List.mem_of_mem_head? h)
  rw [indentLines, indentFrom.eq_def]
  split
  · simp
  · exact hhead _ _ (by decide)
  · exact hhead _ _ fun h => ht (congrArg some h)

theorem Broken.indentLines (h : Broken t ls) (hn : '\n' ∉ w) (hr : '\r' ∉ w) :
    Broken (indentLines w t) (ls.map (w ++ ·)) := by
  induction h with
  | empty => exact .empty
  | @last l hl hn' hr' =>
    have hlast := indentLines_append (w := w) hl hn' hr' []
    rw [indentFrom, List.append_nil] at hlast
    rw [hlast]
    exact .last (List.append_ne_nil_of_right_ne_nil w hl) (List.not_mem_append hn hn')
      (List.not_mem_append hr hr')
  | @line l b t ls hn' hr' hb hcr ht ih =>
    rw [indentLines_line hn' hr' hb hcr]
    exact .line (List.not_mem_append hn hn') (List.not_mem_append hr hr') hb
      (fun h => head?_indentLines hn (hcr h)) ih

theorem lines_indentLines (hn : '\n' ∉ w) (hr : '\r' ∉ w) (t : Text) :
    lines (indentLines w t) = (lines t).map (w ++ ·) :=
  ((broken_iff.2 rfl).indentLines hn hr).lines_eq

end Text

/-- What opens a fence that stands further inside. -/
def Opening.nest (k : Nat) (o : Opening) : Opening := { o with indent := k + o.indent }

namespace Fence

theorem opening?_append (hw : ∀ c ∈ w, isIndent c = true) (line : Text) :
    opening? .mdx (w ++ line) = (opening? .mdx line).map (Opening.nest w.length) := by
  have hindents : ∀ c ∈ w, indents .mdx c = true := hw
  simp only [opening?, List.takeWhile_append_of_pos hindents,
    List.dropWhile_append_of_pos hindents, List.length_append]
  cases line.dropWhile (indents .mdx) with
  | nil => rfl
  | cons mark r =>
    simp only [admits, Bool.true_and]
    split
    · rfl
    · rfl

theorem closes_append (hw : ∀ c ∈ w, isIndent c = true) (o : Opening) (line : Text) :
    closes .mdx (o.nest k) (w ++ line) = closes .mdx o line := by
  simp only [closes, List.dropWhile_append_of_pos hw]
  rfl

theorem dropIndent_append (hw : ∀ c ∈ w, isIndent c = true) (n : Nat) (line : Text) :
    dropIndent (w.length + n) (w ++ line) = dropIndent n line := by
  induction w with
  | nil => rw [List.length_nil, Nat.zero_add, List.nil_append]
  | cons c w ih =>
    rw [List.forall_mem_cons] at hw
    rw [List.length_cons, Nat.add_right_comm, List.cons_append, dropIndent, if_pos hw.1, ih hw.2]

theorem ofBody_nest (hw : ∀ c ∈ w, isIndent c = true) (o : Opening) (n : Nat) (body : List Text) :
    ofBody (o.nest w.length) n (body.map (w ++ ·)) = ofBody o n body := by
  have hsample : (body.map (w ++ ·)).map (dropIndent (w.length + o.indent)) =
      body.map (dropIndent o.indent) := by
    rw [List.map_map]
    apply List.map_congr_left
    intro line _
    exact dropIndent_append hw o.indent line
  rw [ofBody, ofBody, Opening.nest, hsample]

/-- In MDX a document has the same fences however far it is indented as a whole. -/
theorem scan_indentLines (hw : ∀ c ∈ w, c = ' ' ∨ c = '\t') (document : Text) :
    scan .mdx (Text.indentLines w document) = scan .mdx document := by
  have hindent : ∀ c ∈ w, isIndent c = true := by
    intro c hc
    rcases hw c hc with rfl | rfl
    · rfl
    · rfl
  have hn : '\n' ∉ w := fun h => absurd (hindent _ h) (by decide)
  have hr : '\r' ∉ w := fun h => absurd (hindent _ h) (by decide)
  rw [scan, Text.lines_indentLines hn hr]
  apply scanFrom_map (g := Opening.nest w.length)
  · intro line _
    exact opening?_append hindent line
  · intro _ _ line _ o _
    exact closes_append hindent o line
  · exact ofBody_nest hindent

/-- A fence with an empty line, an indented one, and one that is not indented as far as the
fence. -/
def indentedPage : Text := "  ~~~scaf a\r\n\r\n   x\n y\r  ~~~"

theorem scan_indentLines_indentedPage :
    Text.indentLines " \t" indentedPage =
        " \t  ~~~scaf a\r\n \t\r\n \t   x\n \t y\r \t  ~~~".toList ∧
      scan .mdx (Text.indentLines " \t" indentedPage) = [⟨"\n x\ny", "scaf", some "a", 1⟩] := by
  have hw : ∀ c ∈ " \t".toList, c = ' ' ∨ c = '\t' := by simp
  refine ⟨by decide, ?_⟩
  rw [scan_indentLines hw]
  decide +kernel

end Fence

end DocSamples
