import DocSamples.Proofs.Segmentation

namespace DocSamples

variable {flavor : Flavor}

/-- A fence as it is written: what it holds, how it is indented and marked, and its last line. -/
structure WrittenFence where
  text : Text
  language : Text
  metadata : Option Text
  indent : Nat
  mark : Char
  size : Nat
  close : Text
  deriving DecidableEq, Repr

namespace WrittenFence

variable {w : WrittenFence}

def margin (w : WrittenFence) : Text := List.replicate w.indent ' '

def info (w : WrittenFence) : Text := w.language ++ w.metadata.elim [] (' ' :: ·)

def opening (w : WrittenFence) : Opening := ⟨w.indent, w.mark, w.size, w.info⟩

def openingLine (w : WrittenFence) : Text := w.margin ++ List.replicate w.size w.mark ++ w.info

def body (w : WrittenFence) : List Text := (Text.pieces w.text).map (w.margin ++ ·)

def lines (w : WrittenFence) : List Text := w.openingLine :: w.body ++ [w.close]

def fence (w : WrittenFence) (n : Nat) : Fence := ⟨w.text, w.language, w.metadata, n⟩

/-- The written fence can be read back: its info has a language and no metadata but trimmed ones, a
tilde or a backtick does not run on from the marker, and no line of its text would close it. -/
structure Fits (flavor : Flavor) (w : WrittenFence) : Prop where
  text : '\r' ∉ w.text
  language_ne_nil : w.language ≠ []
  language : ∀ c ∈ w.language, isBlank c = false
  metadata : ∀ t, w.metadata = some t → t ≠ [] ∧ t.trim = t ∧ '\n' ∉ t ∧ '\r' ∉ t
  indent : Fence.admits flavor w.indent = true
  mark : w.mark = '\x60' ∨ w.mark = '~'
  size : 3 ≤ w.size
  backtick : w.mark = '\x60' → '\x60' ∉ w.info
  tilde : w.mark = '~' → w.language.head? ≠ some '~'
  inside : ∀ l ∈ Text.pieces w.text, ¬ Closes .mdx w.opening l
  close : Closes flavor w.opening w.close ∧ '\n' ∉ w.close ∧ '\r' ∉ w.close

theorem Fits.opens (h : w.Fits flavor) : Opens flavor w.openingLine w.opening where
  parts := by
    refine ⟨w.margin, List.length_replicate, ?_, rfl⟩
    exact fun _ hc => Fence.indents_of_mem_spaces flavor hc
  indent := h.indent
  mark := h.mark
  size := h.size
  longest := by
    obtain ⟨c, l, hl⟩ := List.exists_cons_of_ne_nil h.language_ne_nil
    have hhead : w.info.head? = w.language.head? := by rw [info, hl]; rfl
    change w.info.head? ≠ some w.mark
    intro he
    rcases h.mark with hm | hm
    · rw [hm] at he
      exact h.backtick hm (List.mem_of_mem_head? he)
    · rw [hhead, hm] at he
      exact h.tilde hm he
  info := h.backtick

theorem Fits.informs (h : w.Fits flavor) : Informs w.info w.language w.metadata := by
  apply Fence.informs_words .nil h.language_ne_nil h.language
  intro t ht
  obtain ⟨hne, htrim, -⟩ := h.metadata t ht
  exact ⟨hne, htrim⟩

theorem dropIndent_margin (n : Nat) (l : Text) :
    Fence.dropIndent n (List.replicate n ' ' ++ l) = l := by
  induction n with
  | zero => cases l <;> rfl
  | succ n ih =>
    rw [List.replicate_succ, List.cons_append, Fence.dropIndent]
    exact ih

/-- An indentation may keep a line from closing a fence, but never makes it close one. -/
theorem closes_of_closes_margin {o : Opening} {n : Nat} {l : Text}
    (h : Fence.closes flavor o (List.replicate n ' ' ++ l) = true) :
    Fence.closes .mdx o l = true := by
  have hspaces : ∀ c ∈ List.replicate n ' ', Fence.isIndent c = true :=
    fun _ hc => Fence.indents_of_mem_spaces .mdx hc
  simp only [Fence.closes, List.dropWhile_append_of_pos hspaces, Bool.and_eq_true] at h ⊢
  exact ⟨⟨rfl, h.1.2⟩, h.2⟩

theorem Fits.inside_body (h : w.Fits flavor) : ∀ l ∈ w.body, ¬ Closes flavor w.opening l := by
  intro line hline hc
  obtain ⟨l, hl, rfl⟩ := List.mem_map.1 hline
  have hsize : 0 < w.opening.size := by
    have := h.size
    change 0 < w.size
    omega
  have hcl := closes_of_closes_margin (Fence.closes_complete h.mark hsize hc)
  exact h.inside l hl (Fence.closes_sound hcl)

def block (w : WrittenFence) (n : Nat) : Block := ⟨n, w.opening, w.body, true⟩

theorem Fits.block_fence (h : w.Fits flavor) (n : Nat) : (w.block n).fence = w.fence n := by
  obtain ⟨hl, hm⟩ := Fence.informs_iff.1 h.informs
  have hbody : (w.block n).sample = Text.pieces w.text := by
    change (List.map _ _).map _ = _
    rw [List.map_map]
    exact List.map_id'' (fun l => dropIndent_margin w.indent l) _
  change Fence.mk (Text.joinLines (w.block n).sample) w.info.firstWord
    ((some w.info.afterFirstWord).filter (!·.isEmpty)) n = w.fence n
  rw [hbody, Text.joinLines_pieces, ← hl, ← hm]
  rfl

theorem Fits.segmented (h : w.Fits flavor) (n : Nat) :
    Segmented flavor n w.lines [w.block n] :=
  .closedBlock n h.opens h.inside_body h.close.1

theorem not_mem_margin_append {c : Char} {l : Text} (hc : c ≠ ' ') (hl : c ∉ l) :
    c ∉ w.margin ++ l := by
  rw [List.mem_append, not_or]
  exact ⟨fun h => hc (List.eq_of_mem_replicate h), hl⟩

theorem Fits.not_mem_openingLine (h : w.Fits flavor) {c : Char} (hc : isBlank c = true)
    (hspace : c ≠ ' ') (hmeta : ∀ t, w.metadata = some t → c ∉ t) : c ∉ w.openingLine := by
  have hmarks : c ∉ List.replicate w.size w.mark := by
    intro hm
    rw [List.eq_of_mem_replicate hm, Fence.isBlank_mark h.mark] at hc
    contradiction
  have hlanguage : c ∉ w.language := by
    intro hm
    rw [h.language c hm] at hc
    contradiction
  have hrest : c ∉ w.metadata.elim [] (' ' :: ·) := by
    cases ht : w.metadata with
    | none => exact List.not_mem_nil
    | some t =>
      intro hm
      rcases List.mem_cons.1 hm with hm | hm
      · exact hspace hm
      · exact hmeta t ht hm
  rw [openingLine, List.append_assoc]
  apply not_mem_margin_append hspace
  rw [info, List.mem_append, List.mem_append, not_or, not_or]
  exact ⟨hmarks, hlanguage, hrest⟩

theorem Fits.unbroken (h : w.Fits flavor) : ∀ l ∈ w.lines, '\n' ∉ l ∧ '\r' ∉ l := by
  intro l hl
  rcases List.mem_append.1 hl with hl | hl
  · rcases List.mem_cons.1 hl with rfl | hl
    · constructor
      · exact h.not_mem_openingLine (by decide) (by decide) fun t ht => (h.metadata t ht).2.2.1
      · exact h.not_mem_openingLine (by decide) (by decide) fun t ht => (h.metadata t ht).2.2.2
    · obtain ⟨piece, hpiece, rfl⟩ := List.mem_map.1 hl
      constructor
      · exact not_mem_margin_append (by decide) (Text.not_mem_of_mem_pieces hpiece)
      · exact not_mem_margin_append (by decide) fun hr => h.text (Text.mem_of_mem_pieces hpiece hr)
  · cases List.mem_singleton.1 hl
    exact h.close.2

theorem Fits.close_ne_nil (h : w.Fits flavor) : w.close ≠ [] := by
  obtain ⟨m, n, r, hclose, -, -, hn, -⟩ := h.close.1
  have hsize : 3 ≤ n := Nat.le_trans h.size hn
  obtain ⟨k, rfl⟩ : ∃ k, n = k + 1 := ⟨n - 1, by omega⟩
  rw [hclose, List.replicate_succ]
  simp

end WrittenFence

/-- A part of a page: a line of prose or a fence. -/
inductive PagePart
  | prose (line : Text)
  | fence (w : WrittenFence)

namespace PagePart

def lines : PagePart → List Text
  | prose line => [line]
  | fence w => w.lines

/-- A line of prose that opens no fence, or a fence that can be read back. -/
def Fits (flavor : Flavor) : PagePart → Prop
  | prose line => ('\n' ∉ line ∧ '\r' ∉ line) ∧ ∀ o, ¬ Opens flavor line o
  | fence w => w.Fits flavor

/-- The blocks of a page of which the first line has the number `n`. -/
def blocks (n : Nat) : List PagePart → List Block
  | [] => []
  | prose _ :: page => blocks (n + 1) page
  | fence w :: page => w.block n :: blocks (n + w.lines.length) page

/-- The fences of a page of which the first line has the number `n`. -/
def fences (n : Nat) : List PagePart → List Fence
  | [] => []
  | prose _ :: page => fences (n + 1) page
  | fence w :: page => w.fence n :: fences (n + w.lines.length) page

variable {page : List PagePart}

theorem segmented (h : ∀ p ∈ page, p.Fits flavor) (n : Nat) :
    Segmented flavor n (page.flatMap lines) (blocks n page) := by
  induction page generalizing n with
  | nil => exact .nil flavor n
  | cons p page ih =>
    have hp := h p List.mem_cons_self
    have hpage := ih fun q hq => h q (List.mem_cons_of_mem p hq)
    rw [List.flatMap_cons]
    cases p with
    | prose line =>
      exact (Segmented.of_not_opens n hp.2).append (by simp) (hpage _)
    | fence w =>
      exact (WrittenFence.Fits.segmented hp n).append (by simp [WrittenFence.block]) (hpage _)

theorem map_fence_blocks (h : ∀ p ∈ page, p.Fits flavor) (n : Nat) :
    (blocks n page).map Block.fence = fences n page := by
  induction page generalizing n with
  | nil => rfl
  | cons p page ih =>
    have hp := h p List.mem_cons_self
    have hpage := ih fun q hq => h q (List.mem_cons_of_mem p hq)
    cases p with
    | prose line => exact hpage _
    | fence w =>
      rw [blocks, fences, List.map_cons, WrittenFence.Fits.block_fence hp, hpage]

theorem fences_append_prose (line : Text) (n : Nat) :
    fences n (page ++ [prose line]) = fences n page := by
  induction page generalizing n with
  | nil => rfl
  | cons p page ih =>
    cases p with
    | prose _ => exact ih _
    | fence w => rw [List.cons_append, fences, fences, ih]

theorem unbroken (h : ∀ p ∈ page, p.Fits flavor) :
    ∀ l ∈ page.flatMap lines, '\n' ∉ l ∧ '\r' ∉ l := by
  intro l hl
  obtain ⟨p, hp, hl⟩ := List.mem_flatMap.1 hl
  have hfits := h p hp
  cases p with
  | prose line =>
    cases List.mem_singleton.1 hl
    exact hfits.1
  | fence w => exact WrittenFence.Fits.unbroken hfits l hl

/-- If the last line of a page is empty, it is prose, since no fence ends with an empty line. -/
theorem exists_prose_of_lines {ls : List Text} (h : ∀ p ∈ page, p.Fits flavor)
    (hls : page.flatMap lines = ls ++ [[]]) :
    ∃ page', page = page' ++ [prose []] ∧ page'.flatMap lines = ls := by
  rcases List.eq_nil_or_concat' page with rfl | ⟨page', p, rfl⟩
  · simp at hls
  · rw [List.flatMap_append, List.flatMap_singleton] at hls
    have hfits := h p (by simp)
    cases p with
    | prose line =>
      obtain ⟨hpage, hline⟩ := List.append_inj' hls rfl
      cases hline
      exact ⟨page', rfl, hpage⟩
    | fence w =>
      have hclose := congrArg List.getLast? hls
      simp only [lines, WrittenFence.lines, ← List.append_assoc, List.getLast?_concat,
        Option.some.injEq] at hclose
      exact absurd hclose (WrittenFence.Fits.close_ne_nil hfits)

theorem scan_eq_fences {document : Text} (h : ∀ p ∈ page, p.Fits flavor)
    (hlines : Text.lines document = page.flatMap lines) :
    Fence.scan flavor document = fences 1 page := by
  have hseg := segmented h 1
  rw [← hlines] at hseg
  rw [Fence.scan_eq_of_segmented hseg, map_fence_blocks h]

end PagePart

/-- A page with fences among its prose is read back as these fences, whichever breaks end its
lines. -/
theorem Fence.scan_written {page : List PagePart} {document : Text}
    (h : ∀ p ∈ page, p.Fits flavor) (hd : Text.Written (page.flatMap PagePart.lines) document) :
    Fence.scan flavor document = PagePart.fences 1 page := by
  rcases hd.broken (PagePart.unbroken h) with hbroken | ⟨ls, hls, hbroken⟩
  · exact PagePart.scan_eq_fences h hbroken.lines_eq
  · -- An empty last line without a break is no line of the document, and holds no fence.
    obtain ⟨page', rfl, hlines⟩ := PagePart.exists_prose_of_lines h hls
    have h' : ∀ p ∈ page', p.Fits flavor := fun p hp => h p (List.mem_append_left _ hp)
    rw [PagePart.fences_append_prose]
    exact PagePart.scan_eq_fences h' (by rw [hbroken.lines_eq, hlines])

namespace WrittenFence

/-- A fence of four backticks with a fence of three and an empty last line in its text. -/
def nested : WrittenFence where
  text := "```\nassert\n```\n"
  language := "scaf"
  metadata := some "a  b\tskip"
  indent := 2
  mark := '\x60'
  size := 4
  close := " ````` \t"

theorem fits_nested : nested.Fits .markdown where
  text := by decide
  language_ne_nil := by decide
  language := by
    have h : (nested.language.all (!isBlank ·)) = true := rfl
    simpa using h
  metadata := by
    intro t ht
    cases ht
    decide
  indent := rfl
  mark := .inl rfl
  size := by decide
  backtick := by decide
  tilde := by decide
  inside := by
    have hfalse : ∀ l ∈ Text.pieces nested.text, Fence.closes .mdx nested.opening l = false := by
      decide
    exact fun l hl => Fence.not_closes (.inl rfl) (by decide) (hfalse l hl)
  close := ⟨Fence.closes_sound (by decide), by decide, by decide⟩

def emptyTildes : WrittenFence where
  text := []
  language := "sh"
  metadata := none
  indent := 0
  mark := '~'
  size := 3
  close := "~~~"

theorem fits_emptyTildes : emptyTildes.Fits .markdown where
  text := by decide
  language_ne_nil := by decide
  language := by
    have h : (emptyTildes.language.all (!isBlank ·)) = true := rfl
    simpa using h
  metadata := by
    intro t ht
    contradiction
  indent := rfl
  mark := .inr rfl
  size := by decide
  backtick := by decide
  tilde := by decide
  inside := by
    intro l hl
    cases List.mem_singleton.1 hl
    exact Fence.not_closes (.inr rfl) (by decide) rfl
  close := ⟨Fence.closes_sound (by decide), by decide, by decide⟩

end WrittenFence

def nestedPage : List PagePart :=
  [.prose "Notes", .prose "```a`", .fence .nested, .fence .emptyTildes, .prose []]

def nestedDocument : Text :=
  "Notes\r\n```a`\r  ````scaf a  b\tskip\n  ```\r\n  assert\r  ```\n  \n ````` \t\r\n~~~sh\n\n~~~\n"

theorem Fence.scan_written_nested :
    (∀ p ∈ nestedPage, p.Fits .markdown) ∧
      Text.Written (nestedPage.flatMap PagePart.lines) nestedDocument ∧
      Fence.scan .markdown nestedDocument =
        [⟨"```\nassert\n```\n", "scaf", some "a  b\tskip", 3⟩, ⟨[], "sh", none, 9⟩] := by
  have hprose : ∀ line, ('\n' ∉ line ∧ '\r' ∉ line) → Fence.opening? .markdown line = none →
      (PagePart.prose line).Fits .markdown := by
    intro line hline hnone
    exact ⟨hline, Fence.not_opens hnone⟩
  have hfits : ∀ p ∈ nestedPage, p.Fits .markdown := by
    simp only [nestedPage, List.forall_mem_cons, List.not_mem_nil, false_implies, implies_true,
      and_true]
    exact ⟨hprose _ (by decide) rfl, hprose _ (by decide) rfl, WrittenFence.fits_nested,
      WrittenFence.fits_emptyTildes, hprose _ (by decide) rfl⟩
  have hwritten : Text.Written (nestedPage.flatMap PagePart.lines) nestedDocument :=
    .line (b := ['\r', '\n']) (by decide) (by decide) <|
    .line (b := ['\r']) (by decide) (by decide) <|
    .line (b := ['\n']) (by decide) (by decide) <|
    .line (b := ['\r', '\n']) (by decide) (by decide) <|
    .line (b := ['\r']) (by decide) (by decide) <|
    .line (b := ['\n']) (by decide) (by decide) <|
    .line (b := ['\n']) (by decide) (by decide) <|
    .line (b := ['\r', '\n']) (by decide) (by decide) <|
    .line (b := ['\n']) (by decide) (by decide) <|
    .line (b := ['\n']) (by decide) (by decide) <|
    .line (b := ['\n']) (by decide) (by decide) <|
    .last []
  exact ⟨hfits, hwritten, Fence.scan_written hfits hwritten⟩

end DocSamples
