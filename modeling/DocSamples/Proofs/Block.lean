import DocSamples.Proofs.FenceLine
import Mathlib.Data.List.Forall2

namespace DocSamples

variable {flavor : Flavor} {first n : Nat} {ls ls' : List Text} {line : Text} {o : Opening}

/-- The line with the number `n`, where the first line has the number `first`. -/
def lineFrom? (first : Nat) (ls : List Text) (n : Nat) : Option Text :=
  if first ≤ n then ls[n - first]? else none

theorem lineFrom?_add (first : Nat) (ls : List Text) (i : Nat) :
    lineFrom? first ls (first + i) = ls[i]? := by
  rw [lineFrom?, if_pos (by omega)]
  congr 1
  omega

theorem lineFrom?_bounds (h : lineFrom? first ls n = some line) :
    first ≤ n ∧ n < first + ls.length := by
  unfold lineFrom? at h
  split at h
  · have := (List.getElem?_eq_some_iff.1 h).1
    omega
  · contradiction

theorem exists_lineFrom? (h : first ≤ n ∧ n < first + ls.length) :
    ∃ line, lineFrom? first ls n = some line := by
  obtain ⟨i, rfl⟩ := Nat.exists_eq_add_of_le h.1
  rw [lineFrom?_add]
  exact ⟨_, List.getElem?_eq_getElem (by omega)⟩

theorem lineFrom?_append_left (h : lineFrom? first ls n = some line) :
    lineFrom? first (ls ++ ls') n = some line := by
  have hn := lineFrom?_bounds h
  obtain ⟨i, rfl⟩ := Nat.exists_eq_add_of_le hn.1
  rw [lineFrom?_add] at h ⊢
  rw [List.getElem?_append_left (by omega), h]

theorem lineFrom?_append_right (h : first + ls.length ≤ n) :
    lineFrom? first (ls ++ ls') n = lineFrom? (first + ls.length) ls' n := by
  obtain ⟨i, rfl⟩ := Nat.exists_eq_add_of_le h
  rw [lineFrom?_add, Nat.add_assoc, lineFrom?_add, List.getElem?_append_right (by omega)]
  congr 1
  omega

/-- A fence among lines: the number of its first line, what opens it, the lines of its body, and
whether a line closes it. -/
structure Block where
  startLine : Nat
  opening : Opening
  body : List Text
  isClosed : Bool
  deriving DecidableEq, Repr

namespace Block

/-- The last line of a block: the one that closes it, or else the last of its body. -/
def endLine (b : Block) : Nat := b.startLine + b.body.length + b.isClosed.toNat

def Holds (b : Block) (n : Nat) : Prop := b.startLine < n ∧ n ≤ b.startLine + b.body.length

/-- The lines of the body without the indentation of the block. -/
def sample (b : Block) : List Text := b.body.map (Fence.dropIndent b.opening.indent)

def fence (b : Block) : Fence := .ofBody b.opening b.startLine b.body

/-- What a fence keeps of a block: the number of its first line, the words of its info, and its
body, each line without the longest indentation that is no longer than that of the block. -/
structure Yields (b : Block) (f : Fence) : Prop where
  startLine : f.startLine = b.startLine
  info : Informs b.opening.info f.language f.metadata
  text : ∃ sample, List.Forall₂ (Stripped b.opening.indent) b.body sample ∧
    f.text = Text.joinLines sample

/-- A block stands among lines: its first line opens it, no line of its body closes it, and its last
line does, unless it is open up to the end of the lines. -/
structure Stands (flavor : Flavor) (first : Nat) (ls : List Text) (b : Block) : Prop where
  opened : ∃ line, lineFrom? first ls b.startLine = some line ∧ Opens flavor line b.opening
  body : ∀ i line, b.body[i]? = some line → lineFrom? first ls (b.startLine + 1 + i) = some line
  inside : ∀ line ∈ b.body, ¬ Closes flavor b.opening line
  closed : b.isClosed = true →
    ∃ line, lineFrom? first ls b.endLine = some line ∧ Closes flavor b.opening line
  unclosed : b.isClosed = false → b.endLine + 1 = first + ls.length

end Block

theorem Opens.unique {o' : Opening} (h : Opens flavor line o) (h' : Opens flavor line o') :
    o = o' :=
  Option.some.inj ((Fence.opening?_complete h).symm.trans (Fence.opening?_complete h'))

theorem Opens.closes_iff {flavor' : Flavor} {line' : Text} (h : Opens flavor line o) :
    Fence.closes flavor' o line' = true ↔ Closes flavor' o line' :=
  ⟨Fence.closes_sound, Fence.closes_complete h.mark (Nat.zero_lt_of_lt h.size)⟩

theorem Opens.not_closes {flavor' : Flavor} {line' : Text} (h : Opens flavor line o)
    (hc : Fence.closes flavor' o line' = false) : ¬ Closes flavor' o line' :=
  Fence.not_closes h.mark (Nat.zero_lt_of_lt h.size) hc

namespace Block

variable {b b' : Block}

theorem startLine_le_endLine (b : Block) : b.startLine ≤ b.endLine := by
  unfold endLine
  omega

theorem Holds.le_endLine (h : b.Holds n) : n ≤ b.endLine := by
  have hn := h.2
  unfold endLine
  omega

theorem not_holds_startLine (b : Block) : ¬ b.Holds b.startLine := by
  intro h
  exact Nat.lt_irrefl _ h.1

theorem not_holds_endLine (hc : b.isClosed = true) : ¬ b.Holds b.endLine := by
  intro h
  have hn := h.2
  simp only [endLine, hc, Bool.toNat_true] at hn
  omega

theorem Stands.mem_body (h : b.Stands flavor first ls) (hn : b.Holds n)
    (hline : lineFrom? first ls n = some line) : line ∈ b.body := by
  obtain ⟨hstart, hend⟩ := hn
  obtain ⟨i, rfl⟩ : ∃ i, n = b.startLine + 1 + i := ⟨n - (b.startLine + 1), by omega⟩
  have hi : i < b.body.length := by omega
  have hbody := h.body i _ (List.getElem?_eq_getElem hi)
  rw [hline, Option.some.injEq] at hbody
  rw [hbody]
  exact List.getElem_mem hi

theorem forall₂_stripped_iff {k : Nat} {body sample : List Text} :
    List.Forall₂ (Stripped k) body sample ↔ body.map (Fence.dropIndent k) = sample := by
  have h : Stripped k = fun line rest => Fence.dropIndent k line = rest := by
    funext line rest
    exact propext Fence.stripped_iff
  rw [h, ← List.forall₂_map_left_iff (R := Eq), List.forall₂_eq_eq_eq]

theorem yields_iff {f : Fence} : b.Yields f ↔ b.fence = f := by
  constructor
  · rintro ⟨hstart, hinfo, sample, hsample, htext⟩
    obtain ⟨hl, hm⟩ := Fence.informs_iff.1 hinfo
    cases f
    simp only at hstart hl hm htext
    subst hstart hl hm htext
    rw [← forall₂_stripped_iff.1 hsample]
    rfl
  · rintro rfl
    exact ⟨rfl, Fence.informs_iff.2 ⟨rfl, rfl⟩, b.sample, forall₂_stripped_iff.2 rfl, rfl⟩

theorem forall₂_yields_iff {blocks : List Block} {fences : List Fence} :
    List.Forall₂ Yields blocks fences ↔ blocks.map fence = fences := by
  have h : Yields = fun b f => b.fence = f := by
    funext b f
    exact propext yields_iff
  rw [h, ← List.forall₂_map_left_iff (R := Eq), List.forall₂_eq_eq_eq]

theorem Stands.first_le (h : b.Stands flavor first ls) : first ≤ b.startLine := by
  obtain ⟨line, hline, _⟩ := h.opened
  exact (lineFrom?_bounds hline).1

theorem Stands.endLine_lt (h : b.Stands flavor first ls) : b.endLine < first + ls.length := by
  cases hc : b.isClosed with
  | true =>
    obtain ⟨line, hline, _⟩ := h.closed hc
    exact (lineFrom?_bounds hline).2
  | false =>
    have := h.unclosed hc
    omega

theorem Stands.append_left (h : b.Stands flavor first ls) (hc : b.isClosed = true) :
    b.Stands flavor first (ls ++ ls') where
  opened := by
    obtain ⟨line, hline, ho⟩ := h.opened
    exact ⟨line, lineFrom?_append_left hline, ho⟩
  body i line hi := lineFrom?_append_left (h.body i line hi)
  inside := h.inside
  closed _ := by
    obtain ⟨line, hline, hclose⟩ := h.closed hc
    exact ⟨line, lineFrom?_append_left hline, hclose⟩
  unclosed hu := by
    rw [hc] at hu
    contradiction

theorem Stands.append_right (h : b.Stands flavor (first + ls.length) ls') :
    b.Stands flavor first (ls ++ ls') := by
  have hmove {n : Nat} {line : Text} (hn : lineFrom? (first + ls.length) ls' n = some line) :
      lineFrom? first (ls ++ ls') n = some line := by
    rw [lineFrom?_append_right (lineFrom?_bounds hn).1, hn]
  refine ⟨?_, fun i line hi => hmove (h.body i line hi), h.inside, ?_, ?_⟩
  · obtain ⟨line, hline, ho⟩ := h.opened
    exact ⟨line, hmove hline, ho⟩
  · intro hc
    obtain ⟨line, hline, hclose⟩ := h.closed hc
    exact ⟨line, hmove hline, hclose⟩
  · intro hu
    rw [h.unclosed hu, List.length_append]
    omega

theorem Stands.opening_eq (h : b.Stands flavor first ls) (h' : b'.Stands flavor first ls)
    (hstart : b.startLine = b'.startLine) : b.opening = b'.opening := by
  obtain ⟨line, hline, ho⟩ := h.opened
  obtain ⟨line', hline', ho'⟩ := h'.opened
  rw [hstart, hline'] at hline
  cases hline
  exact ho.unique ho'

theorem Stands.length_body_le (h : b.Stands flavor first ls) (h' : b'.Stands flavor first ls)
    (hstart : b.startLine = b'.startLine) : b'.body.length ≤ b.body.length := by
  by_contra hlt
  obtain ⟨line, hi⟩ : ∃ line, b'.body[b.body.length]? = some line :=
    ⟨_, List.getElem?_eq_getElem (by omega)⟩
  have hline := h'.body _ _ hi
  cases hc : b.isClosed with
  | true =>
    -- The line that closes the shorter block would lie in the body of the longer one.
    obtain ⟨line', hline', hclose⟩ := h.closed hc
    have hend : b.endLine = b'.startLine + 1 + b.body.length := by
      simp only [endLine, hc, Bool.toNat_true]
      omega
    rw [hend, hline] at hline'
    cases hline'
    rw [h.opening_eq h' hstart] at hclose
    exact h'.inside line (List.mem_of_getElem? hi) hclose
  | false =>
    have hend := h.unclosed hc
    have hbound := (lineFrom?_bounds hline).2
    simp only [endLine, hc, Bool.toNat_false] at hend
    omega

theorem Stands.isClosed_iff (h : b.Stands flavor first ls) :
    b.isClosed = true ↔ b.startLine + b.body.length + 1 < first + ls.length := by
  have hlt := h.endLine_lt
  have hu := h.unclosed
  unfold endLine at hlt hu
  cases hc : b.isClosed with
  | true =>
    rw [hc, Bool.toNat_true] at hlt
    exact ⟨fun _ => hlt, fun _ => rfl⟩
  | false =>
    have hend := hu hc
    rw [hc, Bool.toNat_false] at hend
    refine ⟨fun hf => absurd hf Bool.false_ne_true, fun hend' => ?_⟩
    omega

/-- A block that starts where another one does is the same: both end at the first line that closes
them. -/
theorem Stands.unique (h : b.Stands flavor first ls) (h' : b'.Stands flavor first ls)
    (hstart : b.startLine = b'.startLine) : b = b' := by
  have hlen := Nat.le_antisymm (h'.length_body_le h hstart.symm) (h.length_body_le h' hstart)
  have hbody : b.body = b'.body := by
    apply List.ext_getElem hlen
    intro i hi hi'
    have hl := h.body i _ (List.getElem?_eq_getElem hi)
    rw [hstart, h'.body i _ (List.getElem?_eq_getElem hi')] at hl
    exact (Option.some.inj hl).symm
  have hclosed : b.isClosed = b'.isClosed := by
    rw [Bool.eq_iff_iff, h.isClosed_iff, h'.isClosed_iff, hstart, hlen]
  have hopening := h.opening_eq h' hstart
  cases b
  cases b'
  simp_all

/-- A line that opens a fence and the lines after it that do not close it are a block, up to a line
that does or up to the end. -/
theorem stands_cons {body : List Text} (first : Nat) (close : Option Text)
    (ho : Opens flavor line o) (hin : ∀ l ∈ body, ¬ Closes flavor o l)
    (hclose : ∀ l, close = some l → Closes flavor o l) :
    Block.Stands flavor first (line :: body ++ close.toList) ⟨first, o, body, close.isSome⟩ where
  opened := ⟨line, lineFrom?_add first _ 0, ho⟩
  body i l hi := by
    change lineFrom? first _ (first + 1 + i) = _
    rw [Nat.add_assoc, lineFrom?_add, List.cons_append, Nat.add_comm, List.getElem?_cons_succ]
    rw [List.getElem?_append_left (List.getElem?_eq_some_iff.1 hi).1, hi]
  inside := hin
  closed hc := by
    obtain ⟨l, rfl⟩ := Option.isSome_iff_exists.1 hc
    refine ⟨l, ?_, hclose l rfl⟩
    change lineFrom? first _ (first + body.length + 1) = _
    rw [Nat.add_assoc, lineFrom?_add]
    simp
  unclosed hu := by
    obtain rfl := Option.isNone_iff_eq_none.1 (by simpa using hu)
    simp [endLine, Nat.add_assoc]

end Block

end DocSamples
