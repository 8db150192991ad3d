import DocSamples.Proofs.Ladder
import DocSamples.Proofs.ShapeLines

namespace DocSamples

open Run

variable {t : Text}

namespace Shape

theorem hasEllipsis_append_break_iff : HasEllipsis (t ++ ['\n']) ↔ HasEllipsis t := by
  have hdots : ¬ ∃ u, ['.', '.', '.'] = u ++ ['\n'] ∧ u <:+ t := by
    rintro ⟨u, h, -⟩
    have hlast := congrArg List.getLast? h
    rw [List.getLast?_concat] at hlast
    contradiction
  unfold HasEllipsis
  rw [List.infix_concat_iff, List.suffix_concat_iff]
  simp [hdots]

theorem invokes_append_break_iff : Invokes (t ++ ['\n']) ↔ Invokes t := by
  constructor
  · rintro ⟨w, n, v, r, h, hw, hn, hv⟩
    rw [← List.append_assoc, ← List.append_assoc, concat_eq_append_cons_iff (by decide)] at h
    obtain ⟨r, rfl, rfl⟩ := h
    exact ⟨w, n, v, r, by simp, hw, hn, hv⟩
  · rintro ⟨w, n, v, r, rfl, hw, hn, hv⟩
    exact ⟨w, n, v, r ++ ['\n'], by simp, hw, hn, hv⟩

theorem hasBlock_append_break_iff : HasBlock (t ++ ['\n']) ↔ HasBlock t := by
  constructor
  · rintro ⟨u, k, w, r, h, hform⟩
    rw [← List.append_assoc, ← List.append_assoc, concat_eq_append_cons_iff (by decide)] at h
    obtain ⟨r, rfl, rfl⟩ := h
    exact ⟨u, k, w, r, by simp, hform⟩
  · rintro ⟨u, k, w, r, rfl, hform⟩
    exact ⟨u, k, w, r ++ ['\n'], by simp, hform⟩

namespace Marker

variable {k : Marker}

theorem not_occurs_nil (h : ¬ k.Follows []) : ¬ k.Occurs [] := by
  rw [occurs_of_unbroken List.not_mem_nil]
  rintro ⟨v, w, r, hs, -, -, hr⟩
  obtain ⟨-, -, -, rfl⟩ : v = [] ∧ k.keyword = [] ∧ w = [] ∧ r = [] := by simpa using hs.symm
  exact h hr

theorem not_resumes_nil (h : ¬ k.Follows []) : ¬ k.Resumes [] := by
  rintro ⟨w, r, hw, -, hr⟩
  obtain ⟨-, rfl⟩ := List.append_eq_nil_iff.1 hw.symm
  exact h hr

/-- A marker that asks for more than its keyword and blanks occurs no sooner with a line feed
behind the text. -/
theorem occurs_concat_break_iff (h : ¬ k.Follows []) : k.Occurs (t ++ ['\n']) ↔ k.Occurs t := by
  rw [occurs_append_break_iff, or_iff_left]
  rintro (hoccurs | ⟨-, hresumes⟩)
  · exact not_occurs_nil h hoccurs
  · exact not_resumes_nil h hresumes

theorem not_follows_nil_stub : ¬ stub.Follows [] := by
  rintro ⟨n, v, e, h, ⟨c, w, rfl, -⟩, -⟩
  contradiction

theorem not_follows_nil_assertion : ¬ assertion.Follows [] := by
  rintro ⟨c, s, h, -⟩
  contradiction

theorem declaration_occurs_concat_break_iff :
    declaration.Occurs (t ++ ['\n']) ↔ declaration.Occurs t ∨ declaration.BreaksOff t := by
  have hnil : ¬ declaration.Occurs [] := by
    rw [← any_lineStarts_iff fun _ => startsDeclaration_iff]
    decide
  have hresumes : declaration.Resumes [] := ⟨[], [], rfl, .nil, trivial⟩
  rw [occurs_append_break_iff, Straddles, and_iff_left hresumes, or_iff_right hnil]

end Marker

/-- A text that illustrates for want of a declaration only, while it breaks off with the keyword of
one. -/
structure NearlyDeclares (t : Text) : Prop where
  ellipsis : ¬ HasEllipsis t
  stub : ¬ Marker.stub.Occurs t
  invokes : Invokes t
  undeclared : ¬ Marker.declaration.Occurs t
  breaksOff : Marker.declaration.BreaksOff t

theorem NearlyDeclares.illustrates (h : NearlyDeclares t) : Illustrates t :=
  .inr (.inr ⟨h.invokes, h.undeclared⟩)

theorem illustrates_append_break_iff :
    Illustrates (t ++ ['\n']) ↔ Illustrates t ∧ ¬ NearlyDeclares t := by
  rw [Illustrates, hasEllipsis_append_break_iff,
    Marker.occurs_concat_break_iff Marker.not_follows_nil_stub, invokes_append_break_iff,
    Marker.declaration_occurs_concat_break_iff, Illustrates]
  constructor
  · rintro (h | h | ⟨h, hn⟩)
    · exact ⟨.inl h, fun hd => hd.ellipsis h⟩
    · exact ⟨.inr (.inl h), fun hd => hd.stub h⟩
    · exact ⟨.inr (.inr ⟨h, fun ho => hn (.inl ho)⟩), fun hd => hn (.inr hd.breaksOff)⟩
  · rintro ⟨h, hn⟩
    by_cases he : HasEllipsis t
    · exact .inl he
    by_cases hs : Marker.stub.Occurs t
    · exact .inr (.inl hs)
    obtain ⟨hi, ho⟩ := (h.resolve_left he).resolve_left hs
    exact .inr (.inr ⟨hi, fun hd => hd.elim ho fun hb => hn ⟨he, hs, hi, ho, hb⟩⟩)

theorem looksLikeScope_append_break (t : Text) :
    looksLikeScope (t ++ ['\n']) = looksLikeScope t := by
  rw [Bool.eq_iff_iff, looksLikeScope_iff, looksLikeScope_iff, hasBlock_append_break_iff]

theorem looksLikeAssert_append_break (t : Text) :
    looksLikeAssert (t ++ ['\n']) = looksLikeAssert t := by
  rw [Bool.eq_iff_iff, looksLikeAssert_iff, looksLikeAssert_iff,
    Marker.occurs_concat_break_iff Marker.not_follows_nil_assertion]

/-- A line feed behind a text leaves its shape as it is, unless the text nearly declares a function:
then it no longer illustrates. -/
theorem classify_append_break_iff :
    classify (t ++ ['\n']) = classify t ↔ ¬ NearlyDeclares t := by
  constructor
  · intro h hn
    rw [classify_eq_pseudoCode_iff.2 hn.illustrates, classify_eq_pseudoCode_iff,
      illustrates_append_break_iff] at h
    exact h.2 hn
  · intro hn
    have hp : isPseudoCode (t ++ ['\n']) = isPseudoCode t := by
      rw [Bool.eq_iff_iff, isPseudoCode_iff, isPseudoCode_iff, illustrates_append_break_iff,
        and_iff_left hn]
    rw [classify, hp, looksLikeScope_append_break, looksLikeAssert_append_break]
    rfl

end Shape

theorem Strategy.fallback?_append_break (t : Text) :
    fallback? (t ++ ['\n']) = fallback? t := by
  simp only [fallback?, fallbacks, List.find?_cons, Shape.looksLikeScope_append_break,
    Shape.looksLikeAssert_append_break, List.find?_nil]

variable {σ : Type} {check : Checker σ} {m m' : σ} {tried : List Attempt} {v : Verdict}
  {s : Session σ}

theorem Climbs.shape_ofAttempts (h : Climbs check t m tried m') :
    (Verdict.ofAttempts t tried).shape = Shape.classify t := by
  rcases List.eq_nil_or_concat tried with rfl | ⟨before, a, rfl⟩
  · exact (h.eq_nil_iff.1 rfl).symm
  · rw [List.concat_eq_append]
    cases ha : a.outcome.isSuccess with
    | true => rw [Verdict.ofAttempts_of_success ha, Verdict.shape]
    | false => rw [Verdict.ofAttempts_of_failure ha, Verdict.shape]

/-- A verdict tells the shape of its sample, and whether that is never checked. -/
theorem shape_of_validate (h : perform m (validate check t) = (.ok v, s)) :
    v.shape = Shape.classify t ∧ v.isSkipped = decide (Shape.classify t = .pseudoCode) := by
  obtain ⟨tried, hclimb, rfl, -⟩ := climbs_of_exec h
  rw [hclimb.shape_ofAttempts, Verdict.isSkipped_ofAttempts, decide_eq_decide]
  exact ⟨rfl, hclimb.eq_nil_iff⟩

/-- A sample with a line feed behind it has the same shape, is checked or skipped the same and has
the same fallback, unless without the line feed it nearly declares a function. -/
theorem sample_append_break_iff (t : Text) :
    (Shape.classify (t ++ ['\n']) = Shape.classify t ↔ ¬ Shape.NearlyDeclares t) ∧
      Strategy.fallback? (t ++ ['\n']) = Strategy.fallback? t ∧
      ∀ (check check' : Checker σ) (m m' : σ) (v v' : Verdict) (s s' : Session σ),
        perform m (validate check t) = (.ok v, s) →
        perform m' (validate check' (t ++ ['\n'])) = (.ok v', s') →
          (v'.shape = v.shape ↔ ¬ Shape.NearlyDeclares t) ∧
            (v'.isSkipped = v.isSkipped ↔ ¬ Shape.NearlyDeclares t) := by
  refine ⟨Shape.classify_append_break_iff, Strategy.fallback?_append_break t, ?_⟩
  intro check check' m m' v v' s s' h h'
  obtain ⟨hshape, hskipped⟩ := shape_of_validate h
  obtain ⟨hshape', hskipped'⟩ := shape_of_validate h'
  rw [hshape, hshape', hskipped, hskipped', decide_eq_decide, Shape.classify_eq_pseudoCode_iff,
    Shape.classify_eq_pseudoCode_iff, Shape.illustrates_append_break_iff]
  refine ⟨Shape.classify_append_break_iff, ?_⟩
  constructor
  · intro hiff hn
    exact (hiff.2 hn.illustrates).2 hn
  · intro hn
    exact and_iff_left hn

def halfDeclaration : Text := "A \x7b\nfn"

/-- A line feed behind the keyword of a function makes a declaration of it. -/
theorem classify_halfDeclaration :
    Shape.classify halfDeclaration = .pseudoCode ∧
      Shape.classify (halfDeclaration ++ ['\n']) = .fullProgram := by
  decide

def acceptsAll : Checker Unit := fun _ _ => ⟨.ok .accepted, (), []⟩

theorem sample_append_break_iff_halfDeclaration :
    ∃ v v' s s', perform () (validate acceptsAll halfDeclaration) = (.ok v, s) ∧
      perform () (validate acceptsAll (halfDeclaration ++ ['\n'])) = (.ok v', s') ∧
      s.asked = [] ∧ s'.asked = [halfDeclaration ++ ['\n']] ∧
      v'.isSkipped ≠ v.isSkipped ∧ Shape.NearlyDeclares halfDeclaration := by
  have hnone : Climbs acceptsAll halfDeclaration () [] () := .none (by decide)
  have hdirect : Climbs acceptsAll (halfDeclaration ++ ['\n']) () [⟨.identity, .accepted⟩] () :=
    .direct (by decide) ⟨rfl, rfl⟩ (.inl (by decide))
  obtain ⟨journal, hrun⟩ := hnone.ends [] []
  obtain ⟨journal', hrun'⟩ := hdirect.ends [] []
  obtain ⟨-, hskipped⟩ :=
    (sample_append_break_iff halfDeclaration).2.2 _ _ _ _ _ _ _ _ hrun hrun'
  have hne : (Verdict.ofAttempts (halfDeclaration ++ ['\n']) [⟨.identity, .accepted⟩]).isSkipped ≠
      (Verdict.ofAttempts halfDeclaration []).isSkipped := by decide
  refine ⟨_, _, _, _, hrun, hrun', rfl, ?_, hne, ?_⟩
  · simp [Attempt.program, Strategy.apply_identity]
  · exact Classical.byContradiction fun hn => hne (hskipped.2 hn)

end DocSamples
