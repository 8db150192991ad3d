import DocSamples.Proofs.EffectiveSettings
import DocSamples.Proofs.FileSelection
import DocSamples.Proofs.SmallLetters

namespace DocSamples

variable {a e t name : Text}

namespace Path

/-- What stands behind the last dot of a name, which is neither its first character nor its last. -/
def HasExtension (name e : Text) : Prop :=
  ∃ stem, name = stem ++ '.' :: e ∧ stem ≠ [] ∧ e ≠ [] ∧ '.' ∉ e

/-- A dot and a text that has none and is not empty. -/
def IsPlainSuffix (t : Text) : Prop := ∃ e, t = '.' :: e ∧ e ≠ [] ∧ '.' ∉ e

/-- In small letters a name ends with a text and is longer. -/
def EndsWith (name t : Text) : Prop := ∃ stem, name.lower = stem ++ t.lower ∧ stem ≠ []

theorem ne_dot_of_mem_reverse (h : '.' ∉ t) : ∀ c ∈ t.reverse, (c != '.') = true := by
  intro c hc
  rw [bne_iff_ne]
  rintro rfl
  exact h (List.mem_reverse.1 hc)

theorem takeWhile_reverse_eq (he : '.' ∉ e) :
    ((a ++ '.' :: e).reverse.takeWhile (· != '.')).reverse = e := by
  have hstops : StopsAt (· != '.') ('.' :: a.reverse) := .cons rfl
  rw [List.reverse_append, List.reverse_cons, List.append_assoc, List.singleton_append,
    takeWhile_append_of_stopsAt (ne_dot_of_mem_reverse he) hstops, List.reverse_reverse]

theorem eq_of_last_dot {a' e' : Text} (he : '.' ∉ e) (he' : '.' ∉ e')
    (h : a ++ '.' :: e = a' ++ '.' :: e') : a = a' ∧ e = e' := by
  have heq : e = e' := by rw [← takeWhile_reverse_eq he, h, takeWhile_reverse_eq he']
  subst heq
  exact ⟨List.append_cancel_right h, rfl⟩

theorem exists_last_dot (h : '.' ∈ t) : ∃ stem e, t = stem ++ '.' :: e ∧ '.' ∉ e := by
  obtain ⟨front, back, hsplit, hback⟩ := List.eq_append_cons_of_mem (List.mem_reverse.2 h)
  refine ⟨back.reverse, front.reverse, ?_, mt List.mem_reverse.1 hback⟩
  rw [← List.reverse_reverse t, hsplit, List.reverse_append, List.reverse_cons, List.append_assoc,
    List.singleton_append]

theorem suffixOf_append (he : '.' ∉ e) :
    suffixOf (a ++ '.' :: e) = if a ≠ [] ∧ e ≠ [] then '.' :: e else [] := by
  have hlength : e.length + 1 < (a ++ '.' :: e).length ↔ a ≠ [] := by
    rw [List.length_append, List.length_cons, ← List.length_pos_iff]
    omega
  rw [suffixOf, takeWhile_reverse_eq he]
  simp only [hlength, Bool.and_eq_true, Bool.not_eq_true', List.isEmpty_eq_false_iff,
    decide_eq_true_eq, and_comm]

theorem suffixOf_of_not_mem (h : '.' ∉ name) : suffixOf name = [] := by
  have hall := takeWhile_append_of_stopsAt (ne_dot_of_mem_reverse h) .nil
  rw [List.append_nil] at hall
  rw [suffixOf, hall, List.reverse_reverse]
  exact if_neg (by simp)

theorem suffixOf_eq_iff : suffixOf name = '.' :: e ↔ HasExtension name e := by
  constructor
  · intro h
    by_cases hdot : '.' ∈ name
    · obtain ⟨stem, e', rfl, he'⟩ := exists_last_dot hdot
      rw [suffixOf_append he'] at h
      split at h
      · rename_i hne
        cases h
        exact ⟨stem, rfl, hne.1, hne.2, he'⟩
      · cases h
    · rw [suffixOf_of_not_mem hdot] at h
      cases h
  · rintro ⟨stem, rfl, hstem, hne, he⟩
    rw [suffixOf_append he, if_pos ⟨hstem, hne⟩]

/-- Only a suffix of one dot and something behind it is the suffix of a name. -/
theorem exists_extension (h : Text.lower ('.' :: t) = (suffixOf name).lower) :
    IsPlainSuffix ('.' :: t) ∧ ∃ e, HasExtension name e ∧ t.lower = e.lower := by
  obtain hnil | ⟨e, he⟩ : suffixOf name = [] ∨ ∃ e, suffixOf name = '.' :: e := by
    unfold suffixOf
    dsimp only
    split
    · exact .inr ⟨_, rfl⟩
    · exact .inl rfl
  · rw [hnil, Text.lower_dot] at h
    cases h
  · rw [he, Text.lower_dot, Text.lower_dot, List.cons.injEq, and_iff_right rfl] at h
    have hext := suffixOf_eq_iff.1 he
    refine ⟨⟨t, rfl, ?_, ?_⟩, e, hext, h⟩
    · obtain ⟨-, -, -, hne, -⟩ := hext
      rintro rfl
      exact hne (lowerAfter_eq_nil_iff.1 h.symm)
    · obtain ⟨-, -, -, -, hdot⟩ := hext
      rwa [← Text.dot_mem_lower, h, Text.dot_mem_lower]

/-- Without a capital sigma in its suffix, a name has the suffix exactly if it ends with it. -/
theorem lower_eq_lower_suffixOf_iff (hsigma : 'Σ' ∉ suffixOf name) :
    Text.lower ('.' :: t) = (suffixOf name).lower ↔
      IsPlainSuffix ('.' :: t) ∧ EndsWith name ('.' :: t) := by
  constructor
  · intro h
    obtain ⟨hplain, e, hext, heq⟩ := exists_extension h
    rw [suffixOf_eq_iff.2 hext, List.mem_cons, not_or] at hsigma
    obtain ⟨stem, rfl, hstem, -, -⟩ := hext
    obtain ⟨small, next, hlower, hnil⟩ := Text.exists_lower_append_dot stem e
    refine ⟨hplain, small, ?_, mt hnil.1 hstem⟩
    rw [hlower, lowerAfter_eq hsigma.2 next false, Text.lower_dot, heq, Text.lower]
  · rintro ⟨⟨_, ⟨⟩, hne, hdot⟩, front, hends, hfront⟩
    rw [Text.lower_dot] at hends
    have hmem : '.' ∈ name := by
      rw [← Text.dot_mem_lower, hends]
      exact List.mem_append_right _ List.mem_cons_self
    obtain ⟨stem, e, rfl, he⟩ := exists_last_dot hmem
    obtain ⟨small, next, hlower, hnil⟩ := Text.exists_lower_append_dot stem e
    obtain ⟨rfl, heq⟩ := eq_of_last_dot (mt dot_mem_lowerAfter.1 he) (mt dot_mem_lowerAfter.1 hdot)
      (hlower.symm.trans hends)
    have hext : HasExtension (stem ++ '.' :: e) e := by
      refine ⟨stem, rfl, mt hnil.2 hfront, ?_, he⟩
      rintro rfl
      exact hne (lowerAfter_eq_nil_iff.1 heq.symm)
    rw [suffixOf_eq_iff.2 hext, List.mem_cons, not_or] at hsigma
    rw [suffixOf_eq_iff.2 hext, Text.lower_dot, Text.lower_dot, Text.lower, ← heq,
      lowerAfter_eq hsigma.2 next false]
    rfl

end Path

namespace FileTree

variable {tree : FileTree} {suffixes names : List Text} {root : Path} {ds : List Path} {dir : Place}
  {content : Bytes}

/-- A file below a directory is selected by the suffix of its name. -/
theorem descend_mem_documents_iff (htree : tree.IsTree)
    (hroot : tree.find root = .ok (dir, .directory))
    (h : tree.documents suffixes [root] = .ok ds)
    (hnode : tree.node? (dir ++ (names ++ [name])) = some (.file content)) :
    root.descend (names ++ [name]) ∈ ds ↔ ∃ t ∈ suffixes, t.lower = (Path.suffixOf name).lower := by
  have hcovers : tree.Covers root (root.descend (names ++ [name])) :=
    .below hroot (by rw [hnode]; rfl)
  have hadmits := exists_documents_iff.1 ⟨ds, h⟩ root List.mem_cons_self _ hcovers
  have hfind := hadmits.find_descend htree (find_eq_ok_iff.1 hroot).1 hnode
  have hsuffix : (root.descend (names ++ [name])).suffix = Path.suffixOf name := by
    rw [Path.suffix, Path.name, Path.descend, ← List.append_assoc, List.getLast?_concat]
    rfl
  rw [mem_documents h, ← hsuffix]
  constructor
  · rintro ⟨-, hdoc⟩
    exact hdoc.suffix
  · intro ht
    exact ⟨⟨root, List.mem_cons_self, hcovers⟩, ⟨_, _, hfind⟩, ht⟩

end FileTree

namespace Settings

variable {files tree : FileTree} {project root : Path} {environment file : Option Text}
  {s : Settings} {dir : Place}

theorem exists_dotted (t : Text) : ∃ u, dotted t = '.' :: u := by
  unfold dotted
  split
  · rename_i hstarts
    exact Text.startsWith_iff.1 hstarts
  · exact ⟨t, rfl⟩

/-- Every suffix that is loaded starts with a dot. -/
theorem exists_dot_of_load (h : load files project environment file = .ok s) :
    ∀ t ∈ s.suffixes, ∃ u, t = '.' :: u := by
  obtain ⟨o, rfl, ho⟩ := load_eq_ok h
  have hgiven : o.suffixes = none ∨ ∃ us : List Text, o.suffixes = some (us.map dotted) := by
    rcases ho with ⟨-, rfl⟩ | ⟨data, entries, -, ho⟩
    · exact .inl rfl
    · have hgives := (overridesOf_eq_ok_iff_gives.1 ho).suffixes
      cases hts : o.suffixes with
      | none => exact .inl rfl
      | some ts =>
        rw [hts] at hgives
        cases hgives with
        | found _ hstands =>
          obtain ⟨us, -, rfl⟩ := hstands
          exact .inr ⟨us, rfl⟩
  rw [withEnvironment_eq]
  change ∀ t ∈ o.suffixes.getD [".md", ".mdx"], ∃ u, t = '.' :: u
  rcases hgiven with hnone | ⟨us, hsome⟩
  · rw [hnone]
    rw [Option.getD_none, List.forall_mem_cons, List.forall_mem_singleton]
    exact ⟨⟨_, rfl⟩, ⟨_, rfl⟩⟩
  · rw [hsome]
    exact List.forall_mem_map.2 fun u _ => exists_dotted u

open DocSamples.Path (EndsWith HasExtension IsPlainSuffix)

/-- Which files below a directory the loaded suffixes select: those whose extension is that of a
suffix in small letters. But for a capital sigma, these are the files that end with a suffix of one
dot. No other suffix selects any. -/
theorem suffixes_select_iff (hload : load files project environment file = .ok s)
    (htree : tree.IsTree) (hroot : tree.find root = .ok (dir, .directory)) :
    ((∃ ds, tree.documents s.suffixes [root] = .ok ds) ↔
      ∀ p, tree.Covers root p → tree.Admits p) ∧
    (∀ ds, tree.documents s.suffixes [root] = .ok ds → ∀ names name content,
      tree.node? (dir ++ (names ++ [name])) = some (.file content) →
      (root.descend (names ++ [name]) ∈ ds ↔
        ∃ t ∈ s.suffixes, ∃ e, HasExtension name e ∧ t.lower = Text.lower ('.' :: e)) ∧
      ('Σ' ∉ Path.suffixOf name →
        (root.descend (names ++ [name]) ∈ ds ↔
          ∃ t ∈ s.suffixes, IsPlainSuffix t ∧ EndsWith name t))) ∧
    ∀ t ∈ s.suffixes, ¬ IsPlainSuffix t →
      ∀ ds, tree.documents [t] [root] = .ok ds → ds = [] := by
  have hdots := exists_dot_of_load hload
  refine ⟨by simp [FileTree.exists_documents_iff], ?_, ?_⟩
  · intro ds h names name content hnode
    have hmem := FileTree.descend_mem_documents_iff htree hroot h hnode
    refine ⟨?_, fun hsigma => ?_⟩
    · rw [hmem]
      refine exists_congr fun t => and_congr_right fun ht => ?_
      obtain ⟨u, rfl⟩ := hdots t ht
      constructor
      · intro heq
        obtain ⟨-, e, hext, hlower⟩ := Path.exists_extension heq
        exact ⟨e, hext, by rw [Text.lower_dot, Text.lower_dot, hlower]⟩
      · rintro ⟨e, hext, heq⟩
        rw [heq, Path.suffixOf_eq_iff.2 hext]
    · rw [hmem]
      refine exists_congr fun t => and_congr_right fun ht => ?_
      obtain ⟨u, rfl⟩ := hdots t ht
      exact Path.lower_eq_lower_suffixOf_iff hsigma
  · intro t ht hplain ds h
    obtain ⟨u, rfl⟩ := hdots t ht
    rw [List.eq_nil_iff_forall_not_mem]
    intro p hp
    obtain ⟨t', ht', heq⟩ := ((FileTree.mem_documents h).1 hp).2.suffix
    cases List.mem_singleton.1 ht'
    exact hplain (Path.exists_extension heq).1

open CommandLine (exists_ok_of_toOption_map settingsHost)

/-- A suffix with a dot inside selects no file, though one ends with it. -/
theorem load_settingsHost_twoDots :
    ∃ s, load (settingsHost "suffixes: [.en.md]").files ⟨1, ["project"]⟩ none (some "c.yaml") =
        .ok s ∧
      FileTree.documents ⟨[(["a.en.md"], .file [])], []⟩ s.suffixes [⟨0, []⟩] = .ok [] ∧
      ∃ t ∈ s.suffixes, EndsWith "a.en.md" t := by
  have hload : ∃ s, load (settingsHost "suffixes: [.en.md]").files ⟨1, ["project"]⟩ none
      (some "c.yaml") = .ok s ∧ s.suffixes = [".en.md".toList] := by
    apply exists_ok_of_toOption_map
    decide +kernel
  obtain ⟨s, hs, hsuffixes⟩ := hload
  refine ⟨s, hs, ?_, ".en.md", ?_, ['a'], by decide +kernel, by decide⟩
  · rw [hsuffixes]
    have hfound : [⟨0, []⟩].mapM
        (FileTree.documentsAt ⟨[(["a.en.md"], .file [])], []⟩ [".en.md".toList]) = .ok [[]] := rfl
    exact FileTree.documents_of_mapM hfound rfl .nil
  · rw [hsuffixes]
    exact List.mem_cons_self

theorem suffixes_select_iff_shelf :
    ∃ s, load (settingsHost "suffixes: [Md, .html]").files ⟨1, ["project"]⟩ none (some "c.yaml") =
        .ok s ∧
      FileTree.shelf.IsTree ∧ FileTree.shelf.find ⟨0, ["d"]⟩ = .ok (["d"], .directory) ∧
      ∃ ds, FileTree.shelf.documents s.suffixes [⟨0, ["d"]⟩] = .ok ds ∧
        ⟨0, ["d", "c.md", "e.MD"]⟩ ∈ ds := by
  have hload : ∃ s, load (settingsHost "suffixes: [Md, .html]").files ⟨1, ["project"]⟩ none
      (some "c.yaml") = .ok s ∧ s.suffixes = [".Md".toList, ".html".toList] := by
    apply exists_ok_of_toOption_map
    decide +kernel
  obtain ⟨s, hs, hsuffixes⟩ := hload
  have hroot : FileTree.shelf.find ⟨0, ["d"]⟩ = .ok (["d"], .directory) := rfl
  have hfound : [⟨0, ["d"]⟩].mapM (FileTree.shelf.documentsAt [".Md".toList, ".html".toList]) =
      .ok [[⟨0, ["d", "a.md"]⟩, ⟨0, ["d", "c.md", "e.MD"]⟩]] := rfl
  have hdocs := FileTree.documents_of_mapM hfound rfl (by decide +kernel)
  rw [← hsuffixes] at hdocs
  obtain ⟨-, hselects, -⟩ := suffixes_select_iff hs FileTree.isTree_shelf hroot
  obtain ⟨-, hends⟩ := hselects _ hdocs ["c.md"] "e.MD" [] rfl
  refine ⟨s, hs, FileTree.isTree_shelf, hroot, _, hdocs, (hends (by decide)).2 ?_⟩
  refine ⟨".Md", ?_, ⟨"Md", rfl, by decide, by decide⟩, ['e'], by decide +kernel, by decide⟩
  rw [hsuffixes]
  exact List.mem_cons_self

end Settings

end DocSamples
