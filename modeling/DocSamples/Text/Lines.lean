import DocSamples.Text.Basic

namespace DocSamples.Text

/-- Every line break, be it `\r\n`, `\r` or `\n`, becomes `\n`. -/
def unifyBreaks : Text → Text
  | [] => []
  | '\r' :: '\n' :: t => '\n' :: unifyBreaks t
  | c :: t => (if c = '\r' then '\n' else c) :: unifyBreaks t

theorem not_mem_unifyBreaks (t : Text) : '\r' ∉ unifyBreaks t := by
  fun_induction unifyBreaks t with
  | case1 => simp
  | case2 t ih => simp [ih]
  | case3 c t _ ih =>
    by_cases h : c = '\r'
    · simp [h, ih]
    · simp [h, ih, Ne.symm h]

theorem unifyBreaks_of_not_mem {t : Text} (h : '\r' ∉ t) : unifyBreaks t = t := by
  fun_induction unifyBreaks t with
  | case1 => rfl
  | case2 t ih => simp at h
  | case3 c t _ ih =>
    simp only [List.mem_cons, not_or] at h
    rw [ih h.2, if_neg (Ne.symm h.1)]

theorem unifyBreaks_idem (t : Text) : unifyBreaks (unifyBreaks t) = unifyBreaks t :=
  unifyBreaks_of_not_mem (not_mem_unifyBreaks t)

/-- The pieces of a text between its `\n`, the last one included even when it is empty. -/
def pieces (t : Text) : List Text := splitWhere (· == '\n') t

/-- The lines of a document: a break ends a line, and nothing follows the last break. -/
def lines (t : Text) : List Text :=
  let ls := pieces (unifyBreaks t)
  if ls.getLast? = some [] then ls.dropLast else ls

def joinLines (ls : List Text) : Text := join ['\n'] ls

end DocSamples.Text
