import DocSamples.Session

namespace DocSamples.Run

variable {σ α β : Type}

/-- What a run comes to from a session on: its result and the session it leaves. -/
def exec (run : Run σ α) (s : Session σ) : Except Fault α × Session σ :=
  StateT.run (ExceptT.run run) s

theorem perform_eq_exec (memory : σ) (run : Run σ α) :
    perform memory run = exec run (start memory) :=
  rfl

theorem exec_bind (run : Run σ α) (f : α → Run σ β) (s : Session σ) :
    exec (run >>= f) s =
      match exec run s with
      | (.ok a, s') => exec (f a) s'
      | (.error e, s') => (.error e, s') := by
  simp only [exec, ExceptT.run, StateT.run, bind, ExceptT.bind, ExceptT.mk, StateT.bind,
    ExceptT.bindCont]
  cases run s with
  | mk result s' => cases result <;> rfl

theorem exists_of_exec_bind {run : Run σ α} {f : α → Run σ β} {b : β} {s s' : Session σ}
    (h : exec (run >>= f) s = (.ok b, s')) :
    ∃ a s₁, exec run s = (.ok a, s₁) ∧ exec (f a) s₁ = (.ok b, s') := by
  rw [exec_bind] at h
  split at h
  · rename_i a s₁ hrun
    exact ⟨a, s₁, hrun, h⟩
  · cases h

/-- A run that starts with some memory has a result, asks for some texts more and leaves a memory,
whatever was asked and noted before. -/
def Ends (run : Run σ α) (m : σ) (a : α) (texts : List Text) (m' : σ) : Prop :=
  ∀ asked journal, ∃ journal',
    exec run ⟨m, asked, journal⟩ = (.ok a, ⟨m', asked ++ texts, journal'⟩)

/-- A run that starts with some memory is ended by a fault. -/
def Faults (run : Run σ α) (m : σ) (e : Fault) : Prop :=
  ∀ asked journal, ∃ s', exec run ⟨m, asked, journal⟩ = (.error e, s')

variable {run : Run σ α} {f : α → Run σ β} {m m' m'' : σ} {a : α} {b : β} {e : Fault}
  {texts texts' : List Text}

theorem Ends.exec_eq (h : Ends run m a texts m') {s s' : Session σ} {a' : α} (hm : s.memory = m)
    (hs : exec run s = (.ok a', s')) : a' = a ∧ s'.memory = m' ∧ s'.asked = s.asked ++ texts := by
  obtain ⟨_, asked, journal⟩ := s
  subst hm
  obtain ⟨journal', h⟩ := h asked journal
  rw [h] at hs
  cases hs
  exact ⟨rfl, rfl, rfl⟩

theorem Ends.perform_fst (h : Ends run m a texts m') : (perform m run).1 = .ok a := by
  obtain ⟨journal', h⟩ := h [] []
  exact congrArg Prod.fst h

theorem Faults.perform_fst (h : Faults run m e) : (perform m run).1 = .error e := by
  obtain ⟨s, h⟩ := h [] []
  exact congrArg Prod.fst h

theorem Faults.not_ok (h : Faults run m e) {s s' : Session σ} (hm : s.memory = m) :
    exec run s ≠ (.ok a, s') := by
  obtain ⟨_, asked, journal⟩ := s
  subst hm
  obtain ⟨s'', h⟩ := h asked journal
  rw [h]
  intro hs
  cases hs

theorem Ends.pure (m : σ) (a : α) : Ends (Pure.pure a : Run σ α) m a [] m := by
  intro asked journal
  rw [List.append_nil]
  exact ⟨journal, rfl⟩

/-- A run that starts with some memory asks for some texts and then goes on as another run. -/
def Leads (run : Run σ α) (m : σ) (texts : List Text) (next : Run σ α) (m' : σ) : Prop :=
  ∀ asked journal, ∃ journal',
    exec run ⟨m, asked, journal⟩ = exec next ⟨m', asked ++ texts, journal'⟩

variable {next next' : Run σ α}

theorem Leads.refl (run : Run σ α) (m : σ) : Leads run m [] run m := by
  intro asked journal
  rw [List.append_nil]
  exact ⟨journal, rfl⟩

theorem Leads.trans (h : Leads run m texts next m') (h' : Leads next m' texts' next' m'') :
    Leads run m (texts ++ texts') next' m'' := by
  intro asked journal
  obtain ⟨journal', hx⟩ := h asked journal
  obtain ⟨journal'', hy⟩ := h' (asked ++ texts) journal'
  refine ⟨journal'', ?_⟩
  rw [hx, hy, List.append_assoc]

theorem Leads.ends (h : Leads run m texts next m') (h' : Ends next m' a texts' m'') :
    Ends run m a (texts ++ texts') m'' := by
  intro asked journal
  obtain ⟨journal', hx⟩ := h asked journal
  obtain ⟨journal'', hy⟩ := h' (asked ++ texts) journal'
  refine ⟨journal'', ?_⟩
  rw [hx, hy, List.append_assoc]

theorem Leads.faults (h : Leads run m texts next m') (h' : Faults next m' e) : Faults run m e := by
  intro asked journal
  obtain ⟨journal', hx⟩ := h asked journal
  obtain ⟨s', hy⟩ := h' (asked ++ texts) journal'
  exact ⟨s', by rw [hx, hy]⟩

theorem Ends.leads (h : Ends run m a texts m') (f : α → Run σ β) :
    Leads (run >>= f) m texts (f a) m' := by
  intro asked journal
  obtain ⟨journal', hx⟩ := h asked journal
  exact ⟨journal', by rw [exec_bind, hx]⟩

theorem Ends.bind (h : Ends run m a texts m') (h' : Ends (f a) m' b texts' m'') :
    Ends (run >>= f) m b (texts ++ texts') m'' :=
  (h.leads f).ends h'

theorem Ends.bind_silent (h : Ends run m a texts m') (h' : Ends (f a) m' b [] m'') :
    Ends (run >>= f) m b texts m'' := by
  rw [← List.append_nil texts]
  exact h.bind h'

theorem Ends.silent_bind (h : Ends run m a [] m') (h' : Ends (f a) m' b texts m'') :
    Ends (run >>= f) m b texts m'' :=
  h.bind h'

theorem Ends.bind_faults (h : Ends run m a texts m') (h' : Faults (f a) m' e) :
    Faults (run >>= f) m e :=
  (h.leads f).faults h'

theorem Faults.bind (h : Faults run m e) : Faults (run >>= f) m e := by
  intro asked journal
  obtain ⟨s', hx⟩ := h asked journal
  exact ⟨s', by rw [exec_bind, hx]⟩

/-- A run that starts with some memory comes to a result, which may be a fault, asks for some texts
more and leaves a memory, whatever was asked and noted before. -/
def Comes (run : Run σ α) (m : σ) (result : Except Fault α) (texts : List Text) (m' : σ) : Prop :=
  ∀ asked journal, ∃ journal',
    exec run ⟨m, asked, journal⟩ = (result, ⟨m', asked ++ texts, journal'⟩)

variable {result : Except Fault α}

theorem Ends.comes (h : Ends run m a texts m') : Comes run m (.ok a) texts m' := h

theorem Comes.ends (h : Comes run m (.ok a) texts m') : Ends run m a texts m' := h

theorem Comes.faults (h : Comes run m (.error e) texts m') : Faults run m e :=
  fun asked journal => (h asked journal).imp' _ fun _ h => h

theorem Comes.exists_perform (h : Comes run m result texts m') :
    ∃ s, perform m run = (result, s) ∧ s.asked = texts ∧ s.memory = m' := by
  obtain ⟨journal', h⟩ := h [] []
  exact ⟨_, h, rfl, rfl⟩

theorem Comes.unique {result' : Except Fault α} (h : Comes run m result texts m')
    (h' : Comes run m result' texts' m'') : result = result' ∧ texts = texts' ∧ m' = m'' := by
  obtain ⟨journal, hx⟩ := h [] []
  obtain ⟨journal', hy⟩ := h' [] []
  rw [hx] at hy
  cases hy
  exact ⟨rfl, rfl, rfl⟩

theorem Leads.comes (h : Leads run m texts next m') (h' : Comes next m' result texts' m'') :
    Comes run m result (texts ++ texts') m'' := by
  intro asked journal
  obtain ⟨journal', hx⟩ := h asked journal
  obtain ⟨journal'', hy⟩ := h' (asked ++ texts) journal'
  refine ⟨journal'', ?_⟩
  rw [hx, hy, List.append_assoc]

theorem Comes.bind_error (h : Comes run m (.error e) texts m') :
    Comes (run >>= f) m (.error e) texts m' := by
  intro asked journal
  obtain ⟨journal', hx⟩ := h asked journal
  exact ⟨journal', by rw [exec_bind, hx]⟩

theorem Ends.note (level : Level) (author : Author) (text : Text) (m : σ) :
    Ends (note level author text : Run σ Unit) m () [] m := by
  intro asked journal
  rw [List.append_nil]
  exact ⟨_, rfl⟩

theorem Ends.noteWritten (level : Level) (author : Author) (text : Except LongNumber Text) (m : σ) :
    Ends (noteWritten level author text : Run σ Unit) m () [] m := by
  cases text with
  | ok text => exact .note level author text m
  | error e => exact .pure m ()

variable {check : Checker σ} {text : Text} {o : Outcome}

theorem Ends.ask (h : (check text m).result = .ok o) :
    Ends (ask check text) m o [text] (check text m).memory := by
  intro asked journal
  refine ⟨journal ++ (check text m).notes, ?_⟩
  rw [← h]
  rfl

theorem Faults.ask (h : (check text m).result = .error e) : Faults (ask check text) m e := by
  intro asked journal
  refine ⟨⟨(check text m).memory, asked ++ [text], journal ++ (check text m).notes⟩, ?_⟩
  rw [← h]
  rfl

/-- A run that does the same whatever was asked and noted before. -/
def Steady (run : Run σ α) : Prop := ∀ m, ∃ result texts m', Comes run m result texts m'

theorem Steady.comes (h : Steady run) {s : Session σ} (hp : perform m run = (result, s)) :
    Comes run m result s.asked s.memory := by
  obtain ⟨result', texts, m', hc⟩ := h m
  obtain ⟨s', hp', rfl, rfl⟩ := hc.exists_perform
  rw [hp] at hp'
  cases hp'
  exact hc

theorem Steady.pure (a : α) : Steady (Pure.pure a : Run σ α) :=
  fun m => ⟨_, _, _, (Ends.pure m a).comes⟩

theorem Steady.note (level : Level) (author : Author) (text : Text) :
    Steady (note level author text : Run σ Unit) :=
  fun m => ⟨_, _, _, (Ends.note level author text m).comes⟩

theorem Steady.noteWritten (level : Level) (author : Author) (text : Except LongNumber Text) :
    Steady (noteWritten level author text : Run σ Unit) :=
  fun m => ⟨_, _, _, (Ends.noteWritten level author text m).comes⟩

theorem Steady.ask (check : Checker σ) (text : Text) : Steady (ask check text) := by
  intro m
  refine ⟨(check text m).result, [text], (check text m).memory, ?_⟩
  intro asked journal
  exact ⟨journal ++ (check text m).notes, rfl⟩

theorem Steady.bind (h : Steady run) (h' : ∀ a, Steady (f a)) : Steady (run >>= f) := by
  intro m
  obtain ⟨result, texts, m', hc⟩ := h m
  cases result with
  | error e => exact ⟨_, _, _, hc.bind_error⟩
  | ok a =>
    obtain ⟨result', texts', m'', hc'⟩ := h' a m'
    exact ⟨_, _, _, (hc.ends.leads f).comes hc'⟩

end DocSamples.Run
