import PuppetRegistry.Proofs.Program.Crowd

/-!
# Programs within bounds

What a program may ask of its store and leave in its record, whatever the replies are and whatever
others do to the record in between. Alone, a program within bounds keeps of a store what its
statements keep. A crowd of programs within bounds stays so, and each of its steps changes the store
at most by one statement within the bounds of the task that moves.
-/

namespace PuppetRegistry.Program

variable {κ σ μ α β : Type} {good : μ → Prop} {allowed : Statement → Prop}

/-- While the records it reads are good, a program writes good records and issues allowed
statements only. -/
def Within (good : μ → Prop) (allowed : Statement → Prop) : Program μ α → Prop
  | done _ | raise _ => True
  | note _ rest => rest.Within good allowed
  | consult next => ∀ m, good m → (next m).Within good allowed
  | keep m rest => good m ∧ rest.Within good allowed
  | rows s next => allowed s ∧ ∀ reply, (next reply).Within good allowed
  | row s next => allowed s ∧ ∀ reply, (next reply).Within good allowed
  | execute s next => allowed s ∧ ∀ reply, (next reply).Within good allowed

def Pause.Within (good : μ → Prop) (allowed : Statement → Prop) : Pause μ α → Prop
  | ended _ => True
  | rows s next => (Program.rows s next).Within good allowed
  | row s next => (Program.row s next).Within good allowed
  | execute s next => (Program.execute s next).Within good allowed

def Task.Within (good : μ → Prop) (allowed : Statement → Prop) : Task μ α → Prop
  | running program => program.Within good allowed
  | paused pause => pause.Within good allowed

theorem Within.mono {p : Program μ α} (within : p.Within good allowed) {allowed' : Statement → Prop}
    (weaker : ∀ s, allowed s → allowed' s) : p.Within good allowed' := by
  induction p with
  | done | raise => trivial
  | note _ _ ih => exact ih within
  | consult _ ih => exact fun m hm => ih m (within m hm)
  | keep _ _ ih => exact ⟨within.1, ih within.2⟩
  | rows _ _ ih => exact ⟨weaker _ within.1, fun reply => ih reply (within.2 reply)⟩
  | row _ _ ih => exact ⟨weaker _ within.1, fun reply => ih reply (within.2 reply)⟩
  | execute _ _ ih => exact ⟨weaker _ within.1, fun reply => ih reply (within.2 reply)⟩

theorem Within.bind {p : Program μ α} {f : α → Program μ β} (first : p.Within good allowed)
    (next : ∀ a, (f a).Within good allowed) : (p.bind f).Within good allowed := by
  induction p with
  | done a => exact next a
  | raise => trivial
  | note _ _ ih => exact ih first
  | consult _ ih => exact fun m hm => ih m (first m hm)
  | keep _ _ ih => exact ⟨first.1, ih first.2⟩
  | rows _ _ ih => exact ⟨first.1, fun reply => ih reply (first.2 reply)⟩
  | row _ _ ih => exact ⟨first.1, fun reply => ih reply (first.2 reply)⟩
  | execute _ _ ih => exact ⟨first.1, fun reply => ih reply (first.2 reply)⟩

theorem Within.map {p : Program μ α} (within : p.Within good allowed) (f : α → β) :
    (f <$> p).Within good allowed :=
  within.bind fun _ => trivial

theorem Within.onStoreError {p : Program μ α} {handler : StoreError → Program μ α}
    (first : p.Within good allowed) (next : ∀ e, (handler e).Within good allowed) :
    (p.onStoreError handler).Within good allowed := by
  induction p with
  | done => trivial
  | raise fault =>
    cases fault with
    | storage e => exact next e
    | conversion | integerTooLarge | sqlite | schemaTooNew | reported => trivial
  | note _ _ ih => exact ih first
  | consult _ ih => exact fun m hm => ih m (first m hm)
  | keep _ _ ih => exact ⟨first.1, ih first.2⟩
  | rows _ _ ih => exact ⟨first.1, fun reply => ih reply (first.2 reply)⟩
  | row _ _ ih => exact ⟨first.1, fun reply => ih reply (first.2 reply)⟩
  | execute _ _ ih => exact ⟨first.1, fun reply => ih reply (first.2 reply)⟩

theorem within_ofExcept (reply : Except Fault α) :
    (Program.ofExcept reply : Program μ α).Within good allowed := by
  cases reply <;> trivial

/-! ## Runs -/

/-- What every allowed statement keeps of a store, a program within bounds keeps of it. -/
theorem Within.run {h : Handle σ} {p : Program μ α} (within : p.Within good allowed)
    {kept : σ → Prop}
    (keeps : ∀ statement s s', allowed statement → h.Moves statement s s' → kept s → kept s')
    {s : σ} (hs : kept s) {m : μ} (hm : good m) : kept (p.run h s m).store := by
  induction p generalizing s m with
  | done | raise => exact hs
  | note _ _ ih => exact ih within hs hm
  | consult _ ih => exact ih m (within m hm) hs hm
  | keep _ _ ih => exact ih within.2 hs within.1
  | rows statement _ ih =>
    exact ih _ (within.2 _) (keeps statement s _ within.1 (.inl rfl) hs) hm
  | row statement _ ih =>
    exact ih _ (within.2 _) (keeps statement s _ within.1 (.inr (.inl rfl)) hs) hm
  | execute statement _ ih =>
    exact ih _ (within.2 _) (keeps statement s _ within.1 (.inr (.inr rfl)) hs) hm

/-- A part of the store is enough to answer a statement and to tell that part afterwards. -/
structure Projects {τ : Type} (view : σ → τ) (h : Handle σ) (h' : Handle τ)
    (statement : Statement) : Prop where
  rows (s : σ) : h'.rows statement (view s) =
    ((h.rows statement s).1, view (h.rows statement s).2)
  row (s : σ) : h'.row statement (view s) = ((h.row statement s).1, view (h.row statement s).2)
  execute (s : σ) : h'.execute statement (view s) =
    ((h.execute statement s).1, view (h.execute statement s).2)

/-- A part of the store that is enough for all allowed statements is enough for a program within
bounds. -/
theorem Within.run_view {τ : Type} {view : σ → τ} {h : Handle σ} {h' : Handle τ}
    {p : Program μ α} (within : p.Within good allowed)
    (projects : ∀ statement, allowed statement → Projects view h h' statement) (s : σ) {m : μ}
    (hm : good m) :
    p.run h' (view s) m =
      ⟨(p.run h s m).result, view (p.run h s m).store, (p.run h s m).record,
        (p.run h s m).events⟩ := by
  induction p generalizing s m with
  | done | raise => rfl
  | note _ _ ih => simp only [Program.run, ih within s hm]
  | consult _ ih => exact ih m (within m hm) s hm
  | keep _ _ ih => exact ih within.2 s within.1
  | rows statement _ ih =>
    simp only [Program.run, (projects statement within.1).rows s]
    exact ih _ (within.2 _) _ hm
  | row statement _ ih =>
    simp only [Program.run, (projects statement within.1).row s]
    exact ih _ (within.2 _) _ hm
  | execute statement _ ih =>
    simp only [Program.run, (projects statement within.1).execute s]
    exact ih _ (within.2 _) _ hm

/-! ## Steps -/

theorem Within.advance {p : Program μ α} (within : p.Within good allowed) {m : μ} (hm : good m) :
    (p.advance m).1.Within good allowed ∧ good (p.advance m).2.1 := by
  induction p generalizing m with
  | done | raise => exact ⟨trivial, hm⟩
  | note _ _ ih => exact ih within hm
  | consult _ ih => exact ih m (within m hm) hm
  | keep m' _ ih => exact ih within.2 within.1
  | rows | row | execute => exact ⟨within, hm⟩

theorem Pause.Within.answer {h : Handle σ} {pause : Pause μ α} {s s' : σ} {program : Program μ α}
    (within : pause.Within good allowed) (answer : pause.answer? h s = some (program, s')) :
    program.Within good allowed ∧ ∃ statement, allowed statement ∧ h.Moves statement s s' := by
  cases pause with
  | ended => cases answer
  | rows statement next =>
    cases answer
    exact ⟨within.2 _, statement, within.1, .inl rfl⟩
  | row statement next =>
    cases answer
    exact ⟨within.2 _, statement, within.1, .inr (.inl rfl)⟩
  | execute statement next =>
    cases answer
    exact ⟨within.2 _, statement, within.1, .inr (.inr rfl)⟩

/-! ## Crowds -/

/-- All records are good, and every task stays within the bounds of its place. -/
structure Crowd.Within (good : μ → Prop) (allowed : Nat → Statement → Prop)
    (c : Crowd κ σ μ α) : Prop where
  records : ∀ k, good (c.records k)
  tasks : ∀ (i : Nat) (k : κ) (task : Task μ α), c.tasks[i]? = some (k, task) →
    task.Within good (allowed i)

/-- The task at one place has moved, and the store with it by an allowed statement, if at all. -/
def Crowd.MovesAt (h : Handle σ) (allowed : Statement → Prop) (i : Nat)
    (c c' : Crowd κ σ μ α) : Prop :=
  (∃ task, c'.tasks = c.tasks.set i task) ∧ i < c.tasks.length ∧
    (c'.store = c.store ∨ ∃ s, allowed s ∧ h.Moves s c.store c'.store)

private theorem within_set {allowed : Nat → Statement → Prop} {tasks : List (κ × Task μ α)}
    (old : ∀ (i : Nat) (k : κ) (task : Task μ α), tasks[i]? = some (k, task) →
      task.Within good (allowed i))
    {i : Nat} {k : κ} {task : Task μ α} (new : task.Within good (allowed i)) :
    ∀ (j : Nat) (k' : κ) (task' : Task μ α), (tasks.set i (k, task))[j]? = some (k', task') →
      task'.Within good (allowed j) := by
  intro j k' task' hj
  by_cases hij : i = j
  · subst hij
    obtain ⟨_, he⟩ := List.getElem?_eq_some_iff.mp hj
    simp only [List.getElem_set_self, Prod.mk.injEq] at he
    exact he.2 ▸ new
  · rw [List.getElem?_set_ne hij] at hj
    exact old j k' task' hj

theorem Crowd.Step.within [DecidableEq κ] {h : Handle σ} {c c' : Crowd κ σ μ α}
    {allowed : Nat → Statement → Prop} (step : Crowd.Step h c c') (within : c.Within good allowed) :
    c'.Within good allowed ∧ ∃ i, Crowd.MovesAt h (allowed i) i c c' := by
  obtain ⟨i, k, ⟨program, at_i, rfl⟩ | ⟨pause, program, s, at_i, answer, rfl⟩⟩ := step.cases_at
  · have bound : i < c.tasks.length := (List.getElem?_eq_some_iff.mp at_i).choose
    have moved := Within.advance (within.tasks i k _ at_i) (within.records k)
    exact ⟨⟨forall_replace within.records moved.2, within_set within.tasks moved.1⟩,
      i, ⟨_, rfl⟩, bound, .inl rfl⟩
  · have bound : i < c.tasks.length := (List.getElem?_eq_some_iff.mp at_i).choose
    have moved := Pause.Within.answer (within.tasks i k _ at_i) answer
    exact ⟨⟨within.records, within_set within.tasks moved.1⟩,
      i, ⟨_, rfl⟩, bound, .inr moved.2⟩

end PuppetRegistry.Program
