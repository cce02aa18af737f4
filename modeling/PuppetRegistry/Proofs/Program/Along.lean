import Mathlib.Data.List.Chain
import PuppetRegistry.Proofs.Program.Crowd

/-!
# The course of a run

A run comes through points, each with a store and a record: wherever the record is about to change
or a statement is about to take effect, and at its end. Main statement: if all records along the
course of a program are good and its statements fit the record of their time, then at every point of
its run the record is good, and from each point to the next the store stays or is moved by a
statement that fits the record there.
-/

namespace PuppetRegistry.Program

variable {σ μ α β : Type} {good : μ → Prop} {fits : μ → Statement → Prop}

/-- The store and the record at each point of a run. -/
def points (h : Handle σ) : Program μ α → σ → μ → List (σ × μ)
  | done _, s, m | raise _, s, m => [(s, m)]
  | note _ rest, s, m => rest.points h s m
  | consult next, s, m => (next m).points h s m
  | keep m' rest, s, m => (s, m) :: rest.points h s m'
  | rows statement next, s, m =>
    let (reply, s') := h.rows statement s
    (s, m) :: (next reply).points h s' m
  | row statement next, s, m =>
    let (reply, s') := h.row statement s
    (s, m) :: (next reply).points h s' m
  | execute statement next, s, m =>
    let (reply, s') := h.execute statement s
    (s, m) :: (next reply).points h s' m

/-- Alone, a program that starts with a record comes through good records only, and its statements
fit the record of their time, whatever the replies are. -/
def Along (good : μ → Prop) (fits : μ → Statement → Prop) : Program μ α → μ → Prop
  | done _, m | raise _, m => good m
  | note _ rest, m => rest.Along good fits m
  | consult next, m => (next m).Along good fits m
  | keep m' rest, m => good m ∧ rest.Along good fits m'
  | rows s next, m => good m ∧ fits m s ∧ ∀ reply, (next reply).Along good fits m
  | row s next, m => good m ∧ fits m s ∧ ∀ reply, (next reply).Along good fits m
  | execute s next, m => good m ∧ fits m s ∧ ∀ reply, (next reply).Along good fits m

theorem Along.bind {p : Program μ α} {f : α → Program μ β} {m : μ} (first : p.Along good fits m)
    (next : ∀ a m, good m → (f a).Along good fits m) : (p.bind f).Along good fits m := by
  induction p generalizing m with
  | done a => exact next a m first
  | raise => exact first
  | note _ _ ih => exact ih first
  | consult _ ih => exact ih m first
  | keep _ _ ih => exact ⟨first.1, ih first.2⟩
  | rows _ _ ih => exact ⟨first.1, first.2.1, fun reply => ih reply (first.2.2 reply)⟩
  | row _ _ ih => exact ⟨first.1, first.2.1, fun reply => ih reply (first.2.2 reply)⟩
  | execute _ _ ih => exact ⟨first.1, first.2.1, fun reply => ih reply (first.2.2 reply)⟩

theorem Along.onStoreError {p : Program μ α} {handler : StoreError → Program μ α} {m : μ}
    (first : p.Along good fits m) (next : ∀ e m, good m → (handler e).Along good fits m) :
    (p.onStoreError handler).Along good fits m := by
  induction p generalizing m with
  | done => exact first
  | raise fault =>
    cases fault with
    | storage e => exact next e m first
    | conversion | integerTooLarge | sqlite | schemaTooNew | reported => exact first
  | note _ _ ih => exact ih first
  | consult _ ih => exact ih m first
  | keep _ _ ih => exact ⟨first.1, ih first.2⟩
  | rows _ _ ih => exact ⟨first.1, first.2.1, fun reply => ih reply (first.2.2 reply)⟩
  | row _ _ ih => exact ⟨first.1, first.2.1, fun reply => ih reply (first.2.2 reply)⟩
  | execute _ _ ih => exact ⟨first.1, first.2.1, fun reply => ih reply (first.2.2 reply)⟩

theorem along_ofExcept {m : μ} (hm : good m) (reply : Except Fault α) :
    (Program.ofExcept reply).Along good fits m := by
  cases reply <;> exact hm

/-! ## Points of a run -/

section Points

variable {h : Handle σ}

theorem head?_points (h : Handle σ) (p : Program μ α) (s : σ) (m : μ) :
    (p.points h s m).head? = some (s, m) := by
  induction p generalizing m with
  | done | raise => rfl
  | note _ _ ih => exact ih m
  | consult _ ih => exact ih m m
  | keep | rows | row | execute => rfl

theorem getLast?_points (h : Handle σ) (p : Program μ α) (s : σ) (m : μ) :
    (p.points h s m).getLast? = some ((p.run h s m).store, (p.run h s m).record) := by
  induction p generalizing s m with
  | done | raise => rfl
  | note _ _ ih => exact ih s m
  | consult _ ih => exact ih m s m
  | keep m' _ ih => simp only [points, List.getLast?_cons, ih, Option.getD_some, run]
  | rows _ _ ih => simp only [points, List.getLast?_cons, ih, Option.getD_some, run]
  | row _ _ ih => simp only [points, List.getLast?_cons, ih, Option.getD_some, run]
  | execute _ _ ih => simp only [points, List.getLast?_cons, ih, Option.getD_some, run]

/-- From one point to the next the store stays, or is moved by a statement that fits the record. -/
def Follows (h : Handle σ) (fits : μ → Statement → Prop) (x y : σ × μ) : Prop :=
  y.1 = x.1 ∨ ∃ statement, fits x.2 statement ∧ h.Moves statement x.1 y.1

theorem Along.good_points {p : Program μ α} {s : σ} {m : μ} (along : p.Along good fits m) :
    ∀ x ∈ p.points h s m, good x.2 := by
  induction p generalizing s m with
  | done | raise =>
    intro x mem
    rw [List.mem_singleton.mp mem]
    exact along
  | note _ _ ih => exact ih along
  | consult _ ih => exact ih m along
  | keep _ _ ih => exact List.forall_mem_cons.mpr ⟨along.1, ih along.2⟩
  | rows _ _ ih => exact List.forall_mem_cons.mpr ⟨along.1, ih _ (along.2.2 _)⟩
  | row _ _ ih => exact List.forall_mem_cons.mpr ⟨along.1, ih _ (along.2.2 _)⟩
  | execute _ _ ih => exact List.forall_mem_cons.mpr ⟨along.1, ih _ (along.2.2 _)⟩

/-- The record that a run leaves behind is good. -/
theorem Along.good_run {p : Program μ α} {s : σ} {m : μ} (along : p.Along good fits m) :
    good (p.run h s m).record :=
  along.good_points _ (List.mem_of_getLast? (getLast?_points h p s m))

private theorem isChain_cons_points {p : Program μ α} {s : σ} {m : μ} {x : σ × μ}
    (first : Follows h fits x (s, m)) (rest : (p.points h s m).IsChain (Follows h fits)) :
    (x :: p.points h s m).IsChain (Follows h fits) := by
  rw [List.isChain_cons]
  refine ⟨fun y head => ?_, rest⟩
  rw [head?_points] at head
  cases head
  exact first

theorem Along.isChain_points {p : Program μ α} {s : σ} {m : μ} (along : p.Along good fits m) :
    (p.points h s m).IsChain (Follows h fits) := by
  induction p generalizing s m with
  | done | raise => exact List.isChain_singleton _
  | note _ _ ih => exact ih along
  | consult _ ih => exact ih m along
  | keep _ _ ih => exact isChain_cons_points (.inl rfl) (ih along.2)
  | rows statement _ ih =>
    exact isChain_cons_points (.inr ⟨statement, along.2.1, .inl rfl⟩) (ih _ (along.2.2 _))
  | row statement _ ih =>
    exact isChain_cons_points (.inr ⟨statement, along.2.1, .inr (.inl rfl)⟩) (ih _ (along.2.2 _))
  | execute statement _ ih =>
    exact isChain_cons_points (.inr ⟨statement, along.2.1, .inr (.inr rfl)⟩) (ih _ (along.2.2 _))

end Points

end PuppetRegistry.Program
