import PuppetRegistry.Program.Basic

/-!
# What a run asks for

A program that runs alone puts statements to its handle, one after the other, and each of them
succeeds or fails. Main statements: `p >>= f` asks for what `p` does, and then for what `f` does if
`p` has come to a value; and where a storage error stops a program, its handler goes on asking.
-/

namespace PuppetRegistry

/-- A statement that has been put to a handle, and the fault that it has met with, if any. -/
structure Inquiry where
  statement : Statement
  fault : Option Fault

def Inquiry.of {α : Type} (statement : Statement) : Except Fault α → Inquiry
  | .ok _ => ⟨statement, none⟩
  | .error fault => ⟨statement, some fault⟩

@[simp] theorem Inquiry.statement_of {α : Type} (statement : Statement) (reply : Except Fault α) :
    (Inquiry.of statement reply).statement = statement := by
  cases reply <;> rfl

namespace Program

variable {σ μ α β : Type}

/-- What a program asks for on its run alone, in order. -/
def inquiries (h : Handle σ) : Program μ α → σ → μ → List Inquiry
  | done _, _, _ | raise _, _, _ => []
  | note _ rest, s, m => rest.inquiries h s m
  | consult next, s, m => (next m).inquiries h s m
  | keep m rest, s, _ => rest.inquiries h s m
  | rows statement next, s, m =>
    let (reply, s) := h.rows statement s
    .of statement reply :: (next reply).inquiries h s m
  | row statement next, s, m =>
    let (reply, s) := h.row statement s
    .of statement reply :: (next reply).inquiries h s m
  | execute statement next, s, m =>
    let (reply, s) := h.execute statement s
    .of statement reply :: (next reply).inquiries h s m

theorem inquiries_bind (h : Handle σ) (p : Program μ α) (f : α → Program μ β) (s : σ) (m : μ) :
    (p.bind f).inquiries h s m = p.inquiries h s m ++
      match (p.run h s m).result with
      | .ok a => (f a).inquiries h (p.run h s m).store (p.run h s m).record
      | .error _ => [] := by
  induction p generalizing s m with
  | done | raise => rfl
  | note _ _ ih => exact ih s m
  | keep m' _ ih => exact ih s m'
  | consult _ ih => exact ih m s m
  | rows _ _ ih => simp [bind, inquiries, run, ih]
  | row _ _ ih => simp [bind, inquiries, run, ih]
  | execute _ _ ih => simp [bind, inquiries, run, ih]

theorem inquiries_onStoreError (h : Handle σ) (p : Program μ α)
    (handler : StoreError → Program μ α) (s : σ) (m : μ) :
    (p.onStoreError handler).inquiries h s m = p.inquiries h s m ++
      match (p.run h s m).result with
      | .error (.storage error) =>
        (handler error).inquiries h (p.run h s m).store (p.run h s m).record
      | _ => [] := by
  induction p generalizing s m with
  | done => rfl
  | raise fault => cases fault <;> rfl
  | note _ _ ih => exact ih s m
  | keep m' _ ih => exact ih s m'
  | consult _ ih => exact ih m s m
  | rows _ _ ih => simp [onStoreError, inquiries, run, ih]
  | row _ _ ih => simp [onStoreError, inquiries, run, ih]
  | execute _ _ ih => simp [onStoreError, inquiries, run, ih]

/-- What asks for nothing may follow. -/
theorem inquiries_bind_of_silent {h : Handle σ} {f : α → Program μ β}
    (silent : ∀ a s m, (f a).inquiries h s m = []) (p : Program μ α) (s : σ) (m : μ) :
    (p.bind f).inquiries h s m = p.inquiries h s m := by
  rw [inquiries_bind]
  cases (p.run h s m).result with
  | ok a => simp only [silent, List.append_nil]
  | error => exact List.append_nil _

end Program

end PuppetRegistry
