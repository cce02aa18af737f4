import Mathlib.Data.List.Forall2

/-!
# Results side by side

What can be said of two computations that go the same way on inputs that are related: both come to
values that are related, or both to the same error, and the states that they leave behind are
related. Main statement: chains of such computations go the same way.
-/

namespace PuppetRegistry

/-- Two results that are related, or the same error. -/
inductive Agree {ε α β : Type} (R : α → β → Prop) : Except ε α → Except ε β → Prop
  | ok {a : α} {b : β} (related : R a b) : Agree R (.ok a) (.ok b)
  | error (e : ε) : Agree R (.error e) (.error e)

namespace Agree

variable {ε ε' α β γ δ : Type} {R : α → β → Prop} {Q : γ → δ → Prop}

theorem refl {R : α → α → Prop} (reflexive : ∀ a, R a a) (x : Except ε α) : Agree R x x := by
  cases x with
  | error e => exact .error e
  | ok a => exact .ok (reflexive a)

theorem split {x : Except ε α} {y : Except ε β} (agree : Agree R x y) :
    (∃ e, x = .error e ∧ y = .error e) ∨ ∃ a b, x = .ok a ∧ y = .ok b ∧ R a b := by
  cases agree with
  | error e => exact .inl ⟨e, rfl, rfl⟩
  | ok related => exact .inr ⟨_, _, rfl, rfl, related⟩

theorem eq {x y : Except ε α} (agree : Agree Eq x y) : x = y := by
  cases agree with
  | error e => rfl
  | ok same => rw [same]

theorem bind {x : Except ε α} {y : Except ε β} {f : α → Except ε γ} {g : β → Except ε δ}
    (agree : Agree R x y) (next : ∀ a b, R a b → Agree Q (f a) (g b)) :
    Agree Q (x >>= f) (y >>= g) := by
  cases agree with
  | error e => exact .error e
  | ok related => exact next _ _ related

theorem mapError {x : Except ε α} {y : Except ε β} (agree : Agree R x y) (f : ε → ε') :
    Agree R (x.mapError f) (y.mapError f) := by
  cases agree with
  | error e => exact .error (f e)
  | ok related => exact .ok related

theorem mapM {f : α → Except ε γ} {g : β → Except ε δ} {as : List α} {bs : List β}
    (each : ∀ a b, R a b → Agree Q (f a) (g b)) (related : List.Forall₂ R as bs) :
    Agree (List.Forall₂ Q) (as.mapM f) (bs.mapM g) := by
  induction related with
  | nil => exact .ok .nil
  | cons first _ ih =>
    rw [List.mapM_cons, List.mapM_cons]
    refine (each _ _ first).bind fun c d head => ?_
    exact ih.bind fun cs ds tail => .ok (.cons head tail)

end Agree

theorem split_rel {α β : Type} {R : α → β → Prop} {x : Option α} {y : Option β}
    (related : Option.Rel R x y) :
    (x = none ∧ y = none) ∨ ∃ a b, x = some a ∧ y = some b ∧ R a b := by
  cases related with
  | none => exact .inl ⟨rfl, rfl⟩
  | some related => exact .inr ⟨_, _, rfl, rfl, related⟩

/-- Related results, with related states that are left behind. -/
def Twins {α β σ : Type} (A : α → β → Prop) (S : σ → σ → Prop) (x : α × σ) (y : β × σ) : Prop :=
  A x.1 y.1 ∧ S x.2 y.2

theorem Twins.pairs {α β σ : Type} {A : α → β → Prop} {S : σ → σ → Prop} {x : α × σ} {y : β × σ}
    (twins : Twins A S x y) : ∃ a s b t, x = (a, s) ∧ y = (b, t) ∧ A a b ∧ S s t :=
  ⟨x.1, x.2, y.1, y.2, rfl, rfl, twins.1, twins.2⟩

section

variable {ε α σ : Type} {S : σ → σ → Prop} {x y : Except ε α × σ}

theorem Twins.agree (twins : Twins Eq S x y) : Twins (Agree Eq) S x y :=
  ⟨twins.1 ▸ .refl (fun _ => rfl) _, twins.2⟩

theorem Twins.eq (twins : Twins (Agree Eq) S x y) : Twins Eq S x y :=
  ⟨twins.1.eq, twins.2⟩

end

end PuppetRegistry
