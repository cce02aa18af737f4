/-!
# Results that are made in stages

What each stage has come to, told from what they come to together.
-/

namespace PuppetRegistry.Stages

variable {ε ε' α β : Type}

theorem bind_eq_ok {x : Except ε α} {g : α → Except ε β} {b : β} (done : (x >>= g) = .ok b) :
    ∃ a, x = .ok a ∧ g a = .ok b := by
  cases x with
  | error => cases done
  | ok a => exact ⟨a, rfl, done⟩

theorem bind_eq_error {x : Except ε α} {g : α → Except ε β} {e : ε}
    (failed : (x >>= g) = .error e) : x = .error e ∨ ∃ a, g a = .error e := by
  cases x with
  | error =>
    cases failed
    exact .inl rfl
  | ok a => exact .inr ⟨a, failed⟩

theorem mapError_ok (g : ε → ε') (a : α) : (Except.ok a : Except ε α).mapError g = .ok a := rfl

theorem mapError_eq_ok {x : Except ε α} {g : ε → ε'} {a : α} (done : x.mapError g = .ok a) :
    x = .ok a := by
  cases x with
  | error => cases done
  | ok => cases done; rfl

/-- An error that no step comes to is not what a walk comes to. -/
theorem foldlM_ne_error {step : β → α → Except ε β} {e : ε}
    (never : ∀ b a, step b a ≠ .error e) (as : List α) (b : β) : as.foldlM step b ≠ .error e := by
  induction as generalizing b with
  | nil => nofun
  | cons a rest ih =>
    rw [List.foldlM_cons]
    intro failed
    obtain first | ⟨next, later⟩ := bind_eq_error failed
    · exact never b a first
    · exact ih next later

end PuppetRegistry.Stages
