import PuppetRegistry.Proofs.Binary64.Truncation

/-!
# Rounded quotients in order

Rounding takes the whole part of a quotient up by one at most. Main statements: it does not while
half the last place of the significand is less than the distance between two quotients, and a larger
quotient never has a smaller whole part.
-/

namespace PuppetRegistry.Binary64

variable {num other den k : Nat}

theorem div_le_roundHalfEven (num den : Nat) : num / den ≤ roundHalfEven num den := by
  simp only [roundHalfEven]
  split
  · omega
  · split
    · omega
    · omega

theorem roundHalfEven_mono (le : num ≤ other) : roundHalfEven num den ≤ roundHalfEven other den := by
  have quotients : num / den ≤ other / den := Nat.div_le_div_right le
  rcases Nat.lt_or_eq_of_le quotients with less | same
  · calc roundHalfEven num den ≤ num / den + 1 := roundHalfEven_le num den
      _ ≤ other / den := less
      _ ≤ roundHalfEven other den := div_le_roundHalfEven other den
  · have parts := Nat.div_add_mod num den
    have parts' := Nat.div_add_mod other den
    rw [same] at parts
    have rests : num % den ≤ other % den := by omega
    simp only [roundHalfEven, same]
    repeat' split
    all_goals omega

theorem div_le_roundedPart (positive : 0 < den) : num / den ≤ roundedPart num den := by
  rw [roundedPart]
  generalize halvings num den = k
  rw [Nat.le_div_iff_mul_le (Nat.two_pow_pos k)]
  have scaled : num / den * 2 ^ k ≤ num * 2 ^ k / den := by
    rw [Nat.le_div_iff_mul_le positive, Nat.mul_right_comm]
    exact Nat.mul_le_mul_right _ (Nat.div_mul_le_self num den)
  exact Nat.le_trans scaled (div_le_roundHalfEven _ _)

/-! ## Quotients with room in the significand -/

theorem le_halvings (some_part : num ≠ 0) (fits : num * 2 ^ k < den * 2 ^ precision)
    (normal : k ≤ 1074) : k ≤ halvings num den := by
  have le := fullExponent_le some_part fits
  simp only [halvings, minExponent]
  omega

/-- The whole part is that of the quotient if half the last place is less than one part in `den`. -/
theorem roundedPart_eq_div (positive : 0 < den) (fits : num * 2 ^ (k + 1) < den * 2 ^ precision)
    (normal : k + 1 ≤ 1074) (coarse : den < 2 ^ (k + 2)) : roundedPart num den = num / den := by
  apply Nat.le_antisymm _ (div_le_roundedPart positive)
  by_cases zero : num = 0
  · rw [zero, roundedPart_zero positive]
    exact Nat.zero_le _
  have enough := le_halvings zero fits normal
  rw [roundedPart]
  generalize halvings num den = places at enough ⊢
  have pow := Nat.two_pow_pos places
  have even : (num / den + 1) * 2 ^ places % 2 = 0 := by
    obtain ⟨more, rfl⟩ := Nat.exists_eq_add_of_le' enough
    rw [← Nat.add_assoc, Nat.pow_succ, ← Nat.mul_assoc]
    exact Nat.mul_mod_left _ 2
  have room : den < 2 * 2 ^ places := by
    calc den < 2 ^ (k + 2) := coarse
      _ ≤ 2 ^ (places + 1) := Nat.pow_le_pow_right (by decide) (by omega)
      _ = 2 * 2 ^ places := by rw [Nat.pow_succ, Nat.mul_comm]
  have below : num + 1 ≤ (num / den + 1) * den := Nat.lt_mul_of_div_lt (Nat.lt_succ_self _) positive
  have scaled : (num + 1) * 2 ^ places ≤ (num / den + 1) * 2 ^ places * den := by
    rw [Nat.mul_right_comm]
    exact Nat.mul_le_mul_right _ below
  apply Nat.le_of_lt_succ
  rw [Nat.div_lt_iff_lt_mul pow, roundHalfEven_lt_iff even positive]
  rw [Nat.succ_mul] at scaled
  omega

/-! ## The order of whole parts -/

theorem halvings_eq_of_div (positive : 0 < den) (some_whole : num / den ≠ 0)
    (small : num < den * 2 ^ precision) :
    halvings num den = precision - 1 - (num / den).log2 := by
  have least := Nat.log2_self_le some_whole
  have most : num / den < 2 ^ ((num / den).log2 + 1) := Nat.lt_log2_self
  have within : (num / den).log2 < precision := by
    rw [Nat.log2_lt some_whole, Nat.div_lt_iff_lt_mul positive, Nat.mul_comm]
    exact small
  generalize bits : (num / den).log2 = b at *
  have exponents : precision = b + 1 + (precision - 1 - b) := by omega
  generalize precision - 1 - b = k at exponents
  have pow := Nat.two_pow_pos k
  have full : den * 2 ^ b * 2 ^ k ≤ num * 2 ^ k := by
    apply Nat.mul_le_mul_right
    calc den * 2 ^ b ≤ den * (num / den) := Nat.mul_le_mul_left _ least
      _ ≤ num := Nat.mul_div_le num den
  have fits : num * 2 ^ k < den * 2 ^ (b + 1) * 2 ^ k := by
    apply Nat.mul_lt_mul_of_pos_right _ pow
    rw [Nat.mul_comm]
    exact Nat.lt_mul_of_div_lt most positive
  apply halvings_eq _ _ positive
  · simp only [precision] at exponents
    omega
  · rw [exponents, Nat.pow_add, Nat.pow_succ, ← Nat.mul_assoc, ← Nat.mul_assoc,
      Nat.mul_right_comm _ 2, Nat.mul_comm _ 2]
    exact Nat.mul_le_mul_left 2 full
  · rw [exponents, Nat.pow_add, ← Nat.mul_assoc]
    exact fits

theorem roundedPart_mono (positive : 0 < den) (coarse : den < 2 ^ (precision + 1))
    (small : other < den * 2 ^ precision) (le : num ≤ other) :
    roundedPart num den ≤ roundedPart other den := by
  rcases Nat.lt_or_eq_of_le (Nat.div_le_div_right (c := den) le) with less | same
  · calc roundedPart num den ≤ num / den + 1 := roundedPart_le positive
      _ ≤ other / den := less
      _ ≤ roundedPart other den := div_le_roundedPart positive
  · by_cases whole : num / den = 0
    · have below : num < den := (Nat.div_eq_zero_iff_lt positive).mp whole
      have fits : num * 2 ^ precision < den * 2 ^ precision :=
        Nat.mul_lt_mul_of_pos_right below (Nat.two_pow_pos _)
      rw [roundedPart_eq_div (k := 52) positive fits (by decide) coarse, whole]
      exact Nat.zero_le _
    · have halved : halvings num den = halvings other den := by
        rw [halvings_eq_of_div positive whole (Nat.lt_of_le_of_lt le small),
          halvings_eq_of_div positive (same ▸ whole) small, same]
      rw [roundedPart, roundedPart, halved]
      exact Nat.div_le_div_right (roundHalfEven_mono (Nat.mul_le_mul_right _ le))

end PuppetRegistry.Binary64
