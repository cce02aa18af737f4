import PuppetRegistry.Binary64.Basic

/-!
# Whole parts of rounded quotients

A quotient below 2^53 is rounded at an exponent that is not positive, so its whole part is that of
a rounded multiple of it. A whole quotient is therefore kept, and any other one is off by less than
one before it is cut.
-/

namespace PuppetRegistry.Binary64

variable {negative : Bool} {num den : Nat}

theorem roundHalfEven_le (num den : Nat) : roundHalfEven num den ≤ num / den + 1 := by
  simp only [roundHalfEven]
  split
  · omega
  · split
    · omega
    · omega

theorem roundHalfEven_mul {s den : Nat} (positive : 0 < den) : roundHalfEven (s * den) den = s := by
  have whole : s * den / den = s := Nat.mul_div_cancel s positive
  have exact : s * den % den = 0 := Nat.mul_mod_left s den
  simp only [roundHalfEven, whole, exact]
  rw [if_pos (by omega)]

/-- A quotient is rounded to less than an even number if it is more than a half below it. -/
theorem roundHalfEven_lt_iff {m : Nat} (even : m % 2 = 0) (positive : 0 < den) :
    roundHalfEven num den < m ↔ 2 * num + den < 2 * (m * den) := by
  have parts : num = num / den * den + num % den := by
    rw [Nat.mul_comm]
    exact (Nat.div_add_mod num den).symm
  have rest := Nat.mod_lt num positive
  simp only [roundHalfEven]
  generalize num / den = q at *
  generalize num % den = r at *
  rcases Nat.lt_trichotomy (q + 1) m with below | rfl | above
  · obtain ⟨j, rfl⟩ := Nat.exists_eq_add_of_lt below
    have product : (q + 1 + j + 1) * den = q * den + j * den + 2 * den := by
      simp only [Nat.add_mul]
      omega
    split
    · omega
    · split
      · omega
      · omega
  · have product : (q + 1) * den = q * den + den := Nat.succ_mul q den
    split
    · omega
    · split
      · omega
      · omega
  · obtain ⟨j, rfl⟩ := Nat.exists_eq_add_of_le (Nat.le_of_lt_succ above)
    have product : (m + j) * den = m * den + j * den := Nat.add_mul m j den
    split
    · omega
    · split
      · omega
      · omega

theorem log2_quotient_le {bits k : Nat} (some_part : num ≠ 0)
    (fits : num * 2 ^ k < den * 2 ^ bits) : num.log2 + k ≤ den.log2 + bits := by
  have num_le := Nat.log2_self_le some_part
  have den_lt : den < 2 ^ (den.log2 + 1) := Nat.lt_log2_self
  apply Nat.le_of_lt_succ
  apply (Nat.pow_lt_pow_iff_right (a := 2) (by decide)).mp
  calc 2 ^ (num.log2 + k) = 2 ^ num.log2 * 2 ^ k := Nat.pow_add ..
    _ ≤ num * 2 ^ k := Nat.mul_le_mul_right _ num_le
    _ < den * 2 ^ bits := fits
    _ ≤ 2 ^ (den.log2 + 1) * 2 ^ bits := Nat.mul_le_mul_right _ (Nat.le_of_lt den_lt)
    _ = 2 ^ (den.log2 + bits + 1) := by rw [← Nat.pow_add, Nat.add_right_comm]

theorem scale_neg (num den k : Nat) : scale num den (-(k : Int)) = (num * 2 ^ k, den) := by
  simp only [scale]
  split
  · have none_left : k = 0 := by omega
    simp [none_left]
  · simp

theorem fullExponent_le {bits k : Nat} (some_part : num ≠ 0)
    (fits : num * 2 ^ k < den * 2 ^ bits) : fullExponent bits num den ≤ -(k : Int) := by
  have le := log2_quotient_le some_part fits
  simp only [fullExponent]
  by_cases edge : num.log2 + k = den.log2 + bits
  · have e : (num.log2 : Int) - (den.log2 : Int) - (bits : Int) = -(k : Int) := by omega
    rw [e, scale_neg]
    exact Int.le_of_eq (if_pos fits)
  · split
    · omega
    · omega

/-- The exponent of a quotient is the one at which its significand is full. -/
theorem fullExponent_eq {bits k : Nat} (full : den * 2 ^ bits ≤ 2 * (num * 2 ^ k))
    (fits : num * 2 ^ k < den * 2 ^ bits) (positive : 0 < den) :
    fullExponent bits num den = -(k : Int) := by
  have some_part : num ≠ 0 := by
    rintro rfl
    have := Nat.mul_pos positive (Nat.two_pow_pos bits)
    omega
  have den_le := Nat.log2_self_le (Nat.ne_of_gt positive)
  have num_lt : num < 2 ^ (num.log2 + 1) := Nat.lt_log2_self
  have upper := log2_quotient_le some_part fits
  have lower : den.log2 + bits < num.log2 + 1 + k + 1 := by
    apply (Nat.pow_lt_pow_iff_right (a := 2) (by decide)).mp
    calc 2 ^ (den.log2 + bits) = 2 ^ den.log2 * 2 ^ bits := Nat.pow_add ..
      _ ≤ den * 2 ^ bits := Nat.mul_le_mul_right _ den_le
      _ ≤ num * 2 ^ k * 2 := by omega
      _ < 2 ^ (num.log2 + 1) * 2 ^ k * 2 :=
        Nat.mul_lt_mul_of_pos_right (Nat.mul_lt_mul_of_pos_right num_lt (Nat.two_pow_pos k))
          (by decide)
      _ = 2 ^ (num.log2 + 1 + k + 1) := by rw [← Nat.pow_add, Nat.pow_succ]
  simp only [fullExponent]
  -- The logarithms leave two candidates, and the first one is taken only if it is large enough.
  by_cases exact : num.log2 + k = den.log2 + bits
  · have e : (num.log2 : Int) - (den.log2 : Int) - (bits : Int) = -(k : Int) := by omega
    rw [e, scale_neg]
    exact if_pos fits
  · have e : (num.log2 : Int) - (den.log2 : Int) - (bits : Int) = -((k + 1 : Nat) : Int) := by omega
    have short : ¬ num * 2 ^ (k + 1) < den * 2 ^ bits := by
      rw [Nat.pow_succ, ← Nat.mul_assoc]
      omega
    rw [e, scale_neg]
    simp only [if_neg short]
    omega

def halvings (num den : Nat) : Nat :=
  (-max minExponent (fullExponent precision num den)).toNat

theorem halvings_eq {k : Nat} (full : den * 2 ^ precision ≤ 2 * (num * 2 ^ k))
    (fits : num * 2 ^ k < den * 2 ^ precision) (positive : 0 < den) (normal : k ≤ 1074) :
    halvings num den = k := by
  rw [halvings, fullExponent_eq full fits positive]
  simp only [minExponent]
  omega

theorem wholePart_neg (m k : Nat) : wholePart m (-(k : Int)) = m / 2 ^ k := by
  simp only [wholePart]
  split
  · have none_left : k = 0 := by omega
    simp [none_left]
  · simp

/-- A significand of one bit too much has the same whole part once it is carried over. -/
theorem wholePart_half {m k : Nat} (bound : k = 0 → m % 2 = 0) :
    wholePart (m / 2) (-(k : Int) + 1) = m / 2 ^ k := by
  cases k with
  | zero =>
    have even := bound rfl
    simp only [wholePart]
    rw [if_pos (by omega)]
    simp
    omega
  | succ k =>
    have exponent : -((k + 1 : Nat) : Int) + 1 = -(k : Int) := by omega
    rw [exponent, wholePart_neg, Nat.pow_succ, Nat.mul_comm, Nat.div_div_eq_div_mul]

theorem carry_of_lt {m : Nat} {e : Int} (fits : m < 2 ^ precision) (small : e ≤ 0) :
    carry negative m e = .finite negative m e := by
  have inRange : ¬ maxExponent < e := by
    rw [maxExponent]
    omega
  simp only [carry, if_pos fits, if_neg inRange]

theorem carry_of_le {m : Nat} {e : Int} (reached : 2 ^ precision ≤ m) (small : e ≤ 0) :
    carry negative m e = .finite negative (m / 2) (e + 1) := by
  have inRange : ¬ maxExponent < e + 1 := by
    rw [maxExponent]
    omega
  simp only [carry, if_neg (Nat.not_lt.mpr reached), if_neg inRange]

theorem truncate_carry {m k : Nat} (bound : k = 0 → m ≤ 2 ^ precision) :
    (carry negative m (-(k : Int))).truncate? =
      some (if negative then -((m / 2 ^ k : Nat) : Int) else ((m / 2 ^ k : Nat) : Int)) := by
  rcases Nat.lt_or_ge m (2 ^ precision) with fits | reached
  · rw [carry_of_lt fits (by omega), truncate?, wholePart_neg]
  · have even : k = 0 → m % 2 = 0 := by
      intro none_left
      have whole : 2 ^ precision % 2 = 0 := rfl
      rw [Nat.le_antisymm (bound none_left) reached, whole]
    rw [carry_of_le reached (by omega), truncate?, wholePart_half even]

theorem wholePart_zero (e : Int) : wholePart 0 e = 0 := by
  simp [wholePart]

theorem truncate_ofRatio_zero : (ofRatio negative 0 den).truncate? = some 0 := by
  rw [ofRatio, if_pos rfl, truncate?, wholePart_zero]
  simp

theorem max_fullExponent (some_part : num ≠ 0) (small : num < den * 2 ^ precision) :
    max minExponent (fullExponent precision num den) = -(halvings num den : Int) := by
  have nonpos : fullExponent precision num den ≤ 0 := by
    apply fullExponent_le (k := 0) some_part
    rwa [Nat.pow_zero, Nat.mul_one]
  rw [halvings]
  generalize fullExponent precision num den = e at nonpos
  simp only [minExponent]
  omega

-- Exponent and fraction are variables here, since the kernel would unfold the powers in them.
theorem ofRatio_of_scale {n d : Nat} {e : Int} (some_part : num ≠ 0)
    (exponent : max minExponent (fullExponent precision num den) = e)
    (scaled : scale num den e = (n, d)) :
    ofRatio negative num den = carry negative (roundHalfEven n d) e := by
  rw [ofRatio, if_neg some_part, exponent]
  simp only [scaled]

theorem ofRatio_eq_carry (some_part : num ≠ 0) (small : num < den * 2 ^ precision) :
    ofRatio negative num den =
      carry negative (roundHalfEven (num * 2 ^ halvings num den) den) (-(halvings num den : Int)) :=
  ofRatio_of_scale some_part (max_fullExponent some_part small) (scale_neg num den _)

/-- The whole part of a quotient that has been rounded. -/
def roundedPart (num den : Nat) : Nat :=
  roundHalfEven (num * 2 ^ halvings num den) den / 2 ^ halvings num den

theorem roundedPart_mul (s : Nat) (positive : 0 < den) : roundedPart (s * den) den = s := by
  rw [roundedPart, Nat.mul_right_comm, roundHalfEven_mul positive]
  exact Nat.mul_div_cancel s (Nat.two_pow_pos _)

theorem roundedPart_zero (positive : 0 < den) : roundedPart 0 den = 0 := by
  have kept := roundedPart_mul 0 positive
  rwa [Nat.zero_mul] at kept

/-- A whole part is not beyond the next whole number. -/
theorem roundedPart_le (positive : 0 < den) : roundedPart num den ≤ num / den + 1 := by
  rw [roundedPart]
  generalize halvings num den = k
  have pow := Nat.two_pow_pos k
  apply Nat.le_of_lt_succ
  rw [Nat.div_lt_iff_lt_mul pow]
  have rounded := roundHalfEven_le (num * 2 ^ k) den
  have quotient : num * 2 ^ k / den < (num / den + 1) * 2 ^ k := by
    rw [Nat.div_lt_iff_lt_mul positive]
    have below : num < num / den * den + den := Nat.lt_div_mul_add positive
    calc num * 2 ^ k < (num / den * den + den) * 2 ^ k := Nat.mul_lt_mul_of_pos_right below pow
      _ = (num / den + 1) * 2 ^ k * den := by rw [← Nat.succ_mul, Nat.mul_right_comm]
  calc roundHalfEven (num * 2 ^ k) den ≤ num * 2 ^ k / den + 1 := rounded
    _ < (num / den + 1) * 2 ^ k + 2 ^ k := Nat.add_lt_add_of_lt_of_le quotient pow
    _ = (num / den + 1 + 1) * 2 ^ k := (Nat.succ_mul (num / den + 1) (2 ^ k)).symm

theorem truncate_ofRatio (negative : Bool) (positive : 0 < den) (small : num < den * 2 ^ precision) :
    (ofRatio negative num den).truncate? =
      some (if negative then -(roundedPart num den : Int) else roundedPart num den) := by
  by_cases zero : num = 0
  · rw [zero, truncate_ofRatio_zero, roundedPart_zero positive]
    simp
  · rw [ofRatio_eq_carry zero small]
    apply truncate_carry
    intro none_left
    rw [none_left, Nat.pow_zero, Nat.mul_one]
    have rounded := roundHalfEven_le num den
    have quotient : num / den < 2 ^ precision := by
      rw [Nat.div_lt_iff_lt_mul positive, Nat.mul_comm]
      exact small
    omega

end PuppetRegistry.Binary64
