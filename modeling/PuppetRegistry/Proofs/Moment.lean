import PuppetRegistry.Proofs.Binary64.Order
import PuppetRegistry.Proofs.Seconds

/-!
# Moments and their seconds

A moment's second is rounded before it is cut. Main statement: less than 2^34 seconds away from 1970
nothing is rounded up to another second, moments in order have seconds in order, and a second that
is read gives the moment it is written for.
-/

namespace PuppetRegistry.Moment

variable {m other : Moment}

/-- At 2^34 seconds the last place of the significand has become 2^-18 seconds, almost four
microseconds; up to there half a place is less than one. -/
theorem unixSeconds_eq_tdiv (near : m.micros.natAbs < 2 ^ 34 * microsPerSecond.toNat) :
    m.unixSeconds = m.micros.tdiv microsPerSecond := by
  have fits : m.micros.natAbs * 2 ^ (18 + 1) < microsPerSecond.toNat * 2 ^ Binary64.precision := by
    simp only [microsPerSecond, Binary64.precision, Int.reduceToNat] at near ⊢
    omega
  have exact : Binary64.roundedPart m.micros.natAbs microsPerSecond.toNat =
      m.micros.natAbs / microsPerSecond.toNat :=
    Binary64.roundedPart_eq_div (by decide) fits (by decide) (by decide)
  rw [unixSeconds_eq, exact]
  split
  · next before =>
    obtain ⟨n, same⟩ := Int.exists_eq_neg_ofNat (Int.le_of_lt before)
    rw [same, Int.natAbs_neg, Int.neg_tdiv]
    rfl
  · next after =>
    obtain ⟨n, same⟩ := Int.eq_ofNat_of_zero_le (Int.not_lt.mp after)
    rw [same]
    rfl

theorem unixSeconds_mono (le : m.micros ≤ other.micros) : m.unixSeconds ≤ other.unixSeconds := by
  have ordered {n k : Nat} (small : k < microsPerSecond.toNat * 2 ^ Binary64.precision)
      (below : n ≤ k) : Binary64.roundedPart n microsPerSecond.toNat ≤
        Binary64.roundedPart k microsPerSecond.toNat :=
    Binary64.roundedPart_mono (by decide) (by decide) small below
  rw [unixSeconds_eq, unixSeconds_eq]
  split
  · split
    · have := ordered m.small_micros (show other.micros.natAbs ≤ m.micros.natAbs by omega)
      omega
    · omega
  · rw [if_neg (by omega)]
    have := ordered other.small_micros (show m.micros.natAbs ≤ other.micros.natAbs by omega)
    omega

theorem readMoment_of_pos {second : Int} (positive : 1 ≤ second) (bound : second < endSecond) :
    ∃ m, Puppet.readMoment (.int second) = .ok (some m) ∧ m.unixSeconds = second := by
  have read : ofUnix? second = _ :=
    (if_neg (by omega)).trans (dif_pos (show 0 < second ∧ second < endSecond from ⟨positive, bound⟩))
  exact ⟨_, read, unixSeconds_ofUnix? read⟩

/-- Less than 2^34 seconds away from 1970 a moment is written as its whole seconds, towards zero;
moments are written in order, however far away; and the moment that is read from a second after 1970
and within the calendar is written as that second. -/
theorem written_seconds :
    (∀ m : Moment, -(2 ^ 34 * microsPerSecond) < m.micros → m.micros < 2 ^ 34 * microsPerSecond →
      m.unixSeconds = m.micros.tdiv microsPerSecond) ∧
    (∀ m other : Moment, m.micros ≤ other.micros → m.unixSeconds ≤ other.unixSeconds) ∧
    (∀ second : Int, 1 ≤ second → second ≤ 253402300799 →
      ∃ m, Puppet.readMoment (.int second) = .ok (some m) ∧
        Puppet.syncSeconds (some m) = second) := by
  refine ⟨?_, fun _ _ => unixSeconds_mono, ?_⟩
  · intro m above below
    apply unixSeconds_eq_tdiv
    simp only [microsPerSecond, Int.reduceToNat] at above below ⊢
    omega
  · intro second positive bound
    exact readMoment_of_pos positive (Int.lt_add_one_of_le bound)

/-- The last microsecond before 2^34 seconds, read ninety minutes west of UTC. -/
def lastExact : Moment :=
  ⟨2 ^ 34 * 1000000 - 1, -5400000000, by decide, by decide⟩

/-- The last moment that is written as a second of the calendar. -/
def lastStorable : Moment :=
  ⟨253402300799999984, -5400000000, by decide, by decide⟩

/-- The microsecond after it. -/
def firstUnstorable : Moment :=
  ⟨253402300799999985, -5400000000, by decide, by decide⟩

theorem written_seconds_edges :
    (lastExact.micros < 2 ^ 34 * microsPerSecond ∧ lastExact.unixSeconds = 2 ^ 34 - 1) ∧
    (lastStorable.micros ≤ firstUnstorable.micros ∧
      lastStorable.unixSeconds ≤ firstUnstorable.unixSeconds) ∧
    ∃ m, Puppet.readMoment (.int 253402300799) = .ok (some m) ∧
      Puppet.syncSeconds (some m) = 253402300799 := by
  obtain ⟨exact, ordered, back⟩ := written_seconds
  have near : lastExact.micros < 2 ^ 34 * microsPerSecond := by decide
  have later : lastStorable.micros ≤ firstUnstorable.micros := by decide
  exact ⟨⟨near, exact lastExact (by decide) near⟩, ⟨later, ordered _ _ later⟩,
    back 253402300799 (by decide) (by decide)⟩

-- From 2^34 seconds on, the last microsecond of a second is written as the next one.
example : (⟨2 ^ 34 * 1000000 + 999999, -5400000000, by decide, by decide⟩ : Moment).unixSeconds =
    2 ^ 34 + 1 := by
  decide +kernel

end PuppetRegistry.Moment
