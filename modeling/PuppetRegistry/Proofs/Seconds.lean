import PuppetRegistry.Proofs.Binary64.Truncation
import PuppetRegistry.Puppet.Row

/-!
# Stored seconds

A moment is less than 2^53 seconds away from 1970, so its second can be stored; a second that has
been read is written as it was. A stored second can be read again unless its moment is among the
last 15 microseconds of the calendar, or beyond it by its offset.
-/

namespace PuppetRegistry

namespace Moment

theorem natAbs_micros_lt (m : Moment) :
    m.micros.natAbs < microsPerSecond.toNat * 2 ^ 39 := by
  have near := m.nearUtc
  have range := m.inRange
  simp only [microsPerDay, firstSecond, endSecond, microsPerSecond] at near range ⊢
  omega

theorem small_micros (m : Moment) :
    m.micros.natAbs < microsPerSecond.toNat * 2 ^ Binary64.precision := by
  have near := m.natAbs_micros_lt
  have larger : 2 ^ 39 ≤ 2 ^ Binary64.precision := Nat.pow_le_pow_right (by decide) (by decide)
  exact Nat.lt_of_lt_of_le near (Nat.mul_le_mul_left _ larger)

theorem unixSeconds_eq (m : Moment) :
    m.unixSeconds =
      if m.micros < 0 then -(Binary64.roundedPart m.micros.natAbs microsPerSecond.toNat : Int)
      else Binary64.roundedPart m.micros.natAbs microsPerSecond.toNat := by
  rw [unixSeconds, Binary64.truncate_ofRatio _ (by decide) m.small_micros, Option.getD_some]
  simp only [decide_eq_true_eq]

theorem unixSeconds_bounds (m : Moment) : -(2 ^ 63) ≤ m.unixSeconds ∧ m.unixSeconds < 2 ^ 63 := by
  have le : Binary64.roundedPart m.micros.natAbs microsPerSecond.toNat ≤ _ :=
    Binary64.roundedPart_le (by decide)
  have near : m.micros.natAbs / microsPerSecond.toNat < 2 ^ 39 := by
    rw [Nat.div_lt_iff_lt_mul (by decide), Nat.mul_comm]
    exact m.natAbs_micros_lt
  rw [unixSeconds_eq]
  split
  · omega
  · omega

/-- Where a moment is whole seconds after 1970, these are stored. -/
theorem unixSeconds_of_whole {m : Moment} {s : Nat} (whole : m.micros = s * microsPerSecond) :
    m.unixSeconds = s := by
  have parts : m.micros.natAbs = s * microsPerSecond.toNat := by
    rw [whole, Int.natAbs_mul]
    rfl
  rw [unixSeconds_eq, parts, Binary64.roundedPart_mul s (by decide), if_neg]
  rw [whole, microsPerSecond]
  omega

/-- The double nearest to a number of seconds from 2^37 on is a multiple of 2^-15. -/
theorem halvings_late {n : Nat} (late : 2 ^ 37 * microsPerSecond.toNat ≤ n)
    (near : n < 2 ^ 38 * microsPerSecond.toNat) :
    Binary64.halvings n microsPerSecond.toNat = 15 := by
  simp only [microsPerSecond, Int.reduceToNat] at late near ⊢
  apply Binary64.halvings_eq
  · simp only [Binary64.precision]
    omega
  · simp only [Binary64.precision]
    omega
  · decide
  · decide

/-- The last 15 microseconds of the calendar are rounded up to its end. -/
theorem unixSeconds_lt_endSecond_iff (m : Moment) :
    m.unixSeconds < endSecond ↔ m.micros + 15 < endSecond * microsPerSecond := by
  have near := m.nearUtc
  have range := m.inRange
  rw [unixSeconds_eq]
  by_cases late : 0 ≤ m.micros ∧ 2 ^ 37 * microsPerSecond.toNat ≤ m.micros.natAbs
  · have halved : Binary64.halvings m.micros.natAbs microsPerSecond.toNat = 15 := by
      apply halvings_late late.2
      simp only [microsPerDay, endSecond, microsPerSecond] at near range ⊢
      omega
    have rounded : Binary64.roundHalfEven (m.micros.natAbs * 2 ^ 15) microsPerSecond.toNat <
        endSecond.toNat * 2 ^ 15 ↔
          2 * (m.micros.natAbs * 2 ^ 15) + microsPerSecond.toNat <
            2 * (endSecond.toNat * 2 ^ 15 * microsPerSecond.toNat) :=
      Binary64.roundHalfEven_lt_iff (by decide) (by decide)
    have below : Binary64.roundHalfEven (m.micros.natAbs * 2 ^ 15) microsPerSecond.toNat / 2 ^ 15 <
        endSecond.toNat ↔ _ := Nat.div_lt_iff_lt_mul (Nat.two_pow_pos 15)
    have cast : (endSecond.toNat : Int) = endSecond := rfl
    rw [if_neg (by omega), Binary64.roundedPart, halved, ← cast, Int.ofNat_lt, below, rounded, cast]
    simp only [endSecond, microsPerSecond, Int.reduceToNat]
    omega
  · have le : Binary64.roundedPart m.micros.natAbs microsPerSecond.toNat ≤ _ :=
      Binary64.roundedPart_le (by decide)
    have early : m.micros + 15 < endSecond * microsPerSecond := by
      simp only [microsPerSecond, endSecond] at late ⊢
      omega
    refine iff_of_true ?_ early
    simp only [microsPerSecond, endSecond, Int.reduceToNat] at late le ⊢
    split
    · omega
    · omega

theorem ofUnix?_eq_some {second : Int} {m : Moment} (read : ofUnix? second = .ok (some m)) :
    0 < second ∧ second < endSecond ∧ m.micros = second * microsPerSecond ∧ m.offset = 0 := by
  unfold ofUnix? at read
  split at read
  · cases read
  · split at read
    · rename_i range
      cases read
      exact ⟨range.1, range.2, rfl, rfl⟩
    · cases read

theorem unixSeconds_ofUnix? {second : Int} {m : Moment} (read : ofUnix? second = .ok (some m)) :
    m.unixSeconds = second := by
  obtain ⟨positive, _, whole, _⟩ := ofUnix?_eq_some read
  have cast : (second.toNat : Int) = second := Int.toNat_of_nonneg (by omega)
  rw [← cast] at whole ⊢
  exact unixSeconds_of_whole whole

theorem lt_endSecond_of_ofUnix? {second : Int} {sync : Option Moment}
    (read : ofUnix? second = .ok sync) : second < endSecond := by
  unfold ofUnix? at read
  split at read
  · rename_i early
    exact Int.lt_of_le_of_lt early (by decide)
  · split at read
    · rename_i range
      exact range.2
    · cases read

theorem ofUnix?_of_lt {second : Int} (bound : second < endSecond) :
    ∃ sync, ofUnix? second = .ok sync := by
  unfold ofUnix?
  split
  · exact ⟨_, rfl⟩
  · rw [dif_pos ⟨by omega, bound⟩]
    exact ⟨_, rfl⟩

end Moment

namespace Puppet

/-- The last sync as it is read back: its second, in UTC, or none for zero and below. -/
def normalSync (sync : Option Moment) : Option Moment :=
  match Moment.ofUnix? (syncSeconds sync) with
  | .ok sync => sync
  | .error _ => none

theorem readMoment_syncSeconds {sync : Option Moment} (bound : syncSeconds sync < endSecond) :
    readMoment (.int (syncSeconds sync)) = .ok (normalSync sync) := by
  obtain ⟨normal, read⟩ := Moment.ofUnix?_of_lt bound
  rw [normalSync, read]
  exact read

theorem normalSync_of_pos {sync : Moment} (bound : sync.unixSeconds < endSecond)
    (positive : 0 < sync.unixSeconds) :
    ∃ m, normalSync (some sync) = some m ∧
      m.micros = sync.unixSeconds * microsPerSecond ∧ m.offset = 0 := by
  have read : Moment.ofUnix? sync.unixSeconds = _ :=
    (if_neg (Int.not_le.mpr positive)).trans (dif_pos ⟨positive, bound⟩)
  obtain ⟨_, _, whole, utc⟩ := Moment.ofUnix?_eq_some read
  exact ⟨_, by rw [normalSync, syncSeconds, read], whole, utc⟩

theorem normalSync_of_nonpos {sync : Option Moment}
    (none_yet : ∀ m ∈ sync, m.unixSeconds ≤ 0) : normalSync sync = none := by
  have early : syncSeconds sync ≤ 0 := by
    cases sync with
    | none => exact Int.le_refl 0
    | some m => exact none_yet m rfl
  have read : Moment.ofUnix? (syncSeconds sync) = .ok none := if_pos early
  rw [normalSync, read]

theorem syncSeconds_lt_iff {sync : Option Moment} :
    syncSeconds sync < endSecond ↔ ∀ m ∈ sync, m.unixSeconds < endSecond := by
  cases sync with
  | none => exact iff_of_true (by decide) fun _ held => nomatch held
  | some m => exact ⟨fun bound _ held => Option.some.inj held ▸ bound, fun bound => bound m rfl⟩

/-- What has been read is below the end of the calendar, and read back as it is. -/
theorem normalSync_of_read {second : Int} {sync : Option Moment}
    (read : Moment.ofUnix? second = .ok sync) :
    syncSeconds sync < endSecond ∧ normalSync sync = sync := by
  cases sync with
  | none => exact ⟨by decide, rfl⟩
  | some m =>
    have same := Moment.unixSeconds_ofUnix? read
    rw [normalSync, syncSeconds, same, read]
    exact ⟨(Moment.ofUnix?_eq_some read).2.1, rfl⟩

/-- The last sync of a puppet, if it has one, is before the last 15 microseconds of the calendar. -/
def Storable (p : Puppet) : Prop :=
  ∀ m, p.lastSync = some m → m.micros + 15 < endSecond * microsPerSecond

theorem Storable.syncSeconds_lt {p : Puppet} (storable : p.Storable) :
    syncSeconds p.lastSync < endSecond :=
  syncSeconds_lt_iff.mpr fun m held => m.unixSeconds_lt_endSecond_iff.mpr (storable m held)

theorem syncSeconds_bounds (sync : Option Moment) :
    -(2 ^ 63) ≤ syncSeconds sync ∧ syncSeconds sync < 2 ^ 63 := by
  cases sync with
  | none => decide
  | some m => exact m.unixSeconds_bounds

end Puppet

end PuppetRegistry
