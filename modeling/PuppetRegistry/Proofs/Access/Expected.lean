import PuppetRegistry.Proofs.Access.Calls
import PuppetRegistry.Proofs.Access.Finding
import PuppetRegistry.Proofs.Activity.Stretches

/-!
# Expected answers

A store error is the failure that callers of a store expect; any other fault passes through them. A
lookup adds no other fault to the reply of its store, since a row that cannot be read is a store
error. Recording activity does: the second that it reads back may not be a whole number. Main
statement: recording activity comes to a value or a store error exactly if the replies to its
statements do, and the second that is read back is a whole number.
-/

namespace PuppetRegistry.Access

/-- There is an answer, or a failure that callers of a store expect. -/
def Expected {α : Type} : Except Fault α → Prop
  | .ok _ | .error (.storage _) => True
  | .error _ => False

theorem expected_map {α β : Type} (reply : Except Fault α) (g : α → β) :
    Expected (reply.map g) ↔ Expected reply := by
  rcases reply with fault | a
  · cases fault <;> exact Iff.rfl
  · exact Iff.rfl

theorem expected_bind {α β : Type} {reply : Except Fault α} {g : α → Except Fault β}
    (first : Expected reply) (next : ∀ a, Expected (g a)) : Expected (reply.bind g) := by
  rcases reply with fault | a
  · cases fault with
    | storage => trivial
    | conversion | integerTooLarge | sqlite | schemaTooNew | reported => exact first
  · exact next a

theorem expected_of_storage {α : Type} {reply : Except Fault α}
    (storage : ∀ fault, reply = .error fault → ∃ e, fault = .storage e) : Expected reply := by
  rcases reply with fault | a
  · obtain ⟨e, rfl⟩ := storage fault rfl
    trivial
  · trivial

section

open Program

variable {σ μ : Type} {h : Handle σ} {s : σ} {m : μ} {p : Puppet} {server user : String}
  {statement : Statement} {second : Int} {last first : Option StoreError}

/-! ## Lookups and profiles -/

theorem expected_first (replied : Expected (h.row statement s).1) :
    Expected ((Lookup.first server statement : Program μ _).run h s m).result := by
  rw [run_first rfl]
  refine expected_bind replied fun found => ?_
  cases found with
  | none => trivial
  | some cells =>
    rw [expected_map]
    exact expected_of_storage fun _ => storage_of_decode

theorem expected_every (replied : Expected (h.rows statement s).1) :
    Expected ((Lookup.every server statement : Program μ _).run h s m).result := by
  rw [run_every rfl]
  exact expected_bind replied fun found =>
    expected_of_storage fun _ => storage_of_mapM_decode

theorem run_insert_foreign (foreign : p.remoteId.server ≠ server) :
    (Puppet.insert server).run h s p = ⟨.ok false, s, p, [.notInserting p.remoteId]⟩ := by
  simp only [Puppet.insert, Puppet.insertRow, record, bind_eq, Program.bind, run, if_pos foreign,
    report, pure_eq]

theorem run_insert (own : p.remoteId.server = server) :
    (Puppet.insert server).run h s p =
      ⟨(h.execute (.insert p.toRow) s).1.map fun _ => true, (h.execute (.insert p.toRow) s).2, p,
        []⟩ := by
  simp only [Puppet.insert, Puppet.insertRow, record, bind_eq, Program.bind, run, own, ne_eq,
    not_true_eq_false, if_false, perform, pure_eq]
  cases (h.execute (.insert p.toRow) s).1 <;> rfl

/-! ## Recording activity -/

theorem expected_conclude : Expected ((Puppet.conclude last first).run h s p).result := by
  unfold Puppet.conclude
  split <;> trivial

def readBackOf (reply : Except Fault (Option (List Cell))) : Except Fault (Option Int) :=
  reply.bind fun found => (Puppet.readBack found).mapError .conversion

theorem expected_afterReadBack_iff (reply : Except Fault (Option (List Cell))) :
    Expected ((Puppet.afterReadBack last reply).run h s p).result ↔ Expected (readBackOf reply) := by
  rcases reply with fault | found
  · cases fault with
    | storage => exact iff_of_true expected_conclude trivial
    | conversion | integerTooLarge | sqlite | schemaTooNew | reported => exact Iff.rfl
  · simp only [Puppet.afterReadBack, readBackOf, Except.bind]
    rcases Puppet.readBack found with error | _ | stored
    · exact Iff.rfl
    · exact iff_of_true expected_conclude trivial
    · exact iff_of_true expected_conclude trivial

theorem expected_afterClaim_iff (reply : Except Fault Int) :
    Expected ((Puppet.afterClaim last reply).run h s p).result ↔
      Expected reply ∧ (reply = .ok 0 →
        Expected (readBackOf (h.row (.selectFirstActivity p.remoteId.user) s).1)) := by
  rcases reply with fault | n
  · cases fault with
    | storage => exact iff_of_true expected_conclude ⟨trivial, nofun⟩
    | conversion | integerTooLarge | sqlite | schemaTooNew | reported =>
      exact iff_of_false id fun stopped => stopped.1
  · by_cases lost : n = 0
    · subst lost
      simp only [Puppet.afterClaim, ne_eq, not_true_eq_false, if_false, run,
        expected_afterReadBack_iff]
      exact ⟨fun back => ⟨trivial, fun _ => back⟩, fun both => both.2 trivial⟩
    · simp only [Puppet.afterClaim, ne_eq, lost, not_false_eq_true, if_true]
      exact iff_of_true expected_conclude ⟨trivial, fun same => absurd (Except.ok.inj same) lost⟩

/-- The claim of a first second goes well, and so does the reading back where it was lost. -/
def ClaimExpected (h : Handle σ) (second : Int) (user : String) (s : σ) : Prop :=
  Expected (h.execute (.claimFirst second user) s).1 ∧
    ((h.execute (.claimFirst second user) s).1 = .ok 0 →
      Expected (readBackOf
        (h.row (.selectFirstActivity user) (h.execute (.claimFirst second user) s).2).1))

theorem expected_claimUnlessKnown_iff :
    Expected ((Puppet.claimUnlessKnown second last).run h s p).result ↔
      (p.firstActivity = 0 → ClaimExpected h second p.remoteId.user s) := by
  simp only [Puppet.claimUnlessKnown, run]
  by_cases unknown : p.firstActivity = 0
  · simp only [if_pos unknown, run, expected_afterClaim_iff]
    exact ⟨fun claimed _ => claimed, fun claimed => claimed unknown⟩
  · rw [if_neg unknown]
    exact iff_of_true expected_conclude fun known => absurd known unknown

theorem expected_afterLast_iff (reply : Except Fault Int) :
    Expected ((Puppet.afterLast second reply).run h s p).result ↔
      Expected reply ∧ (p.firstActivity = 0 → ClaimExpected h second p.remoteId.user s) := by
  rcases reply with fault | n
  · cases fault with
    | storage =>
      exact expected_claimUnlessKnown_iff.trans (and_iff_right trivial).symm
    | conversion | integerTooLarge | sqlite | schemaTooNew | reported =>
      exact iff_of_false id fun stopped => stopped.1
  · exact expected_claimUnlessKnown_iff.trans (and_iff_right trivial).symm

/-- The recording of activity stops at the first reply that is not expected. -/
theorem expected_recordActivity_iff (h : Handle σ) (s : σ) (p : Puppet) (second : Int) :
    Expected ((Puppet.recordActivity second).run h s p).result ↔
      (p.lastActivity < second →
        Expected (h.execute (.advanceLast second p.remoteId.user) s).1 ∧
          (p.firstActivity = 0 → ClaimExpected h second p.remoteId.user
            (h.execute (.advanceLast second p.remoteId.user) s).2)) := by
  rw [Puppet.recordActivity_eq]
  simp only [run]
  by_cases old : second ≤ p.lastActivity
  · rw [if_pos old]
    exact iff_of_true trivial fun later => absurd later (Int.not_lt.mpr old)
  · rw [if_neg old]
    simp only [run, expected_afterLast_iff]
    exact ⟨fun both _ => both, fun both => both (Int.not_le.mp old)⟩

end

end PuppetRegistry.Access
