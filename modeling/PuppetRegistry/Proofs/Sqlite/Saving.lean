import PuppetRegistry.Proofs.Puppet.Normal
import PuppetRegistry.Proofs.Sqlite.Ready

/-!
# Puppets saved in a ready file

A puppet can always be bound to the statement that overwrites its profile, and to the one that adds
its row unless its activity is out of range. What the two statements do to a ready file.
-/

namespace PuppetRegistry.Sqlite.File

variable {f : File} {t : Table} {p : Puppet}

theorem fitsInteger_of_bounds {i : Int} (bounds : -(2 ^ 63) ≤ i ∧ i < 2 ^ 63) :
    fitsInteger i = true := by
  simp only [fitsInteger, Bool.and_eq_true, decide_eq_true_eq]
  exact bounds

theorem binds_ofIntOrNull {i : Int} (fits : fitsInteger i = true) : Binds (.ofIntOrNull i) := by
  unfold Cell.ofIntOrNull
  split
  · exact rfl
  · exact binds_int fits

theorem binds_update (p : Puppet) : ∀ c ∈ (Statement.update p.toRow).arguments, Binds c := by
  have quality := binds_int (fitsInteger_of_bounds (Puppet.clampQuality_bounds p.nameQuality))
  have sync := binds_int (fitsInteger_of_bounds (Puppet.syncSeconds_bounds p.lastSync))
  simp only [Statement.arguments, Puppet.toRow, List.forall_mem_cons, binds_text, binds_bool,
    true_and]
  exact ⟨quality, sync, fun _ none => by cases none⟩

theorem binds_insert {p : Puppet} (first : fitsInteger p.firstActivity = true)
    (last : fitsInteger p.lastActivity = true) :
    ∀ c ∈ (Statement.insert p.toRow).arguments, Binds c := by
  have quality := binds_int (fitsInteger_of_bounds (Puppet.clampQuality_bounds p.nameQuality))
  have sync := binds_int (fitsInteger_of_bounds (Puppet.syncSeconds_bounds p.lastSync))
  simp only [Statement.arguments, Puppet.toRow, List.forall_mem_cons, binds_text, binds_bool,
    true_and]
  exact ⟨quality, sync, binds_ofIntOrNull first, binds_ofIntOrNull last,
    fun _ none => by cases none⟩

theorem Ready.update (ready : f.Ready t) {r : Row} (only : t.rowsOf p.remoteId.user = [r]) :
    ∃ t', handle.execute (.update p.toRow) f = (.ok 1, f.withTable t') ∧
      (f.withTable t').Ready t' ∧
      t'.rowsOf p.remoteId.user = [Table.withProfile (storedRow p) r] := by
  have own := Table.ofUser_text_iff.mpr (Table.user_of_rowsOf only)
  have moved := ready.execute_updateWhere only (s := .update p.toRow) rfl rfl (binds_update p) rfl
    (fun _ => rfl) (fun _ picked => Table.ofUser_text_iff.mp picked)
  have picked : Table.ofUser (convertRow (bindRow p.toRow)).user r = true := own
  simpa only [picked, if_true, storedRow] using moved

theorem any_ofUser_storedRow (p : Puppet) (t : Table) :
    t.any (Table.ofUser (storedRow p).user) = true ↔ t.rowsOf p.remoteId.user ≠ [] := by
  rw [Table.rowsOf, ne_eq, List.filter_eq_nil_iff, List.any_eq_true]
  simp only [Classical.not_forall, Classical.not_not, exists_prop]
  exact Iff.rfl

theorem Ready.insert_eq (ready : f.Ready t) (free : t.rowsOf p.remoteId.user = [])
    (first : fitsInteger p.firstActivity = true) (last : fitsInteger p.lastActivity = true) :
    handle.execute (.insert p.toRow) f = (.ok 1, f.withTable (t ++ [storedRow p])) ∧
      (f.withTable (t ++ [storedRow p])).Ready (t ++ [storedRow p]) ∧
      Table.rowsOf p.remoteId.user (t ++ [storedRow p]) = [storedRow p] := by
  have does : writeRows (.insert p.toRow) t = .ok (t ++ [storedRow p], 1) :=
    if_neg fun taken => (any_ofUser_storedRow p t).mp taken free
  refine ⟨?_, ready.with (Table.keyed_insert ready.keyed does), ?_⟩
  · exact ready.execute_eq rfl rfl (binds_insert first last) does
  · have own : Table.ofUser (.text p.remoteId.user) (storedRow p) = true :=
      Table.ofUser_text_iff.mpr rfl
    rw [Table.rowsOf, List.filter_append, ← Table.rowsOf, free, List.nil_append,
      List.filter_singleton, own]
    rfl

theorem Ready.insert (ready : f.Ready t) (free : t.rowsOf p.remoteId.user = [])
    (first : fitsInteger p.firstActivity = true) (last : fitsInteger p.lastActivity = true) :
    ∃ t', handle.execute (.insert p.toRow) f = (.ok 1, f.withTable t') ∧
      (f.withTable t').Ready t' ∧ t'.rowsOf p.remoteId.user = [storedRow p] :=
  ⟨_, ready.insert_eq free first last⟩

/-- The row of a user is not added a second time. -/
theorem Ready.insert_taken (ready : f.Ready t) (taken : t.rowsOf p.remoteId.user ≠ [])
    (first : fitsInteger p.firstActivity = true) (last : fitsInteger p.lastActivity = true) :
    handle.execute (.insert p.toRow) f = (.error (.storage (.sqlite .statement .userTaken)), f) := by
  have refused : writeRows (.insert p.toRow) t = .error .userTaken :=
    if_pos ((any_ofUser_storedRow p t).mpr taken)
  simp only [handle, handleWith, execute, ready.effect_write rfl rfl (binds_insert first last),
    refused, Refusal.fault]

end PuppetRegistry.Sqlite.File
