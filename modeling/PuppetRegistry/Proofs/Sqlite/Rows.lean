import Mathlib.Data.List.Forall2
import PuppetRegistry.Sqlite.Table

/-!
# The rows of a user

A keyed table has one row for a user at most. Changing rows in place keeps the users, so it keeps
the table keyed and changes the row of a user where it stands.
-/

namespace PuppetRegistry.Sqlite.Table

/-- No two rows have the same user. Rows without a user do not count. -/
def Keyed (t : Table) : Prop :=
  ∀ c, c ≠ Cell.null → (t.map Row.user).count c ≤ 1

def rowsOf (user : String) (t : Table) : Table :=
  t.filter (ofUser (.text user))

theorem ofUser_text_iff {user : String} {r : Row} :
    ofUser (.text user) r = true ↔ r.user = .text user := by
  simp [ofUser]

theorem mem_rowsOf {user : String} {r : Row} {t : Table} :
    r ∈ rowsOf user t ↔ r ∈ t ∧ r.user = .text user := by
  rw [rowsOf, List.mem_filter, ofUser_text_iff]

theorem user_of_rowsOf {user : String} {r : Row} {t : Table} (only : rowsOf user t = [r]) :
    r.user = .text user :=
  (mem_rowsOf.mp (only ▸ List.mem_singleton_self r)).2

theorem length_rowsOf (user : String) (t : Table) :
    (rowsOf user t).length = (t.map Row.user).count (.text user) := by
  rw [rowsOf, ← List.countP_eq_length_filter, List.count, List.countP_map]
  apply List.countP_congr
  intro r _
  simp [ofUser]

theorem Keyed.rowsOf_eq {t : Table} (keyed : Keyed t) {user : String} {r : Row} (mem : r ∈ t)
    (own : r.user = .text user) : rowsOf user t = [r] := by
  have bound : (rowsOf user t).length ≤ 1 := by
    rw [length_rowsOf]
    exact keyed (.text user) (by simp)
  have held : r ∈ rowsOf user t := mem_rowsOf.mpr ⟨mem, own⟩
  have some_row := List.length_pos_of_mem held
  obtain ⟨r', only⟩ := List.length_eq_one_iff.mp (show (rowsOf user t).length = 1 by omega)
  rw [only] at held ⊢
  rw [List.mem_singleton.mp held]

theorem Keyed.rowsOf_cases {t : Table} (keyed : Keyed t) (user : String) :
    rowsOf user t = [] ∨ ∃ r, rowsOf user t = [r] := by
  cases held : rowsOf user t with
  | nil => exact .inl rfl
  | cons r rest =>
    obtain ⟨mem, own⟩ := mem_rowsOf.mp (held ▸ List.mem_cons_self)
    exact .inr ⟨r, held ▸ keyed.rowsOf_eq mem own⟩

theorem keyed_nil : Keyed [] := by
  intro c _
  simp

theorem keyed_of_users {t t' : Table} (keyed : Keyed t) (same : t'.map Row.user = t.map Row.user) :
    Keyed t' := by
  intro c hc
  rw [same]
  exact keyed c hc

theorem keyed_updateWhere {t : Table} (keyed : Keyed t) (picked : Row → Bool) {f : Row → Row}
    (hf : ∀ r, (f r).user = r.user) : Keyed (updateWhere picked f t).1 :=
  keyed_of_users keyed (users_updateWhere picked hf t)

theorem keyed_insert {t t' : Table} {r : Row} {n : Nat} (keyed : Keyed t)
    (done : insert r t = .ok (t', n)) : Keyed t' := by
  unfold insert at done
  split at done
  · cases done
  · rename_i free
    cases done
    intro c hc
    rw [List.map_append, List.count_append]
    by_cases same : r.user = c
    · have none_yet : (t.map Row.user).count c = 0 := by
        rw [List.count_eq_zero]
        intro mem
        obtain ⟨r', hr', hu⟩ := List.mem_map.mp mem
        apply free
        rw [List.any_eq_true]
        exact ⟨r', hr', by simp [ofUser, same, hc, hu]⟩
      simp [none_yet, same]
    · simpa [same] using keyed c hc

/-- A change in place of the rows that a condition picks, seen at the row of a user. -/
theorem rowsOf_updateWhere (user : String) (picked : Row → Bool) {f : Row → Row}
    (hf : ∀ r, (f r).user = r.user) (t : Table) :
    rowsOf user (updateWhere picked f t).1 =
      (rowsOf user t).map fun r => if picked r then f r else r := by
  rw [rowsOf, updateWhere, List.filter_map, rowsOf]
  congr 1
  apply List.filter_congr
  intro r _
  by_cases h : picked r
  · simp [Function.comp, h, ofUser, hf]
  · simp [Function.comp, h]

/-- Where only rows of one user are picked, so many of them are changed. -/
theorem snd_updateWhere {user : String} {picked : Row → Bool} (f : Row → Row) (t : Table)
    (own : ∀ r, picked r = true → r.user = .text user) :
    (updateWhere picked f t).2 = (rowsOf user t).countP picked := by
  rw [updateWhere, rowsOf, List.countP_filter]
  apply List.countP_congr
  intro r _
  constructor
  · intro h
    simp [h, ofUser_text_iff.mpr (own r h)]
  · intro h
    exact (Bool.and_eq_true_iff.mp h).1

/-- A change in place is a change of each row by itself. -/
theorem forall₂_updateWhere {related : Row → Row → Prop} {picked : Row → Bool} {f : Row → Row}
    (changed : ∀ r, picked r = true → related r (f r)) (kept : ∀ r, related r r) (t : Table) :
    List.Forall₂ related t (updateWhere picked f t).1 := by
  rw [updateWhere, List.forall₂_map_right_iff]
  refine List.forall₂_same.mpr fun r _ => ?_
  by_cases h : picked r
  · simpa [h] using changed r h
  · simpa [h] using kept r

theorem forall₂_trans {first second both : Row → Row → Prop}
    (compose : ∀ r r' r'', first r r' → second r' r'' → both r r'') {t t' t'' : Table}
    (one : List.Forall₂ first t t') (two : List.Forall₂ second t' t'') :
    List.Forall₂ both t t'' := by
  induction one generalizing t'' with
  | nil =>
    cases two
    exact .nil
  | cons head _ ih =>
    cases two with
    | cons head' tail' => exact .cons (compose _ _ _ head head') (ih tail')

end PuppetRegistry.Sqlite.Table
