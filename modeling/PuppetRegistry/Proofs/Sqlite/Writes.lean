import PuppetRegistry.Proofs.Sqlite.Ready

/-!
# What statements make of rows

A statement of the registry adds one row, or changes rows where they stand and keeps their users, or
changes nothing; and no statement at all gives a user a second row. What a ready file answers to
lookups.
-/

namespace PuppetRegistry.Sqlite

variable {s : Statement} {t t' : Table} {n : Nat}

/-- What a statement makes of a row that is there. -/
inductive Makes : Statement → Row → Row → Prop
  | same {s r} : Makes s r r
  | profile {values r} :
    Makes (.update values) r (Table.withProfile (convertRow (bindRow values)) r)
  | last {second user r} : Makes (.advanceLast second user) r { r with lastActivity := .int second }
  | first {second user r} : Makes (.claimFirst second user) r { r with firstActivity := .int second }

theorem Makes.user_eq {r r' : Row} (makes : Makes s r r') : r'.user = r.user := by
  cases makes with
  | same | profile | last | first => rfl

namespace Table

theorem mem_updateWhere {picked : Row → Bool} {f : Row → Row} {r' : Row}
    (mem : r' ∈ (updateWhere picked f t).1) : ∃ r ∈ t, r' = r ∨ r' = f r := by
  obtain ⟨r, held, rfl⟩ := List.mem_map.mp mem
  refine ⟨r, held, ?_⟩
  by_cases h : picked r
  · exact .inr (if_pos h)
  · exact .inl (if_neg h)

theorem mem_insert {r r' : Row} (done : insert r t = .ok (t', n)) (mem : r' ∈ t') :
    r' ∈ t ∨ r' = r := by
  unfold insert at done
  split at done
  · cases done
  · cases done
    simpa using mem

theorem keyed_filter (keyed : t.Keyed) (kept : Row → Bool) : Keyed (t.filter kept) := by
  intro c hc
  have fewer : List.Sublist ((t.filter kept).map Row.user) (t.map Row.user) :=
    List.filter_sublist.map Row.user
  exact Nat.le_trans (fewer.count_le c) (keyed c hc)

end Table

/-- Each row after a statement of the registry has been added by it, or is made of one before. -/
theorem mem_writeRows (fixed : ∀ sql arguments, s ≠ .free sql arguments)
    (wrote : writeRows s t = .ok (t', n)) {r' : Row} (mem : r' ∈ t') :
    (∃ r ∈ t, Makes s r r') ∨ ∃ values, s = .insert values ∧ r' = convertRow (bindRow values) := by
  cases s with
  | selectAll | selectUser | selectLinkedTo | selectLinked | selectFirstActivity =>
    cases wrote
    exact .inl ⟨r', mem, .same⟩
  | insert values =>
    rcases Table.mem_insert wrote mem with held | rfl
    · exact .inl ⟨r', held, .same⟩
    · exact .inr ⟨values, rfl, rfl⟩
  | update values =>
    cases wrote
    obtain ⟨r, held, rfl | rfl⟩ := Table.mem_updateWhere mem
    · exact .inl ⟨_, held, .same⟩
    · exact .inl ⟨_, held, .profile⟩
  | advanceLast second user =>
    cases wrote
    obtain ⟨r, held, rfl | rfl⟩ := Table.mem_updateWhere mem
    · exact .inl ⟨_, held, .same⟩
    · exact .inl ⟨_, held, .last⟩
  | claimFirst second user =>
    cases wrote
    obtain ⟨r, held, rfl | rfl⟩ := Table.mem_updateWhere mem
    · exact .inl ⟨_, held, .same⟩
    · exact .inl ⟨_, held, .first⟩
  | free sql arguments => exact absurd rfl (fixed sql arguments)

theorem keyed_writeRows (keyed : t.Keyed) (wrote : writeRows s t = .ok (t', n)) : t'.Keyed := by
  cases s with
  | selectAll | selectUser | selectLinkedTo | selectLinked | selectFirstActivity =>
    cases wrote
    exact keyed
  | insert values => exact Table.keyed_insert keyed wrote
  | update | advanceLast | claimFirst =>
    cases wrote
    exact Table.keyed_updateWhere keyed _ fun _ => rfl
  | free sql arguments =>
    simp only [writeRows] at wrote
    split at wrote
    · rename_i free _
      cases free with
      | setAvatar =>
        cases wrote
        refine Table.keyed_updateWhere keyed _ fun r => ?_
        obtain ⟨_, same⟩ := assign_avatar r
        rw [same]
      | deleteUser =>
        cases wrote
        exact Table.keyed_filter keyed _
      | insertUser => exact Table.keyed_insert keyed wrote
    · cases wrote
      exact keyed

namespace File

variable {f f' : File}

/-- A ready file stays ready, with the table that the statement makes of its own if it does. -/
theorem Ready.moved (ready : f.Ready t) (moves : handle.Moves s f f') :
    ∃ t', f'.Ready t' ∧ (t' = t ∨ ∃ n, writeRows s t = .ok (t', n)) := by
  rcases handle_moves moves with rfl | ⟨t₁, t', n, held, wrote, rfl⟩
  · exact ⟨t, ready, .inl rfl⟩
  · obtain rfl : t₁ = t := Option.some.inj (held.symm.trans ready.table)
    exact ⟨t', ready.with (keyed_writeRows ready.keyed wrote), .inr ⟨n, wrote⟩⟩

/-! ## Lookups -/

theorem Ready.rows_eq (ready : f.Ready t) (reads : Command.ofStatement s = .ok .read) :
    handle.rows s f = (.ok (readRows s t), f) := by
  simp [handle, handleWith, rows, effect_read ready.open_eq reads]

theorem Ready.selectAll (ready : f.Ready t) :
    handle.rows .selectAll f = (.ok (t.map Row.cells), f) :=
  ready.rows_eq rfl

theorem Ready.selectLinked (ready : f.Ready t) :
    handle.rows .selectLinked f = (.ok ((t.filter Table.isLinked).map Row.cells), f) :=
  ready.rows_eq rfl

theorem Ready.selectLinkedTo (ready : f.Ready t) (id : String) :
    handle.row (.selectLinkedTo id) f =
      (.ok ((t.filter fun r => r.linkedUser == .text id).head?.map Row.cells), f) := by
  rw [ready.row_eq rfl, readRows, List.head?_map]

end File

end PuppetRegistry.Sqlite
