import PuppetRegistry.Proofs.Access.Creation
import PuppetRegistry.Proofs.Sqlite.Legible

/-!
# Dealings with different users

A statement about a user is answered from the rows of the user and changes no others, so what is
done with two users can be done in either order. Main statement: inserting, updating, recording
activity and reading leave the rows of others alone, and of two of them with different users each
comes to the same whether it goes first or second, and the table has the same rows in the end.
-/

namespace PuppetRegistry.Sqlite

open Program

variable {s : Statement} {t t' : Table} {n : Nat} {user other : String} {rights : Rights}

/-! ## Tables -/

namespace Table

def without (user : String) (t : Table) : Table :=
  t.filter fun r => !ofUser (.text user) r

theorem without_updateWhere {picked : Row → Bool} {f : Row → Row}
    (keeps : ∀ r, (f r).user = r.user) (own : ∀ r, picked r = true → r.user = .text user)
    (t : Table) : without user (updateWhere picked f t).1 = without user t := by
  rw [without, updateWhere, List.filter_map, without]
  have same : ∀ r ∈ t,
      ((fun r => !ofUser (.text user) r) ∘ fun r => if picked r then f r else r) r =
        !ofUser (.text user) r := by
    intro r _
    by_cases h : picked r
    · simp [h, ofUser, keeps]
    · simp [h]
  rw [List.filter_congr same]
  conv => rhs; rw [← List.map_id (t.filter _)]
  apply List.map_congr_left
  intro r mem
  have spared : ¬ picked r = true := by
    intro h
    simpa [ofUser_text_iff.mpr (own r h)] using (List.mem_filter.mp mem).2
  exact if_neg spared

theorem rowsOf_without (different : user ≠ other) (t : Table) :
    rowsOf user (without other t) = rowsOf user t := by
  rw [rowsOf, without, List.filter_filter, rowsOf]
  apply List.filter_congr
  intro r _
  by_cases mine : ofUser (.text user) r = true
  · have notOther : ¬ ofUser (.text other) r = true := by
      rw [ofUser_text_iff] at mine ⊢
      rw [mine]
      exact fun same => different (Cell.text.inj same)
    simp [mine, notOther]
  · simp [mine]

theorem without_comm (t : Table) :
    without user (without other t) = without other (without user t) :=
  List.filter_comm _ _ t

/-- A table is its rows of one user, those of another, and the rest. -/
theorem perm_parts (different : user ≠ other) (t : Table) :
    t.Perm (rowsOf user t ++ (rowsOf other t ++ without other (without user t))) := by
  have first : (rowsOf user t ++ without user t).Perm t := List.filter_append_perm _ t
  have second : (rowsOf other (without user t) ++ without other (without user t)).Perm
      (without user t) := List.filter_append_perm _ _
  rw [rowsOf_without different.symm] at second
  exact first.symm.trans (second.symm.append_left _)

theorem updateWhere_rowsOf {picked : Row → Bool} {f : Row → Row}
    (keeps : ∀ r, (f r).user = r.user) (own : ∀ r, picked r = true → r.user = .text user)
    (t : Table) :
    updateWhere picked f (rowsOf user t) =
      (rowsOf user (updateWhere picked f t).1, (updateWhere picked f t).2) := by
  rw [rowsOf_updateWhere user picked keeps, snd_updateWhere f t own, updateWhere]

theorem insert_rowsOf {r : Row} (own : r.user = .text user) (t : Table) :
    insert r (rowsOf user t) =
      (insert r t).map fun after => (rowsOf user after.1, after.2) := by
  have taken : (rowsOf user t).any (ofUser r.user) = t.any (ofUser r.user) := by
    rw [rowsOf, List.any_filter, own]
    simp only [Bool.and_self]
  rw [insert, insert, taken]
  split
  · rfl
  · simp only [Except.map, rowsOf, List.filter_append]
    rw [List.filter_singleton, ofUser_text_iff.mpr own]
    rfl

theorem without_insert {r : Row} (own : r.user = .text user)
    (done : insert r t = .ok (t', n)) : without user t' = without user t := by
  unfold insert at done
  split at done
  · cases done
  · cases done
    simp [without, ofUser_text_iff.mpr own]

end Table

/-! ## Statements about a user -/

/-- A statement that reads or writes the rows of one user. -/
def Concerns (user : String) : Statement → Prop
  | .selectUser name | .selectFirstActivity name | .advanceLast _ name | .claimFirst _ name =>
    name = user
  | .insert values | .update values => values.user = .text user
  | .selectAll | .selectLinked | .selectLinkedTo _ | .free _ _ => False

theorem Concerns.readRows_rowsOf (concerns : Concerns user s) (t : Table) :
    readRows s (t.rowsOf user) = readRows s t := by
  cases s with
  | selectUser | selectFirstActivity =>
    cases concerns
    simp [readRows, Table.rowsOf]
  | insert | update | advanceLast | claimFirst => rfl
  | selectAll | selectLinked | selectLinkedTo | free => cases concerns

/-- A statement about a user changes nothing, or adds a row of the user, or changes rows of the user
in place. -/
theorem Concerns.writes (concerns : Concerns user s) :
    (∀ t, writeRows s t = .ok (t, 0)) ∨
    (∃ r : Row, r.user = .text user ∧ ∀ t, writeRows s t = Table.insert r t) ∨
    ∃ (picked : Row → Bool) (f : Row → Row), (∀ r, (f r).user = r.user) ∧
      (∀ r, picked r = true → r.user = .text user) ∧
      ∀ t, writeRows s t = .ok (Table.updateWhere picked f t) := by
  cases s with
  | selectUser | selectFirstActivity => exact .inl fun _ => rfl
  | insert values => exact .inr (.inl ⟨_, user_convertRow concerns, fun _ => rfl⟩)
  | update values =>
    refine .inr (.inr ⟨_, _, ?_, fun r picked => ?_, fun _ => rfl⟩)
    · exact fun _ => rfl
    · rw [user_convertRow concerns] at picked
      exact Table.ofUser_text_iff.mp picked
  | advanceLast | claimFirst =>
    cases concerns
    refine .inr (.inr ⟨_, _, ?_, fun r picked => ?_, fun _ => rfl⟩)
    · exact fun _ => rfl
    · exact Table.ofUser_text_iff.mp (Bool.and_eq_true_iff.mp picked).1
  | selectAll | selectLinked | selectLinkedTo | free => cases concerns

theorem Concerns.command (concerns : Concerns user s) :
    Command.ofStatement s = .ok .read ∨ Command.ofStatement s = .ok .write := by
  cases s with
  | selectUser | selectFirstActivity => exact .inl rfl
  | insert | update | advanceLast | claimFirst => exact .inr rfl
  | selectAll | selectLinked | selectLinkedTo | free => cases concerns

/-- The rows of the user, by themselves, become what they become in the table. -/
theorem Concerns.writeRows_rowsOf (concerns : Concerns user s) (t : Table) :
    writeRows s (t.rowsOf user) =
      (writeRows s t).map fun after => (after.1.rowsOf user, after.2) := by
  rcases concerns.writes with nothing | ⟨r, own, adds⟩ | ⟨picked, f, keeps, own, changes⟩
  · rw [nothing, nothing]
    rfl
  · rw [adds, adds, Table.insert_rowsOf own]
  · rw [changes, changes, Table.updateWhere_rowsOf keeps own]
    rfl

theorem Concerns.without_writeRows (concerns : Concerns user s)
    (wrote : writeRows s t = .ok (t', n)) : t'.without user = t.without user := by
  rcases concerns.writes with nothing | ⟨r, own, adds⟩ | ⟨picked, f, keeps, own, changes⟩
  · rw [nothing] at wrote
    cases wrote
    rfl
  · rw [adds] at wrote
    exact Table.without_insert own wrote
  · rw [changes] at wrote
    cases wrote
    exact Table.without_updateWhere keeps own t

/-! ## Files -/

namespace File

variable {f f' : File}

def ofUser (user : String) (f : File) : File :=
  { f with table := f.table.map (Table.rowsOf user) }

def without (user : String) (f : File) : File :=
  { f with table := f.table.map (Table.without user) }

theorem ofUser_without (different : user ≠ other) (f : File) :
    (f.without other).ofUser user = f.ofUser user := by
  simp only [ofUser, without, Option.map_map]
  congr 2
  funext t
  exact Table.rowsOf_without different t

theorem without_comm (f : File) :
    (f.without user).without other = (f.without other).without user := by
  simp only [without, Option.map_map]
  congr 2
  funext t
  exact Table.without_comm t

theorem open?_ofUser (user : String) (f : File) :
    (f.ofUser user).open? = f.open?.map (Table.rowsOf user) := by
  unfold open? ofUser
  cases f.damaged with
  | true => rfl
  | false => cases f.table <;> rfl

/-- A statement about a user has the same effect on the rows of the user, by themselves. -/
theorem effect_ofUser (concerns : Concerns user s) (rights : Rights) (f : File) :
    (f.ofUser user).effect rights s =
      (f.effect rights s).map fun e => ⟨e.rows, e.changed, e.table.map (Table.rowsOf user)⟩ := by
  rcases concerns.command with reads | writes
  · simp only [effect_eq, reads, open?_ofUser]
    cases f.open? with
    | error => rfl
    | ok t =>
      simp only [Except.map, Except.mapError, concerns.readRows_rowsOf, Bind.bind, Except.bind]
      cases bindAll (places s .read) s.arguments <;> rfl
  · simp only [effect_eq, writes, open?_ofUser]
    cases f.open? with
    | error => rfl
    | ok t =>
      simp only [Except.map, Except.mapError, concerns.writeRows_rowsOf, Bind.bind, Except.bind]
      cases bindAll (places s .write) s.arguments with
      | error => rfl
      | ok =>
        have same : (f.ofUser user).permit rights = f.permit rights := rfl
        rw [same]
        cases f.permit rights with
        | error => rfl
        | ok => cases writeRows s t <;> rfl

theorem projects_ofUser (concerns : Concerns user s) (rights : Rights) :
    Projects (ofUser user) (handleWith rights) (handleWith rights) s where
  rows f := by
    simp only [handleWith, rows, effect_ofUser concerns]
    cases f.effect rights s <;> rfl
  row f := by
    simp only [handleWith, row, effect_ofUser concerns]
    cases f.effect rights s <;> rfl
  execute f := by
    simp only [handleWith, execute, effect_ofUser concerns]
    cases f.effect rights s <;> rfl

theorem without_moves (concerns : Concerns user s) (moves : (handleWith rights).Moves s f f') :
    f'.without user = f.without user := by
  rcases handle_moves moves with rfl | ⟨t, t', n, held, wrote, rfl⟩
  · rfl
  · simp only [without, withTable, held, Option.map_some, concerns.without_writeRows wrote]

/-- Two files are the same but for the order of their rows. -/
structure SameRows (f f' : File) : Prop where
  rows : Option.Rel List.Perm f.table f'.table
  rest : { f with table := none } = { f' with table := none }

theorem sameRows_of_parts (different : user ≠ other) (one : f.ofUser user = f'.ofUser user)
    (two : f.ofUser other = f'.ofUser other)
    (rest : (f.without user).without other = (f'.without user).without other) :
    SameRows f f' := by
  refine ⟨?_, congrArg (fun f : File => { f with table := none }) rest⟩
  have mine := congrArg File.table one
  have theirs := congrArg File.table two
  have nobodys := congrArg File.table rest
  simp only [ofUser, without, Option.map_map] at mine theirs nobodys
  cases held : f.table with
  | none =>
    cases held' : f'.table with
    | none => exact .none
    | some t' =>
      rw [held, held'] at mine
      cases mine
  | some t =>
    cases held' : f'.table with
    | none =>
      rw [held, held'] at mine
      cases mine
    | some t' =>
      rw [held, held'] at mine theirs nobodys
      have others : Table.without other (Table.without user t) =
          Table.without other (Table.without user t') := Option.some.inj nobodys
      have parts := Table.perm_parts different t
      rw [Option.some.inj mine, Option.some.inj theirs, others] at parts
      exact .some (parts.trans (Table.perm_parts different t').symm)

end File

/-! ## Dealings -/

/-- Two runs answer the same, leave the same record behind and report the same. -/
structure SameOutcome {σ μ α : Type} (x y : Run σ μ α) : Prop where
  result : x.result = y.result
  record : x.record = y.record
  events : x.events = y.events

/-- What is done with the row of one user. -/
inductive Dealing
  | insert (server : String)
  | update
  | recordActivity (second : Cell)
  | get (server : String) (id : RemoteId)

namespace Dealing

def program : Dealing → Program Puppet (Bool ⊕ Option Puppet)
  | insert server => .inl <$> Puppet.insert server
  | update => .inl <$> Puppet.update
  | recordActivity second => .inl <$> Puppet.recordActivityCell second
  | get server id => .inr <$> Lookup.byId server id

def about (d : Dealing) (p : Puppet) : String :=
  match d with
  | insert _ | update | recordActivity _ => p.remoteId.user
  | get _ id => id.user

def runOn (rights : Rights) (d : Dealing) (f : File) (p : Puppet) :
    Run File Puppet (Bool ⊕ Option Puppet) :=
  d.program.run (File.handleWith rights) f p

/-- Whatever the replies are, a dealing with a user issues statements about that user only. -/
theorem within (d : Dealing) (p : Puppet) :
    ∃ good, good p ∧ d.program.Within good (Concerns (d.about p)) := by
  cases d with
  | insert server =>
    refine ⟨(· = p), rfl, ((within_insert server p).mono ?_).map _⟩
    rintro _ rfl
    rfl
  | update =>
    refine ⟨(· = p), rfl, ((within_update p).mono ?_).map _⟩
    rintro _ rfl
    rfl
  | recordActivity second =>
    have counted (i : Int) : (Puppet.recordActivity i).Within (Activity.Owns p.remoteId.user)
        (Concerns p.remoteId.user) := by
      refine Activity.within_recordActivity.mono ?_
      rintro s (rfl | rfl | rfl)
      · rfl
      · rfl
      · rfl
    exact ⟨Activity.Owns p.remoteId.user, rfl, ((within_ofExcept _).bind counted).map _⟩
  | get server id =>
    have reads : Concerns id.user (.selectUser id.user) := rfl
    exact ⟨fun _ => True, trivial, (Access.within_first reads).map _⟩

variable {d : Dealing} {p : Puppet} {f f' : File}

theorem without_runOn (rights : Rights) (d : Dealing) (f : File) (p : Puppet) :
    (d.runOn rights f p).store.without (d.about p) = f.without (d.about p) := by
  obtain ⟨good, start, within⟩ := d.within p
  have keeps : ∀ s f₁ f₂, Concerns (d.about p) s → (File.handleWith rights).Moves s f₁ f₂ →
      f₁.without (d.about p) = f.without (d.about p) →
      f₂.without (d.about p) = f.without (d.about p) :=
    fun s f₁ f₂ concerns moves kept => (File.without_moves concerns moves).trans kept
  exact within.run keeps rfl start

/-- With the rows of others taken away, a dealing comes to the same. -/
theorem runOn_ofUser (rights : Rights) (d : Dealing) (f : File) (p : Puppet) :
    d.runOn rights (f.ofUser (d.about p)) p =
      ⟨(d.runOn rights f p).result, (d.runOn rights f p).store.ofUser (d.about p),
        (d.runOn rights f p).record, (d.runOn rights f p).events⟩ := by
  obtain ⟨good, start, within⟩ := d.within p
  exact within.run_view (fun _ concerns => File.projects_ofUser concerns rights) f start

theorem sameOutcome_of_ofUser (rights : Rights) (same : f.ofUser (d.about p) = f'.ofUser (d.about p)) :
    SameOutcome (d.runOn rights f p) (d.runOn rights f' p) ∧
      (d.runOn rights f p).store.ofUser (d.about p) =
        (d.runOn rights f' p).store.ofUser (d.about p) := by
  have one := runOn_ofUser rights d f p
  rw [same, runOn_ofUser rights d f' p] at one
  have parts := Run.mk.inj one
  exact ⟨⟨parts.1.symm, parts.2.2.1.symm, parts.2.2.2.symm⟩, parts.2.1.symm⟩

/-- A dealing with another user does not touch the rows of a user. -/
theorem ofUser_runOn (rights : Rights) (d : Dealing) (f : File) (p : Puppet)
    (different : user ≠ d.about p) : (d.runOn rights f p).store.ofUser user = f.ofUser user := by
  rw [← File.ofUser_without different, without_runOn, File.ofUser_without different]

theorem without_both (rights : Rights) (f : File) (a b : Dealing) (p q : Puppet) :
    ((b.runOn rights (a.runOn rights f p).store q).store.without (a.about p)).without (b.about q) =
      (f.without (a.about p)).without (b.about q) := by
  rw [File.without_comm, without_runOn, File.without_comm, without_runOn]

/-- A dealing leaves the rows of others alone, and two dealings with different users come to the
same in either order. -/
theorem runOn_apart (rights : Rights) (f : File) (a b : Dealing) (p q : Puppet)
    (different : a.about p ≠ b.about q) :
    (a.runOn rights f p).store.without (a.about p) = f.without (a.about p) ∧
    SameOutcome (a.runOn rights (b.runOn rights f q).store p) (a.runOn rights f p) ∧
    SameOutcome (b.runOn rights (a.runOn rights f p).store q) (b.runOn rights f q) ∧
    File.SameRows (b.runOn rights (a.runOn rights f p).store q).store
      (a.runOn rights (b.runOn rights f q).store p).store := by
  have second := sameOutcome_of_ofUser rights (ofUser_runOn rights b f q different)
  have first := sameOutcome_of_ofUser rights (ofUser_runOn rights a f p different.symm)
  refine ⟨without_runOn rights a f p, second.1, first.1, ?_⟩
  apply File.sameRows_of_parts different
  · rw [ofUser_runOn rights b _ q different, second.2]
  · rw [ofUser_runOn rights a _ p different.symm, first.2]
  · rw [without_both, File.without_comm, ← without_both rights f b a q p, File.without_comm]

def ada : Puppet :=
  { remoteId := ⟨"ada", "remote.example"⟩ }

def bea : Puppet :=
  { remoteId := ⟨"bea", "remote.example"⟩, displayname := "Bea" }

/-- A file with one row for each of two users. -/
def twoRows : File :=
  { table := some [storedRow ada, storedRow bea] }

theorem runOn_apart_twoRows :
    (update.runOn {} twoRows bea).result = .ok (.inl true) ∧
    ((recordActivity (.int 7)).runOn {} twoRows ada).result = .ok (.inl true) ∧
    SameOutcome (update.runOn {} ((recordActivity (.int 7)).runOn {} twoRows ada).store bea)
      (update.runOn {} twoRows bea) := by
  obtain ⟨_, agree, _⟩ :=
    runOn_apart {} twoRows .update (.recordActivity (.int 7)) bea ada (by decide)
  exact ⟨by rfl, by rfl, agree⟩

end Dealing

end PuppetRegistry.Sqlite
