import PuppetRegistry.Proofs.Program.Crowd
import PuppetRegistry.Proofs.Sqlite.Meaning
import PuppetRegistry.Proofs.Sqlite.Rows

/-!
# Files that are ready

An initialised file that nobody has damaged and nobody else is writing refuses a statement only for
its arguments or for a user that is taken. Its table is keyed from the start and stays so. For each
statement on puppets it is told what a ready file answers and what its table is afterwards.
-/

namespace PuppetRegistry.Sqlite

open Stages

namespace File

/-- The schema is there, the file is whole, and no other connection holds the write lock. -/
structure Ready (f : File) (t : Table) : Prop where
  whole : f.damaged = false
  unlocked : f.locked = false
  table : f.table = some t
  keyed : t.Keyed

variable {f : File} {t : Table} {s : Statement}

def withTable (f : File) (t : Table) : File :=
  { f with table := some t }

theorem Ready.with (ready : f.Ready t) {t' : Table} (keyed : t'.Keyed) :
    (f.withTable t').Ready t' :=
  ⟨ready.whole, ready.unlocked, rfl, keyed⟩

/-- A file that has just been created is ready once it is initialised. -/
theorem ready_init : (File.init {}).1 = .ok () ∧ (File.init {}).2.Ready [] :=
  ⟨rfl, rfl, rfl, rfl, Table.keyed_nil⟩

theorem Ready.open_eq (ready : f.Ready t) : f.open? = .ok t := by
  simp [open?, ready.whole, ready.table]

theorem Ready.permit_eq (ready : f.Ready t) : f.permit {} = .ok () := by
  simp [permit, ready.unlocked]

/-! ## Arguments -/

/-- A value that can be an argument. -/
def Binds (c : Cell) : Prop :=
  (bindCell? c).isSome = true

@[simp] theorem binds_text (s : String) : Binds (.text s) := rfl

@[simp] theorem binds_bool (b : Bool) : Binds (.bool b) := rfl

theorem binds_int {i : Int} (fits : fitsInteger i = true) : Binds (.int i) := by
  simp [Binds, bindCell?, fits]

theorem bindAll_of_binds {used : Nat} {arguments : List Cell} (count : arguments.length = used)
    (binds : ∀ c ∈ arguments, Binds c) : ∃ bound, bindAll used arguments = .ok bound := by
  have all : ∃ bound, arguments.mapM bindCell? = some bound := by
    clear count
    induction arguments with
    | nil => exact ⟨[], rfl⟩
    | cons c rest ih =>
      obtain ⟨first, hfirst⟩ := Option.isSome_iff_exists.mp (binds c List.mem_cons_self)
      obtain ⟨others, hothers⟩ := ih fun c hc => binds c (List.mem_cons_of_mem _ hc)
      exact ⟨first :: others, by simp [List.mapM_cons, hfirst, hothers]⟩
  obtain ⟨bound, hbound⟩ := all
  exact ⟨bound, by simp [bindAll, count, hbound]⟩

/-! ## Reading and writing -/

/-- A free text echoes its arguments, or writes, or is refused. -/
theorem ofText_ne_read (sql : String) : Command.ofText sql ≠ .ok .read := by
  unfold Command.ofText
  split
  · nofun
  · split
    · nofun
    · dsimp only
      split
      · split <;> nofun
      · nofun

/-- A lookup has texts for arguments, as many as its text has places. -/
theorem arguments_of_read (reads : Command.ofStatement s = .ok .read) :
    s.arguments.length = places s .read ∧ ∀ c ∈ s.arguments, Binds c := by
  cases s with
  | selectAll | selectUser | selectLinkedTo | selectLinked | selectFirstActivity =>
    exact ⟨rfl, by simp [Statement.arguments]⟩
  | insert | update | advanceLast | claimFirst => cases reads
  | free sql => exact absurd reads (ofText_ne_read sql)

theorem effect_read {rights : Rights} (opened : f.open? = .ok t)
    (reads : Command.ofStatement s = .ok .read) :
    f.effect rights s = .ok ⟨readRows s t, none, f.table⟩ := by
  obtain ⟨count, binds⟩ := arguments_of_read reads
  obtain ⟨bound, hbound⟩ := bindAll_of_binds count binds
  simp [effect_eq, reads, mapError_ok, opened, hbound, bind, Except.bind, pure, Except.pure]

theorem Ready.effect_write (ready : f.Ready t) (writes : Command.ofStatement s = .ok .write)
    (count : s.arguments.length = places s .write) (binds : ∀ c ∈ s.arguments, Binds c) :
    f.effect {} s =
      match writeRows s t with
      | .ok (t', n) => .ok ⟨[], some n, some t'⟩
      | .error error => .error (.failed error) := by
  obtain ⟨bound, hbound⟩ := bindAll_of_binds count binds
  simp only [effect_eq, writes, mapError_ok, ready.open_eq, hbound, ready.permit_eq, bind,
    Except.bind, pure, Except.pure]
  cases writeRows s t <;> rfl

theorem Ready.row_eq (ready : f.Ready t) (reads : Command.ofStatement s = .ok .read) :
    handle.row s f = (.ok (readRows s t).head?, f) := by
  simp [handle, handleWith, row, effect_read ready.open_eq reads]

theorem Ready.execute_eq (ready : f.Ready t) (writes : Command.ofStatement s = .ok .write)
    (count : s.arguments.length = places s .write) (binds : ∀ c ∈ s.arguments, Binds c)
    {after : Table × Nat} (done : writeRows s t = .ok after) :
    handle.execute s f = (.ok (after.2 : Int), f.withTable after.1) := by
  simp [handle, handleWith, execute, ready.effect_write writes count binds, done, withTable]

/-! ## Statements on one user -/

theorem Ready.selectUser (ready : f.Ready t) (user : String) :
    handle.row (.selectUser user) f = (.ok ((t.rowsOf user).head?.map Row.cells), f) := by
  rw [ready.row_eq rfl]
  simp [readRows, Table.rowsOf]

theorem Ready.selectFirstActivity (ready : f.Ready t) (user : String) :
    handle.row (.selectFirstActivity user) f =
      (.ok ((t.rowsOf user).head?.map fun r => [r.firstActivity]), f) := by
  rw [ready.row_eq rfl]
  simp [readRows, Table.rowsOf]

/-- A statement that changes rows of one user, seen at the rows of that user. -/
theorem Ready.execute_picked (ready : f.Ready t) {user : String}
    (writes : Command.ofStatement s = .ok .write)
    (count : s.arguments.length = places s .write) (binds : ∀ c ∈ s.arguments, Binds c)
    {picked : Row → Bool} {g : Row → Row} (does : writeRows s t = .ok (t.updateWhere picked g))
    (keeps : ∀ r, (g r).user = r.user) (own : ∀ r, picked r = true → r.user = .text user) :
    ∃ t', handle.execute s f = (.ok ((t.rowsOf user).countP picked : Nat), f.withTable t') ∧
      (f.withTable t').Ready t' ∧
      t'.rowsOf user = (t.rowsOf user).map fun r => if picked r then g r else r := by
  refine ⟨(t.updateWhere picked g).1, ?_,
    ready.with (Table.keyed_updateWhere ready.keyed picked keeps),
    Table.rowsOf_updateWhere user picked keeps t⟩
  rw [ready.execute_eq writes count binds does, Table.snd_updateWhere g t own]

/-- A statement that changes rows of one user, seen at the one row of that user. -/
theorem Ready.execute_updateWhere (ready : f.Ready t) {user : String} {r : Row}
    (only : t.rowsOf user = [r]) (writes : Command.ofStatement s = .ok .write)
    (count : s.arguments.length = places s .write) (binds : ∀ c ∈ s.arguments, Binds c)
    {picked : Row → Bool} {g : Row → Row} (does : writeRows s t = .ok (t.updateWhere picked g))
    (keeps : ∀ r, (g r).user = r.user) (own : ∀ r, picked r = true → r.user = .text user) :
    ∃ t', handle.execute s f = (.ok (if picked r then 1 else 0), f.withTable t') ∧
      (f.withTable t').Ready t' ∧ t'.rowsOf user = [if picked r then g r else r] := by
  obtain ⟨t', done, ready', rows⟩ := ready.execute_picked writes count binds does keeps own
  rw [only] at done rows
  refine ⟨t', ?_, ready', rows⟩
  rw [done]
  by_cases h : picked r <;> simp [h]

/-- The latest second of the one row of a user rises where the new one is news. -/
theorem Ready.advanceLast (ready : f.Ready t) {user : String} {r : Row}
    (only : t.rowsOf user = [r]) {second : Int} (fits : fitsInteger second = true) :
    ∃ t', handle.execute (.advanceLast second user) f =
        (.ok (if Table.isNews second r then 1 else 0), f.withTable t') ∧
      (f.withTable t').Ready t' ∧
      t'.rowsOf user =
        [if Table.isNews second r then { r with lastActivity := .int second } else r] := by
  have own := Table.ofUser_text_iff.mpr (Table.user_of_rowsOf only)
  have moved := ready.execute_updateWhere only (s := .advanceLast second user) rfl rfl
    (by simp [Statement.arguments, binds_int fits]) rfl (fun _ => rfl)
    (fun r' picked => Table.ofUser_text_iff.mp (Bool.and_eq_true_iff.mp picked).1)
  simpa only [own, Bool.true_and] using moved

/-- The first second of the one row of a user is set where there is none. -/
theorem Ready.claimFirst (ready : f.Ready t) {user : String} {r : Row}
    (only : t.rowsOf user = [r]) {second : Int} (fits : fitsInteger second = true) :
    ∃ t', handle.execute (.claimFirst second user) f =
        (.ok (if r.firstActivity = .null then 1 else 0), f.withTable t') ∧
      (f.withTable t').Ready t' ∧
      t'.rowsOf user =
        [if r.firstActivity = .null then { r with firstActivity := .int second } else r] := by
  have own := Table.ofUser_text_iff.mpr (Table.user_of_rowsOf only)
  have moved := ready.execute_updateWhere only (s := .claimFirst second user) rfl rfl
    (by simp [Statement.arguments, binds_int fits]) rfl (fun _ => rfl)
    (fun r' picked => Table.ofUser_text_iff.mp (Bool.and_eq_true_iff.mp picked).1)
  simpa only [own, Bool.true_and, beq_iff_eq] using moved

/-! ## What a statement may do to a file -/

theorem table_of_open (opened : f.open? = .ok t) : f.table = some t := by
  unfold open? at opened
  split at opened
  · cases opened
  · split at opened
    · cases opened
    · rename_i held
      cases opened
      exact held

theorem effect_table {rights : Rights} {e : Effect} (done : f.effect rights s = .ok e) :
    e.table = f.table ∨
      ∃ t t' n, f.table = some t ∧ writeRows s t = .ok (t', n) ∧ e.table = some t' := by
  rw [effect_eq] at done
  obtain ⟨command, _, done⟩ := bind_eq_ok done
  cases command with
  | echo terms =>
    obtain ⟨_, _, done⟩ := bind_eq_ok done
    cases done
    exact .inl rfl
  | read =>
    obtain ⟨_, _, done⟩ := bind_eq_ok done
    obtain ⟨_, _, done⟩ := bind_eq_ok done
    cases done
    exact .inl rfl
  | write =>
    obtain ⟨t, opened, done⟩ := bind_eq_ok done
    obtain ⟨_, _, done⟩ := bind_eq_ok done
    obtain ⟨_, _, done⟩ := bind_eq_ok done
    obtain ⟨⟨t', n⟩, wrote, done⟩ := bind_eq_ok done
    cases done
    exact .inr ⟨t, t', n, table_of_open (mapError_eq_ok opened), mapError_eq_ok wrote, rfl⟩

/-- A statement leaves a file as it is, or does to its table what it says. -/
theorem handle_moves {rights : Rights} {f' : File} (moves : (handleWith rights).Moves s f f') :
    f' = f ∨
      ∃ t t' n, f.table = some t ∧ writeRows s t = .ok (t', n) ∧ f' = f.withTable t' := by
  rcases moves with rfl | rfl | rfl
  · left
    simp only [handleWith, rows]
    split <;> rfl
  · left
    simp only [handleWith, row]
    split <;> rfl
  · simp only [handleWith, execute]
    cases done : f.effect rights s with
    | error => exact .inl rfl
    | ok e =>
      rcases effect_table done with same | ⟨t, t', n, held, wrote, new⟩
      · left
        simp only [same]
      · exact .inr ⟨t, t', n, held, wrote, by simp only [new, withTable]⟩

end File

end PuppetRegistry.Sqlite
