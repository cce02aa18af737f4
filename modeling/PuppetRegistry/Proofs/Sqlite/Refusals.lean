import PuppetRegistry.Proofs.Access.Expected
import PuppetRegistry.Proofs.Sqlite.Saving
import PuppetRegistry.Proofs.Stages

/-!
# Refusals that nobody expects

A file refuses a statement with a store error, unless an argument is a whole number out of range.
Main statement: whatever an initialised file holds, a lookup and the writing of a profile come to a
value or a store error. Adding a row does so exactly if the activity is in range. Recording activity
does so exactly if the second is in range and, where the first second is read back, what is stored
there is a whole number.
-/

namespace PuppetRegistry.Sqlite

open Access Stages

variable {f : File} {t : Table} {s : Statement} {p : Puppet} {user : String} {second : Int}

namespace File

/-! ## Arguments out of range -/

theorem bindAll_ne_integerTooLarge {used : Nat} {arguments : List Cell}
    (binds : ∀ c ∈ arguments, Binds c) : bindAll used arguments ≠ .error .integerTooLarge := by
  intro refused
  by_cases count : arguments.length = used
  · obtain ⟨bound, done⟩ := bindAll_of_binds count binds
    rw [done] at refused
    cases refused
  · rw [bindAll, if_pos count] at refused
    cases refused

theorem mapM_bindCell_eq_none {arguments : List Cell} {c : Cell} (mem : c ∈ arguments)
    (out : ¬ Binds c) : arguments.mapM bindCell? = none := by
  induction arguments with
  | nil => cases mem
  | cons first rest ih =>
    rw [List.mapM_cons]
    rcases List.mem_cons.mp mem with rfl | later
    · have unbound : bindCell? c = none := by simpa [Binds] using out
      rw [unbound]
      rfl
    · rw [ih later]
      cases bindCell? first <;> rfl

private theorem mapError_failed_ne {α : Type} {x : Except SqliteError α} :
    x.mapError Refusal.failed ≠ .error .integerTooLarge := by
  cases x <;> nofun

/-- A statement of which all arguments are in range is refused with a store error only. -/
theorem effect_ne_integerTooLarge (rights : Rights) (f : File)
    (binds : ∀ c ∈ s.arguments, Binds c) : f.effect rights s ≠ .error .integerTooLarge := by
  intro refused
  rcases bind_eq_error refused with refused | ⟨command, refused⟩
  · exact mapError_failed_ne refused
  cases command with
  | echo terms =>
    rcases bind_eq_error refused with refused | ⟨_, refused⟩
    · exact bindAll_ne_integerTooLarge binds refused
    · cases refused
  | read =>
    rcases bind_eq_error refused with refused | ⟨_, refused⟩
    · exact mapError_failed_ne refused
    rcases bind_eq_error refused with refused | ⟨_, refused⟩
    · exact bindAll_ne_integerTooLarge binds refused
    · cases refused
  | write =>
    rcases bind_eq_error refused with refused | ⟨_, refused⟩
    · exact mapError_failed_ne refused
    rcases bind_eq_error refused with refused | ⟨_, refused⟩
    · exact bindAll_ne_integerTooLarge binds refused
    rcases bind_eq_error refused with refused | ⟨_, refused⟩
    · exact mapError_failed_ne refused
    rcases bind_eq_error refused with refused | ⟨⟨_, _⟩, refused⟩
    · exact mapError_failed_ne refused
    · cases refused

theorem failed_of_effect {rights : Rights} {refusal : Refusal} (binds : ∀ c ∈ s.arguments, Binds c)
    (refused : f.effect rights s = .error refusal) : ∃ error, refusal = .failed error := by
  cases refusal with
  | failed error => exact ⟨error, rfl⟩
  | integerTooLarge => exact absurd refused (effect_ne_integerTooLarge rights f binds)

/-- The range of the arguments is looked at before the lock. -/
theorem effect_integerTooLarge (opened : f.open? = .ok t)
    (writes : Command.ofStatement s = .ok .write) (count : s.arguments.length = places s .write)
    {c : Cell} (mem : c ∈ s.arguments) (out : ¬ Binds c) :
    f.effect {} s = .error .integerTooLarge := by
  have refused : bindAll (places s .write) s.arguments = .error .integerTooLarge := by
    simp only [bindAll, count, ne_eq, not_true_eq_false, if_false, mapM_bindCell_eq_none mem out]
  simp only [effect, writes, Except.mapError, opened, refused, bind, Except.bind]

theorem expected_rows (f : File) (binds : ∀ c ∈ s.arguments, Binds c) :
    Expected (handle.rows s f).1 := by
  simp only [handle, handleWith, rows]
  cases done : f.effect {} s with
  | ok => trivial
  | error refusal =>
    obtain ⟨error, rfl⟩ := failed_of_effect binds done
    trivial

theorem expected_row (f : File) (binds : ∀ c ∈ s.arguments, Binds c) :
    Expected (handle.row s f).1 := by
  simp only [handle, handleWith, row]
  cases done : f.effect {} s with
  | ok => trivial
  | error refusal =>
    obtain ⟨error, rfl⟩ := failed_of_effect binds done
    trivial

theorem expected_execute (f : File) (binds : ∀ c ∈ s.arguments, Binds c) :
    Expected (handle.execute s f).1 := by
  simp only [handle, handleWith, execute]
  cases done : f.effect {} s with
  | ok => trivial
  | error refusal =>
    obtain ⟨error, rfl⟩ := failed_of_effect binds done
    trivial

theorem execute_integerTooLarge (opened : f.open? = .ok t)
    (writes : Command.ofStatement s = .ok .write) (count : s.arguments.length = places s .write)
    {c : Cell} (mem : c ∈ s.arguments) (out : ¬ Binds c) :
    handle.execute s f = (.error .integerTooLarge, f) := by
  simp only [handle, handleWith, execute, effect_integerTooLarge opened writes count mem out]
  rfl

theorem execute_locked (opened : f.open? = .ok t) (locked : f.locked = true)
    (writes : Command.ofStatement s = .ok .write) (count : s.arguments.length = places s .write)
    (binds : ∀ c ∈ s.arguments, Binds c) :
    handle.execute s f = (.error (.storage (.sqlite .statement .locked)), f) := by
  obtain ⟨bound, hbound⟩ := bindAll_of_binds count binds
  have barred : f.permit {} = .error .locked := by simp [permit, locked]
  simp only [handle, handleWith, execute, effect, writes, Except.mapError, opened, hbound, barred,
    bind, Except.bind]
  rfl

theorem fits_of_binds_int {i : Int} (binds : Binds (.int i)) : fitsInteger i = true := by
  by_contra out
  simp [Binds, bindCell?, out] at binds

theorem fits_of_binds_ofIntOrNull {i : Int} (binds : Binds (.ofIntOrNull i)) :
    fitsInteger i = true := by
  unfold Cell.ofIntOrNull at binds
  split at binds
  · next zero => exact zero ▸ rfl
  · exact fits_of_binds_int binds

theorem binds_advanceLast (fits : fitsInteger second = true) (user : String) :
    ∀ c ∈ (Statement.advanceLast second user).arguments, Binds c := by
  simp [Statement.arguments, binds_int fits]

theorem binds_claimFirst (fits : fitsInteger second = true) (user : String) :
    ∀ c ∈ (Statement.claimFirst second user).arguments, Binds c := by
  simp [Statement.arguments, binds_int fits]

/-! ## Claiming the first second -/

/-- A first second of a user is a whole number or absent, if one is stored. -/
def WholeFirst (user : String) (t : Table) : Prop :=
  ∀ r ∈ t.rowsOf user, ∃ i, r.firstActivity.asInt = .ok i

theorem ready_of_open (opened : f.open? = .ok t) (unlocked : f.locked = false) (keyed : t.Keyed) :
    f.Ready t := by
  refine ⟨?_, unlocked, table_of_open opened, keyed⟩
  by_contra damaged
  rw [open?, if_pos (by simpa using damaged)] at opened
  cases opened

theorem expected_readBackOf_iff (r : Row) :
    Expected (readBackOf (.ok (some [r.firstActivity]))) ↔ ∃ i, r.firstActivity.asInt = .ok i := by
  cases first : r.firstActivity with
  | null => exact iff_of_true trivial ⟨0, rfl⟩
  | bool | int | real | text | blob =>
    rw [← first]
    have given : r.firstActivity.asInt = r.firstActivity.toInt := by rw [first]; rfl
    have back : Puppet.readBack (some [r.firstActivity]) = r.firstActivity.toInt.map some := by
      rw [first]; rfl
    rw [readBackOf, Except.bind, back, given]
    cases r.firstActivity.toInt with
    | ok i => exact iff_of_true trivial ⟨i, rfl⟩
    | error =>
      refine iff_of_false id ?_
      rintro ⟨i, same⟩
      cases same

/-- The claim is lost to a first second that is stored, which is then read back. -/
theorem Ready.claimExpected_iff (ready : f.Ready t) (fits : fitsInteger second = true) :
    ClaimExpected handle second user f ↔ WholeFirst user t := by
  rcases ready.keyed.rowsOf_cases user with absent | ⟨r, only⟩
  · obtain ⟨t', done, ready', rows⟩ := ready.execute_picked (s := .claimFirst second user) rfl
      rfl (binds_claimFirst fits user) rfl (fun _ => rfl)
      (fun r picked => Table.ofUser_text_iff.mp (Bool.and_eq_true_iff.mp picked).1)
    rw [absent] at rows
    rw [ClaimExpected, done, ready'.selectFirstActivity, rows, WholeFirst, absent]
    exact iff_of_true ⟨trivial, fun _ => trivial⟩ (List.forall_mem_nil _)
  · obtain ⟨t', done, ready', only'⟩ := ready.claimFirst only fits
    rw [ClaimExpected, done, ready'.selectFirstActivity, only', WholeFirst, only,
      List.forall_mem_singleton]
    by_cases unclaimed : r.firstActivity = .null
    · rw [if_pos unclaimed, unclaimed]
      exact iff_of_true ⟨trivial, nofun⟩ ⟨0, rfl⟩
    · rw [if_neg unclaimed, if_neg unclaimed]
      simpa [Expected] using expected_readBackOf_iff r

end File

/-! ## Operations on puppets -/

theorem expected_byLink (server link : String) (f : File) (p : Puppet) :
    Expected ((Lookup.byLink server link).run File.handle f p).result := by
  rw [Lookup.byLink]
  split
  · trivial
  · exact expected_first (File.expected_row f (by simp [Statement.arguments]))

theorem expected_update (f : File) (p : Puppet) :
    Expected (Puppet.update.run File.handle f p).result := by
  rw [run_update rfl, expected_map]
  exact File.expected_execute f (File.binds_update p)

theorem expected_insert_iff (opened : f.open? = .ok t) (server : String) (p : Puppet) :
    Expected ((Puppet.insert server).run File.handle f p).result ↔
      (p.remoteId.server = server →
        fitsInteger p.firstActivity = true ∧ fitsInteger p.lastActivity = true) := by
  by_cases own : p.remoteId.server = server
  · rw [run_insert own, expected_map]
    constructor
    · intro expected _
      by_contra out
      have unbound : ∃ c ∈ (Statement.insert p.toRow).arguments, ¬ File.Binds c := by
        by_contra bound
        simp only [not_exists, not_and, not_not] at bound
        have first : File.Binds (.ofIntOrNull p.firstActivity) :=
          bound _ (by simp [Statement.arguments, Puppet.toRow])
        have last : File.Binds (.ofIntOrNull p.lastActivity) :=
          bound _ (by simp [Statement.arguments, Puppet.toRow])
        exact out ⟨File.fits_of_binds_ofIntOrNull first, File.fits_of_binds_ofIntOrNull last⟩
      obtain ⟨c, mem, out⟩ := unbound
      rw [File.execute_integerTooLarge opened rfl rfl mem out] at expected
      exact expected
    · intro fits
      exact File.expected_execute f (File.binds_insert (fits own).1 (fits own).2)
  · rw [run_insert_foreign own]
    exact iff_of_true trivial fun same => absurd same own

/-- A locked file is not read back from: the claim is refused before. -/
theorem expected_recordActivity_iff (opened : f.open? = .ok t) (keyed : t.Keyed) (p : Puppet)
    (second : Int) :
    Expected ((Puppet.recordActivity second).run File.handle f p).result ↔
      (p.lastActivity < second → fitsInteger second = true ∧
        (p.firstActivity = 0 → f.locked = false → File.WholeFirst p.remoteId.user t)) := by
  rw [Access.expected_recordActivity_iff]
  refine imp_congr_right fun _ => ?_
  by_cases fits : fitsInteger second = true
  · have last := File.binds_advanceLast fits p.remoteId.user
    have first := File.binds_claimFirst fits p.remoteId.user
    rw [and_iff_right fits, and_iff_right (File.expected_execute f last)]
    refine imp_congr_right fun _ => ?_
    cases locked : f.locked with
    | false =>
      have ready := File.ready_of_open opened locked keyed
      obtain ⟨t', done, ready', rows⟩ := ready.execute_picked
        (s := .advanceLast second p.remoteId.user) rfl rfl last rfl (fun _ => rfl)
        (fun r picked => Table.ofUser_text_iff.mp (Bool.and_eq_true_iff.mp picked).1)
      rw [done, ready'.claimExpected_iff fits, File.WholeFirst, rows, List.forall_mem_map]
      simp only [forall_const]
      refine forall₂_congr fun r _ => ?_
      split <;> exact Iff.rfl
    | true =>
      rw [File.execute_locked opened locked rfl rfl last, ClaimExpected,
        File.execute_locked opened locked rfl rfl first]
      exact iff_of_true ⟨trivial, nofun⟩ nofun
  · rw [File.execute_integerTooLarge opened rfl rfl List.mem_cons_self
      (mt File.fits_of_binds_int fits)]
    exact iff_of_false (fun advanced => advanced.1) fun both => fits both.1

/-- What operations on an initialised file may come to besides values and store errors, whatever the
file holds: a row cannot be added with activity out of range, and activity cannot be recorded in a
second out of range or over a first one that is no whole number. -/
theorem expected_operations (opened : f.open? = .ok t) (keyed : t.Keyed) (server : String)
    (p : Puppet) :
    (∀ id, Expected ((Lookup.byId server id).run File.handle f p).result) ∧
    (∀ link, Expected ((Lookup.byLink server link).run File.handle f p).result) ∧
    Expected ((Lookup.all server).run File.handle f p).result ∧
    Expected ((Lookup.linked server).run File.handle f p).result ∧
    Expected (Puppet.update.run File.handle f p).result ∧
    (Expected ((Puppet.insert server).run File.handle f p).result ↔
      (p.remoteId.server = server →
        fitsInteger p.firstActivity = true ∧ fitsInteger p.lastActivity = true)) ∧
    ∀ second, Expected ((Puppet.recordActivity second).run File.handle f p).result ↔
      (p.lastActivity < second → fitsInteger second = true ∧
        (p.firstActivity = 0 → f.locked = false → File.WholeFirst p.remoteId.user t)) := by
  refine ⟨fun id => ?_, fun link => expected_byLink server link f p, ?_, ?_, expected_update f p,
    expected_insert_iff opened server p, expected_recordActivity_iff opened keyed p⟩
  · exact expected_first (File.expected_row f (by simp [Statement.arguments]))
  · exact expected_every (File.expected_rows f (by simp [Statement.arguments]))
  · exact expected_every (File.expected_rows f (by simp [Statement.arguments]))

def garbledRow : Row :=
  { defaultRow with user := .text "ada", firstActivity := .text "noon" }

def garbledFile : File :=
  (File.init {}).2.withTable [garbledRow]

def activeAt (second : Int) : Puppet :=
  { remoteId := ⟨"ada", "remote.example"⟩, lastActivity := second }

theorem expected_operations_garbled :
    garbledFile.open? = .ok [garbledRow] ∧ Table.Keyed [garbledRow] ∧
      Expected ((Lookup.all "remote.example").run File.handle garbledFile (activeAt 0)).result ∧
      ¬ Expected ((Puppet.insert "remote.example").run File.handle garbledFile
        (activeAt (2 ^ 63))).result ∧
      ¬ Expected ((Puppet.recordActivity 5).run File.handle garbledFile (activeAt 0)).result := by
  have opened : garbledFile.open? = .ok [garbledRow] := rfl
  have keyed : Table.Keyed [garbledRow] := Table.keyed_insert Table.keyed_nil rfl
  obtain ⟨-, -, all, -, -, -, record⟩ :=
    expected_operations opened keyed "remote.example" (activeAt 0)
  obtain ⟨-, -, -, -, -, insert, -⟩ :=
    expected_operations opened keyed "remote.example" (activeAt (2 ^ 63))
  refine ⟨opened, keyed, all, fun expected => ?_, fun expected => ?_⟩
  · have range := (insert.mp expected rfl).2
    exact absurd range (by decide)
  · have whole := ((record 5).mp expected (by decide)).2 rfl rfl
    obtain ⟨i, read⟩ := whole garbledRow (by decide)
    cases read

/-- Whole numbers out of range and a first second that is no whole number stop an operation with
faults that no caller expects. -/
theorem stopped_unexpectedly :
    (File.init {}).2.insertCells [(.user, .text "ada"), (.firstActivity, .text "noon")] {} =
      .ok garbledFile ∧
    ((Puppet.insert "remote.example").run File.handle (File.init {}).2
      (activeAt (2 ^ 63))).result = .error .integerTooLarge ∧
    ((Puppet.recordActivity (2 ^ 63)).run File.handle (File.init {}).2 (activeAt 0)).result =
      .error .integerTooLarge ∧
    ((Puppet.recordActivity 5).run File.handle garbledFile (activeAt 0)).result =
      .error (.conversion (.notANumeral "'noon'")) := by
  decide +kernel

end PuppetRegistry.Sqlite
