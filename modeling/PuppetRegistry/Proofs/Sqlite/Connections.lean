import PuppetRegistry.Proofs.Sqlite.Beside
import PuppetRegistry.Proofs.Sqlite.Lookups
import PuppetRegistry.Proofs.Sqlite.Opening

/-!
# One connection after another

Every statement makes a connection of its own. Main statements: where a file can be found and looked
at, lookups are answered from its table; and initialising a file that has been initialised leaves it
as it was, to be found and looked at again.
-/

namespace PuppetRegistry.Sqlite

open Program

variable {d d' : Disk} {path : Path} {opening : Opening} {f : File} {t : Table} {manner : Manner}

def linkTo (path : Path) (opening : Opening) : Link :=
  ⟨.ofPath path, opening⟩

/-- A connection can be made to a file, and look at it. -/
structure Finds (d : Disk) (path : Path) (opening : Opening) (f : File) : Prop where
  opens : Opens d path opening f
  looks : ∃ manner d', (linkTo path opening).reach f (d.setFile (.ofPath path) f) = (.ok manner, d')

theorem Finds.serves (finds : Finds d path opening f) (opened : f.open? = .ok t) :
    Serves (handleAt (.file path opening)) d t := by
  have opens := openAt_eq_ok_iff.mpr finds.opens
  obtain ⟨manner, d', reached⟩ := finds.looks
  rw [linkTo] at reached
  constructor
  · intro statement reads
    have needs : needsTable statement = true := by rw [needsTable, reads]
    simp only [handleAt, carryOut, connected, opens, needs, if_true, looked, reached, File.rows,
      File.effect_read opened reads]
  · intro statement reads
    have needs : needsTable statement = true := by rw [needsTable, reads]
    simp only [handleAt, carryOut, connected, opens, needs, if_true, looked, reached, File.row,
      File.effect_read opened reads]

/-! ## Initialised files -/

namespace File

/-- What initialising leaves: the table and its version, and a log where one is shared. -/
structure Initialised (f : File) (opening : Opening) (t : Table) : Prop where
  written : f.written = true
  whole : f.damaged = false
  version : f.version = Fault.currentSchema
  table : f.table = some t
  logged : f.logged = true ∨ opening.shares = false

theorem Initialised.open_eq (initialised : f.Initialised opening t) : f.open? = .ok t := by
  simp [open?, initialised.whole, initialised.table]

theorem Initialised.createSchema_eq (initialised : f.Initialised opening t) (rights : Rights) :
    f.createSchema rights = (.ok (), f) := by
  simp [createSchema, initialised.whole, initialised.version, initialised.table]

end File

/-- A log that is kept and shared is used. -/
theorem unshared_of_reach {k : Link} (written : f.written = true) (whole : f.damaged = false)
    (reached : k.reach f d = (.ok .journal, d')) : (f.logged && k.opening.shares) = false := by
  rcases Link.reach_cases reached with ⟨frozen, _⟩ | ⟨_, _, d₁, _, found⟩
  · simp [Opening.shares, frozen]
  rw [Link.findLog_eq written whole] at found
  split at found
  · obtain ⟨_, _, index, none, _⟩ := Link.openLog_cases found
    cases none
  · next unused =>
    rw [Bool.or_eq_true, not_or, Bool.not_eq_true, Bool.not_eq_true] at unused
    rw [unused.2, Bool.false_and]

theorem initFile_eq {k : Link} (initialised : f.Initialised k.opening t)
    (reached : k.reach f d = (.ok manner, d')) :
    initFile k f d = (.ok (), k.close manner false f d') := by
  unfold initFile
  rw [reached]
  cases manner with
  | log index => simp only [initialised.createSchema_eq, ne_eq, not_true_eq_false, decide_false]
  | journal =>
    have kept : f.startLog (k.rights .journal d') = .ok f := by
      have settled : (f.logged || !(k.rights .journal d').shares) = true := by
        rcases initialised.logged with logged | unshared
        · rw [logged, Bool.true_or]
        · simp [Link.rights, unshared]
      rw [File.startLog, if_neg (by simp [initialised.whole]), if_pos settled]
    have unshared := unshared_of_reach initialised.written initialised.whole reached
    simp only [kept, unshared, Bool.false_eq_true, if_false, initialised.createSchema_eq, ne_eq,
      not_true_eq_false, decide_false]

/-- An initialised file that can be found and looked at. Nobody holds its lock, or no journal is
beside it; and what a new file would take its permissions from is nothing that a connection may
clear away. -/
structure Prepared (d : Disk) (path : Path) (opening : Opening) (f : File) (t : Table) : Prop where
  finds : Finds d path opening f
  initialised : f.Initialised opening t
  calm : f.locked = false ∨ Link.isOccupied d ((linkTo path opening).beside .journal) = false
  reached : Reached d path opening fun l => ∃ c ∈ Link.passing, l = (linkTo path opening).beside c

theorem Prepared.found (prepared : Prepared d path opening f t) :
    d.file? (.ofPath path) = some f := by
  rcases prepared.finds.opens.found with found | ⟨_, _, rfl⟩
  · exact found
  · cases prepared.initialised.written

/-- A command may initialise a file again, and finds it as it was. -/
theorem Prepared.init (prepared : Prepared d path opening f t) :
    ∃ d', initAt (.file path opening) d = (.ok (), d') ∧ Finds d' path opening f := by
  have found := prepared.found
  obtain ⟨⟨opens, manner, d₁, looked⟩, initialised, calm, way⟩ := prepared
  have named : (linkTo path opening).place.isBase = false := opens.isBase_eq
  have put : (linkTo path opening).Spares Link.passing d (d.setFile (.ofPath path) f) :=
    Link.spares_put found
  have seen := put.trans (Link.spares_reach initialised.written initialised.whole looked)
  have held := (seen.place named).trans found
  have closed := Link.spares_close (k := linkTo path opening) held manner
  have spares : (linkTo path opening).Spares Link.passing d _ :=
    seen.trans (closed.mono (by decide))
  refine ⟨(linkTo path opening).close manner false f d₁, ?_, ?_, ?_⟩
  · rw [← initFile_eq initialised looked]
    simp only [initAt, connected, openAt_eq_ok_iff.mpr opens]
    rfl
  · exact opens.again way spares.directories spares.ways
      (fun l spared => spares.files l fun c mem same => spared ⟨c, mem, same⟩)
      fun ⟨c, _, same⟩ => c.of_ne named same.symm
  · have same := Link.isOccupied_congr (Link.file?_put_beside named .journal d f) rfl
    have calm' := calm.imp_right same.trans
    have held' := (spares.place named).trans found
    exact Link.exists_reach_again named (Disk.file?_setFile .. |>.trans (if_pos rfl))
      initialised.written initialised.whole initialised.logged calm' looked rfl
      (Link.file?_put held')

end PuppetRegistry.Sqlite
