import PuppetRegistry.Proofs.CommandLine.Disturbed
import PuppetRegistry.Proofs.Sqlite.Connections

/-!
# Files that are kept

From when it has been initialised, a file keeps a log, and what stands beside it tells no connection
of anything but that log. Main statements: on such a file the statements of a connection are
answered as by the file alone, and leave it such a file; and so does initialising it again, by way
of whatever address leads to it, which changes nothing in the file.
-/

namespace PuppetRegistry.Sqlite

variable {path : Path} {rights : Rights} {f after : File} {d d' d₁ : Disk} {k : Link} {wrote : Bool}
  {manner : Manner} {l : Location}

/-! ## Ways -/

/-- The directories are the same, and no file has come in the place of one. -/
structure SameWays (d d' : Disk) : Prop where
  directories : d'.directories = d.directories
  ways : KeepsWays d d'

theorem SameWays.hasDirectory (same : SameWays d d') (l : Location) :
    d'.hasDirectory l = d.hasDirectory l := by
  rw [Disk.hasDirectory, Disk.hasDirectory, same.directories]

theorem SameWays.trans {d'' : Disk} (first : SameWays d d') (second : SameWays d' d'') :
    SameWays d d'' :=
  ⟨second.directories.trans first.directories, fun l there none =>
    second.ways l ((first.hasDirectory l).trans there) (first.ways l there none)⟩

theorem SameWays.setFile (undirected : d.hasDirectory l = false) (f : File) :
    SameWays d (d.setFile l f) := by
  refine ⟨rfl, fun l' there none => ?_⟩
  rw [Disk.file?_setFile, if_neg, none]
  rintro rfl
  rw [undirected] at there
  cases there

theorem Link.Spares.sameWays {touched : List Companion} (spares : k.Spares touched d d') :
    SameWays d d' :=
  ⟨spares.directories, spares.ways⟩

/-- What a path led to by way of directories, it leads to still. -/
theorem Opens.along (opens : Opens d path {} f) (leads : d.Leads path)
    (ways : SameWays d d') (found : d'.file? (.ofPath path) = some after) :
    Opens d' path {} after ∧ d'.Leads path := by
  have ⟨_, walked⟩ := leads
  refine ⟨⟨?_, opens.short, rfl, ?_, ?_, .inl found⟩, leads.of_directories ways.directories⟩
  · exact isPassable_of_keepsWays ways.ways rfl walked opens.passable
  · exact (ways.hasDirectory _).trans opens.directory
  · exact (ways.hasDirectory _).trans opens.undirected

/-! ## Beside the file -/

/-- There is no journal, and the log is one that the holder of the write lock uses, or else holds
nothing. -/
structure Calm (l : Location) (f : File) (d : Disk) : Prop where
  quiet : Link.isOccupied d (Companion.journal.of l) = false
  free : d.hasDirectory (Companion.log.of l) = false
  idle : f.locked = false → Link.isOccupied d (Companion.log.of l) = false
  held : f.locked = true → (d.file? (Companion.log.of l)).isSome = true

namespace Link

theorem isOccupied_of_none (free : d.hasDirectory l = false) (none : d.file? l = none) :
    isOccupied d l = false := by
  rw [isOccupied, free, none]
  rfl

theorem openIndex_error {held : Bool} {error : SqliteError}
    (failed : k.openIndex held d = (.error error, d')) : d' = d := by
  unfold openIndex at failed
  dsimp only at failed
  split at failed
  · cases failed
  split at failed
  · cases failed
  split at failed
  · cases failed
    rfl
  split at failed
  · split at failed
    · cases failed
      rfl
    · cases failed
  · cases failed

/-- A log that cannot be used is left as it was, but may have been created. -/
theorem openLog_error {error : SqliteError} (failed : k.openLog f d = (.error error, d')) :
    d' = d ∨ d.hasDirectory (k.beside .log) = false ∧ d' = k.withLog d := by
  rw [openLog_eq] at failed
  split at failed
  · cases failed
    exact .inl rfl
  next usable =>
    rw [Bool.or_eq_true, not_or, Bool.not_eq_true, Bool.not_eq_true] at usable
    cases indexed : k.openIndex (k.isLogHeld f d) (k.withLog d) with
    | mk result left =>
      rw [indexed] at failed
      cases result with
      | ok index => cases failed
      | error e =>
        cases failed
        exact .inr ⟨usable.2, openIndex_error indexed⟩

theorem spares_close_log (index : Index) :
    k.Spares [.log, .index] (d.setFile k.place after) (k.close (.log index) wrote after d) := by
  unfold close
  dsimp only
  split
  · exact .refl _
  · split
    · exact spares_removeFile (by decide) _
    · exact (spares_removeFile (by decide) _).trans (spares_removeFile (by decide) _)

theorem file?_close_log (named : k.place.isBase = false) (index : Index) :
    (k.close (.log index) wrote after d).file? k.place = some after :=
  ((spares_close_log index).place named).trans
    ((Disk.file?_setFile ..).trans (if_pos rfl))

/-- A connection that may write, and has a log of its own, takes it away when it closes. -/
theorem file?_close_own {index : Index} (named : k.place.isBase = false)
    (writes : k.opening.writes = true) (own : index = .own ∨ index = .inner) :
    (k.close (.log index) wrote after d).file? (k.beside .log) = none := by
  have apart : k.beside .log ≠ k.beside .index := fun same =>
    nomatch Companion.of_inj named same
  rcases own with rfl | rfl
  · simp [close, writes, Disk.file?_removeFile, apart]
  · simp [close, writes, Disk.file?_removeFile]

theorem close_left {index : Index}
    (left : index = .borrowed ∨ index = .fixed ∨ k.opening.writes = false) :
    k.close (.log index) wrote after d = d.setFile k.place after := by
  rcases left with rfl | rfl | reads
  · simp [close]
  · simp [close]
  · simp [close, reads]

/-- Where nobody holds the log, a connection that closes takes it away, or leaves one that holds
nothing. -/
theorem isOccupied_close {index : Index} (named : k.place.isBase = false)
    (free : (k.close (.log index) wrote after d').hasDirectory (k.beside .log) = false)
    (idle : k.opening.writes = true ∨ isOccupied d (k.beside .log) = false)
    (indexed : k.openIndex false (k.withLog d) = (.ok index, d')) :
    isOccupied (k.close (.log index) wrote after d') (k.beside .log) = false := by
  have gone (writes : k.opening.writes = true) (own : index = .own ∨ index = .inner) :
      isOccupied (k.close (.log index) wrote after d') (k.beside .log) = false :=
    isOccupied_of_none free (file?_close_own named writes own)
  have left (stays : k.close (.log index) wrote after d' = d'.setFile k.place after)
      (empty : isOccupied d' (k.beside .log) = false) :
      isOccupied (k.close (.log index) wrote after d') (k.beside .log) = false := by
    rw [stays]
    exact (isOccupied_congr (file?_put_beside named .log d' after) rfl).trans empty
  rcases openIndex_cases indexed with ⟨contra, _⟩ | ⟨_, writes, rfl, _⟩ | ⟨empty, _, rfl, rfl⟩ |
    ⟨_, _, rfl, rfl⟩
  · cases contra
  · exact gone writes (.inr rfl)
  · exact left (close_left (.inr (.inl rfl))) empty
  · cases writes : k.opening.writes with
    | true => exact gone writes (.inl rfl)
    | false =>
      apply left (close_left (.inr (.inr writes)))
      have apart : k.beside .log ≠ k.beside .index := fun same =>
        nomatch Companion.of_inj named same
      have same : ((k.withLog d).setFile (k.beside .index) indexFile).file? (k.beside .log) =
          (k.withLog d).file? (k.beside .log) :=
        (Disk.file?_setFile ..).trans (if_neg apart)
      have empty := idle.resolve_left (by rw [writes]; nofun)
      exact (isOccupied_congr same rfl).trans ((isOccupied_withLog d).trans empty)

/-- What a connection that uses the log leaves beside the file when it closes: the log is in use by
the holder of the lock, or holds nothing. -/
theorem calm_close (named : k.place.isBase = false)
    (quiet : isOccupied d (k.beside .journal) = false)
    (held : f.locked = true → (d.file? (k.beside .log)).isSome = true)
    (idle : f.locked = false → k.opening.writes = true ∨ isOccupied d (k.beside .log) = false)
    (opened : k.openLog f d = (.ok manner, d')) (lock : after.locked = f.locked) :
    Calm k.place after (k.close manner wrote after d') := by
  have started := spares_openLog opened
  obtain ⟨_, free, index, rfl, indexed⟩ := openLog_cases opened
  have closed : k.Spares [.log, .index] (d'.setFile k.place after)
      (k.close (.log index) wrote after d') := spares_close_log index
  have free' : (k.close (.log index) wrote after d').hasDirectory (k.beside .log) = false :=
    (closed.hasDirectory _).trans ((started.hasDirectory _).trans free)
  have quiet' : isOccupied (k.close (.log index) wrote after d') (k.beside .journal) = false := by
    have put := isOccupied_congr (file?_put_beside named .journal d' after) rfl
    exact (closed.isOccupied named (by decide)).trans
      (put.trans ((started.isOccupied named (by decide)).trans quiet))
  cases locked : f.locked with
  | true =>
    have same : k.withLog d = d := if_pos (held locked)
    have isHeld : k.isLogHeld f d = true := Bool.and_eq_true_iff.mpr ⟨locked, held locked⟩
    rw [isHeld, same, openIndex, if_pos rfl] at indexed
    cases indexed
    refine ⟨quiet', free', fun unlocked => ?_, fun _ => ?_⟩
    · rw [lock, locked] at unlocked
      cases unlocked
    · rw [close_left (.inl rfl)]
      exact (congrArg Option.isSome (file?_put_beside named .log d after)).trans (held locked)
  | false =>
    have unheld : k.isLogHeld f d = false := by rw [isLogHeld, locked, Bool.false_and]
    rw [unheld] at indexed
    refine ⟨quiet', free', fun _ => ?_, fun taken => ?_⟩
    · exact isOccupied_close named free' (idle locked) indexed
    · rw [lock, locked] at taken
      cases taken

theorem calm_openLog_error (calm : Calm k.place f d) (named : k.place.isBase = false)
    {error : SqliteError} (failed : k.openLog f d = (.error error, d')) : Calm k.place f d' := by
  rcases openLog_error failed with rfl | ⟨free, rfl⟩
  · exact calm
  have started := spares_withLog free
  refine ⟨?_, (started.hasDirectory _).trans calm.free, fun unlocked => ?_, fun locked => ?_⟩
  · exact (started.isOccupied named (by decide)).trans calm.quiet
  · exact (isOccupied_withLog d).trans (calm.idle unlocked)
  · have same : k.withLog d = d := if_pos (calm.held locked)
    rw [same]
    exact calm.held locked

end Link

/-! ## Kept files -/

/-- The file has its schema and keeps a log. -/
structure File.Settled (f : File) : Prop where
  written : f.written = true
  whole : f.damaged = false
  logged : f.logged = true
  table : f.table.isSome = true
  version : Fault.currentSchema ≤ f.version

/-- What initialising a settled file comes to. -/
def File.verdict (f : File) : Except Fault Unit :=
  if Fault.currentSchema < f.version then .error (.schemaTooNew .sqlite f.version) else .ok ()

theorem File.Settled.createSchema_eq (settled : f.Settled) (rights : Rights) :
    f.createSchema rights = (f.verdict, f) := by
  rw [createSchema, if_neg (by simp [settled.whole]), verdict]
  split
  · rfl
  · next old =>
    have current : f.version = Fault.currentSchema :=
      Int.le_antisymm (Int.not_lt.mp old) settled.version
    rw [if_pos (by simp [settled.table, current])]

/-- The place of the file that an address leads to. -/
def Address.place? : Address → Option Location
  | .file path _ => some (.ofPath path)
  | .memory _ | .refused _ => none

/-- A path leads to a settled file, and a connection at it has some rights. -/
structure Kept (path : Path) (rights : Rights) (f : File) (d : Disk) : Prop where
  opens : Opens d path {} f
  leads : d.Leads path
  calm : Calm (.ofPath path) f d
  settled : f.Settled
  rights : rights =
    { writes := f.locked || !d.hasDirectory (Companion.index.of (.ofPath path)) }

namespace Kept

variable (kept : Kept path rights f d)

include kept

theorem found : d.file? (.ofPath path) = some f := by
  rcases kept.opens.found with found | ⟨_, _, rfl⟩
  · exact found
  · cases kept.settled.written

theorem named : (Location.ofPath path).isBase = false :=
  kept.opens.isBase_eq

/-- A kept file that has been looked at, put back and left is a kept file. -/
theorem left (place : k.place = .ofPath path) {touched touched' : List Companion}
    (reached : k.Spares touched d d₁)
    (closed : k.Spares touched' (d₁.setFile k.place after) d') (calm : Calm k.place after d')
    (settled : after.Settled) (lock : after.locked = f.locked) : Kept path rights after d' := by
  have named : k.place.isBase = false := place ▸ kept.named
  have undirected : d₁.hasDirectory k.place = false :=
    (reached.hasDirectory _).trans (place ▸ kept.opens.undirected)
  have ways : SameWays d d' := (reached.sameWays.trans (.setFile undirected after)).trans
    closed.sameWays
  have found : d'.file? k.place = some after :=
    (closed.place named).trans ((Disk.file?_setFile ..).trans (if_pos rfl))
  obtain ⟨opens, leads⟩ := kept.opens.along kept.leads ways (place ▸ found)
  refine ⟨opens, leads, place ▸ calm, settled, ?_⟩
  rw [lock, ways.hasDirectory]
  exact kept.rights

theorem calm_at (place : k.place = .ofPath path) : Calm k.place f d :=
  place ▸ kept.calm

theorem named_at (place : k.place = .ofPath path) : k.place.isBase = false :=
  place ▸ kept.named

theorem put (place : k.place = .ofPath path) : Kept path rights f (d.setFile k.place f) := by
  have held : d.file? k.place = some f := place ▸ kept.found
  have same (c : Companion) := Link.file?_put_beside (kept.named_at place) c d f
  have calm := kept.calm_at place
  have stays (d : Disk) : k.Spares [] d d := .refl d
  refine kept.left place (stays d) (stays _) ?_ kept.settled rfl
  exact ⟨(Link.isOccupied_congr (same .journal) rfl).trans calm.quiet, calm.free,
    fun unlocked => (Link.isOccupied_congr (same .log) rfl).trans (calm.idle unlocked),
    fun locked => (congrArg Option.isSome (same .log)).trans (calm.held locked)⟩

/-- A connection that cares for the file at all uses its log. -/
theorem reach_eq (place : k.place = .ofPath path) :
    k.reach f d =
      if k.opening.frozen then (.ok .journal, d)
      else
        match k.mark d with
        | .error error => (.error error, d)
        | .ok () => k.openLog f d := by
  have cleared : k.clearJournal f d = .ok d := by
    have quiet := (kept.calm_at place).quiet
    rw [Link.clearJournal]
    exact if_pos (by rw [Bool.or_eq_true, Bool.not_eq_true']; exact .inl quiet)
  have found : k.findLog f d = k.openLog f d := by
    rw [Link.findLog_eq kept.settled.written kept.settled.whole, kept.settled.logged, Bool.or_true,
      if_pos rfl]
  rw [Link.reach]
  split
  · rfl
  · cases k.mark d with
    | error => rfl
    | ok => simp only [Except.bind, cleared, found]

theorem close (place : k.place = .ofPath path) (opened : k.openLog f d = (.ok manner, d₁))
    (settled : after.Settled) (lock : after.locked = f.locked) :
    Kept path rights after (k.close manner wrote after d₁) := by
  have named := kept.named_at place
  have calm := kept.calm_at place
  have closes : Calm k.place after (k.close manner wrote after d₁) :=
    Link.calm_close named calm.quiet calm.held (fun free => .inr (calm.idle free)) opened lock
  obtain ⟨_, _, index, rfl, _⟩ := Link.openLog_cases opened
  exact kept.left place (Link.spares_openLog opened) (Link.spares_close_log index) closes settled lock

theorem of_openLog_error (place : k.place = .ofPath path) {error : SqliteError}
    (failed : k.openLog f d = (.error error, d₁)) : Kept path rights f d₁ := by
  have named := kept.named_at place
  have spares : k.Spares [.log, .index] d d₁ := by
    rcases Link.openLog_error failed with rfl | ⟨free, rfl⟩
    · exact .refl _
    · exact Link.spares_withLog free
  have held : d₁.file? k.place = some f := (spares.place named).trans (place ▸ kept.found)
  have calm := Link.calm_openLog_error (kept.calm_at place) named failed
  have same (l : Location) : (d₁.setFile k.place f).file? l = d₁.file? l := Link.file?_put held l
  have back : k.Spares [] (d₁.setFile k.place f) d₁ :=
    ⟨rfl, fun l _ => (same l).symm, fun l _ none => (same l).symm.trans none⟩
  exact kept.left place spares back calm kept.settled rfl

theorem eq_of_openAt {path' : Path} {opening : Opening} {f' : File}
    (place : Location.ofPath path' = .ofPath path) (opened : openAt d path' opening = .ok f') :
    f' = f := by
  have found := kept.found
  rcases (openAt_eq_ok_iff.mp opened).found with same | ⟨missing, _⟩
  · rw [place, found] at same
    exact (Option.some.inj same).symm
  · rw [place, found] at missing
    cases missing

/-- A connection at a path can use the log, and has its rights then. -/
theorem openLog_plain (place : k.place = .ofPath path) (plain : k.opening = {}) :
    ∃ index d₁, k.openLog f d = (.ok (.log index), d₁) ∧ k.rights (.log index) d₁ = rights := by
  have calm := kept.calm_at place
  have free : d.hasDirectory (k.beside .log) = false := calm.free
  have shares : k.opening.shares = true := by rw [plain]; rfl
  rw [kept.rights, Link.openLog_eq, shares, free, ← place]
  cases locked : f.locked with
  | true =>
    have held : k.isLogHeld f d = true := by
      rw [Link.isLogHeld, locked]
      exact calm.held locked
    refine ⟨.borrowed, _, by rw [held]; rfl, ?_⟩
    simp [Link.rights, plain, Opening.shares]
  | false =>
    have notHeld : k.isLogHeld f d = false := by rw [Link.isLogHeld, locked, Bool.false_and]
    have empty : Link.isOccupied (k.withLog d) (k.beside .log) = false :=
      (Link.isOccupied_withLog d).trans (calm.idle locked)
    have same : (k.withLog d).hasDirectory (k.beside .index) = d.hasDirectory (k.beside .index) :=
      Link.hasDirectory_withLog d _
    rw [notHeld, Link.openIndex]
    simp only [plain, same, empty, Bool.false_eq_true, if_false, Bool.false_and, Bool.false_or,
      reduceCtorEq, decide_false]
    cases taken : d.hasDirectory (k.beside .index) with
    | true =>
      have taken' : d.hasDirectory (Companion.index.of k.place) = true := taken
      exact ⟨.fixed, _, rfl, by simp [Link.rights, plain, Opening.shares, taken']⟩
    | false =>
      have taken' : d.hasDirectory (Companion.index.of k.place) = false := taken
      exact ⟨.own, _, rfl, by simp [Link.rights, plain, Opening.shares, taken']⟩

theorem reach_plain (place : k.place = .ofPath path) (plain : k.opening = {}) :
    ∃ index d₁, k.reach f d = (.ok (.log index), d₁) ∧ k.openLog f d = (.ok (.log index), d₁) ∧
      k.rights (.log index) d₁ = rights := by
  obtain ⟨index, d₁, opened, same⟩ := kept.openLog_plain place plain
  have marked : k.mark d = .ok () := by simp [Link.mark, plain]
  refine ⟨index, d₁, ?_, opened, same⟩
  rw [kept.reach_eq place, marked, plain, opened]
  rfl

/-! ## Initialising again -/

/-- Initialising a kept file changes nothing in it. It comes to what it has to, unless the
connection cannot look at the file. -/
theorem initFile (place : k.place = .ofPath path) :
    Kept path rights f (Sqlite.initFile k f d).2 ∧
      ((Sqlite.initFile k f d).1 = f.verdict ∨
        ∃ error, (Sqlite.initFile k f d).1 = .error (.sqlite error)) := by
  have reached := kept.reach_eq place
  unfold Sqlite.initFile
  by_cases frozen : k.opening.frozen = true
  · rw [if_pos frozen] at reached
    have unshared : k.opening.shares = false := by simp [Opening.shares, frozen]
    have started : f.startLog (k.rights .journal d) = .ok f := by
      rw [File.startLog, if_neg (by simp [kept.settled.whole]),
        if_pos (by rw [kept.settled.logged, Bool.true_or])]
    simp only [reached, started, unshared, Bool.and_false, Bool.false_eq_true, if_false,
      kept.settled.createSchema_eq, ne_eq, not_true_eq_false, decide_false,
      Link.close_idle (.inl rfl)]
    exact ⟨kept.put place, .inl trivial⟩
  rw [if_neg frozen] at reached
  cases marked : k.mark d with
  | error error =>
    rw [marked] at reached
    simp only [reached]
    exact ⟨kept, .inr ⟨error, rfl⟩⟩
  | ok =>
    rw [marked] at reached
    simp only [reached]
    cases opened : k.openLog f d with
    | mk result d₁ =>
      cases result with
      | error error => exact ⟨kept.of_openLog_error place opened, .inr ⟨error, rfl⟩⟩
      | ok manner =>
        have closed (wrote : Bool) : Kept path rights f (k.close manner wrote f d₁) :=
          kept.close place opened kept.settled rfl
        obtain ⟨_, _, index, rfl, _⟩ := Link.openLog_cases opened
        simp only [kept.settled.createSchema_eq]
        exact ⟨closed _, .inl trivial⟩

theorem initAt {address : Address} (same : address.place? = some (.ofPath path)) :
    Kept path rights f (Sqlite.initAt address d).2 ∧
      ((Sqlite.initAt address d).1 = f.verdict ∨
        ∃ error, (Sqlite.initAt address d).1 = .error (.sqlite error)) := by
  cases address with
  | memory | refused => cases same
  | file path' opening =>
    have place : Location.ofPath path' = .ofPath path := Option.some.inj same
    simp only [Sqlite.initAt, connected]
    cases opened : openAt d path' opening with
    | error error => exact ⟨kept, .inr ⟨error, rfl⟩⟩
    | ok f' =>
      have same := kept.eq_of_openAt place opened
      subst same
      have put : Kept path rights f' (d.setFile (.ofPath path') f') :=
        kept.put (k := ⟨.ofPath path', opening⟩) place
      exact put.initFile (k := ⟨.ofPath path', opening⟩) place

theorem fst_initAt {path' : Path} (place : Location.ofPath path' = .ofPath path)
    (opened : openAt d path' {} = .ok f) :
    (Sqlite.initAt (.file path' {}) d).1 = f.verdict := by
  have put : Kept path rights f (d.setFile (.ofPath path') f) :=
    kept.put (k := ⟨.ofPath path', {}⟩) place
  obtain ⟨index, d₁, reached, _⟩ := put.reach_plain (k := ⟨.ofPath path', {}⟩) place rfl
  simp only [Sqlite.initAt, connected, opened, Sqlite.initFile, reached,
    kept.settled.createSchema_eq]

/-! ## Statements -/

/-- What is done to a kept file by way of a connection at the path is done with the rights of the
connection. -/
theorem looked {α : Type} (place : k.place = .ofPath path) (plain : k.opening = {})
    (refuse : SqliteError → Fault) (wrote : α → Bool)
    {work : Rights → File → Except Fault α × File}
    (settled : (work rights f).2.Settled) (lock : (work rights f).2.locked = f.locked) :
    (Sqlite.looked refuse wrote work k f d).1 = (work rights f).1 ∧
      Kept path rights (work rights f).2 (Sqlite.looked refuse wrote work k f d).2 := by
  obtain ⟨index, d₁, reached, opened, same⟩ := kept.reach_plain place plain
  simp only [Sqlite.looked, reached, same]
  exact ⟨trivial, kept.close place opened settled lock⟩

theorem carryOut {α : Type} (purpose : Purpose) (s : Statement) (wrote : α → Bool)
    (work : Rights → File → Except Fault α × File) (settled : (work rights f).2.Settled)
    (lock : (work rights f).2.locked = f.locked)
    (alone : needsTable s = false → work {} f = work rights f ∧ (work rights f).2 = f) :
    (Sqlite.carryOut (.file path {}) purpose s wrote work d).1 = (work rights f).1 ∧
      Kept path rights (work rights f).2
        (Sqlite.carryOut (.file path {}) purpose s wrote work d).2 := by
  have opened := openAt_eq_ok_iff.mpr kept.opens
  have put : Kept path rights f (d.setFile (.ofPath path) f) := kept.put (k := linkTo path {}) rfl
  simp only [Sqlite.carryOut, connected, opened]
  split
  · exact put.looked (k := linkTo path {}) rfl rfl _ wrote settled lock
  · next unneeded =>
    obtain ⟨same, left⟩ := alone (by simpa using unneeded)
    rw [same, left]
    exact ⟨rfl, put⟩

end Kept

namespace File

/-- A statement that needs no table takes no rights and leaves the file alone. -/
theorem effect_of_not_needsTable {s : Statement} (unneeded : needsTable s = false)
    (rights rights' : Rights) (f : File) :
    f.effect rights s = f.effect rights' s ∧ ∀ e, f.effect rights s = .ok e → e.table = f.table := by
  unfold effect
  cases named : Command.ofStatement s with
  | error error => exact ⟨rfl, nofun⟩
  | ok command =>
    cases command with
    | read | write => simp [needsTable, named] at unneeded
    | echo terms =>
      refine ⟨rfl, fun e done => ?_⟩
      simp only [Except.mapError, bind, Except.bind] at done
      cases bound : bindAll (places s (.echo terms)) s.arguments with
      | error =>
        rw [bound] at done
        cases done
      | ok =>
        rw [bound] at done
        cases done
        rfl

theorem Settled.withTable (settled : f.Settled) (t : Table) : (f.withTable t).Settled :=
  { settled with table := rfl }

theorem Settled.moved (settled : f.Settled) {s : Statement}
    (moves : (handleWith rights).Moves s f after) :
    after.Settled ∧ after.locked = f.locked ∧ after.version = f.version := by
  rcases handle_moves moves with rfl | ⟨_, t', _, _, _, rfl⟩
  · exact ⟨settled, rfl, rfl⟩
  · exact ⟨settled.withTable t', rfl, rfl⟩

end File

/-- What a statement does to a kept file by way of a connection at the path it does to the file,
which is kept, and of the version it was. -/
theorem Kept.statement {α : Type} {version : Int} (held : Kept path rights f d ∧ f.version = version)
    (purpose : Purpose) {s : Statement} (wrote : α → Bool)
    {work : Rights → File → Except Fault α × File}
    (moves : (File.handleWith rights).Moves s f (work rights f).2)
    (alone : needsTable s = false → work {} f = work rights f ∧ (work rights f).2 = f) :
    (Sqlite.carryOut (.file path {}) purpose s wrote work d).1 = (work rights f).1 ∧
      Kept path rights (work rights f).2
        (Sqlite.carryOut (.file path {}) purpose s wrote work d).2 ∧
      (work rights f).2.version = version := by
  obtain ⟨kept, same⟩ := held
  obtain ⟨settled, lock, stamp⟩ := kept.settled.moved moves
  obtain ⟨answer, kept'⟩ := kept.carryOut purpose s wrote work settled lock alone
  exact ⟨answer, kept', stamp.trans same⟩

/-- A connection at the path of a kept file answers as the file does, with the rights it has. -/
theorem simulates_handleAt (path : Path) (rights : Rights) (version : Int) :
    (handleAt (.file path {})).Simulates (File.handleWith rights)
      fun d f => Kept path rights f d ∧ f.version = version where
  rows s d f held := by
    refine Kept.statement held .query (fun _ => false) (.inl rfl)
      fun unneeded => ⟨?_, File.snd_rows rights f s⟩
    simp only [File.rows, (File.effect_of_not_needsTable unneeded {} rights f).1]
  row s d f held := by
    refine Kept.statement held .query (fun _ => false) (.inr (.inl rfl))
      fun unneeded => ⟨?_, File.snd_row rights f s⟩
    simp only [File.row, (File.effect_of_not_needsTable unneeded {} rights f).1]
  execute s d f held := by
    refine Kept.statement held .statement (fun changed : Int => 0 < changed) (.inr (.inr rfl))
      fun unneeded => ?_
    obtain ⟨alike, left⟩ := File.effect_of_not_needsTable unneeded rights {} f
    simp only [File.execute, ← alike]
    cases done : f.effect rights s with
    | error refusal => exact ⟨trivial, rfl⟩
    | ok e =>
      dsimp only
      rw [left e done]
      exact ⟨trivial, rfl⟩

end PuppetRegistry.Sqlite
