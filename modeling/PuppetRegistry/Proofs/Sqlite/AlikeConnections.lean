import PuppetRegistry.Proofs.Sqlite.AlikeDisks
import PuppetRegistry.Proofs.Sqlite.Opening

/-!
# Connections to files with other tokens

What a connection does with what stands beside its file is decided by what is there and by whether
the file has been written, is locked, logged or damaged, never by its rows. Main statements: through
a connection to an address that is not named as a journal, alike statements draw alike replies from
alike disks and leave alike disks behind; so does the creation of the schema.
-/

namespace PuppetRegistry

namespace Sqlite

variable {d d' : Disk} {f f' : File} {α β : Type} {A : α → β → Prop}

/-! ## Beside a file -/

namespace Link

variable {k : Link}

theorem isOccupied_eq (alike : d.Alike d') : isOccupied d = isOccupied d' := by
  funext l
  rw [isOccupied, isOccupied, alike.hasDirectory]
  rcases split_rel (alike.file? l) with ⟨left, right⟩ | ⟨f, f', left, right, files⟩
  · rw [left, right]
  · rw [left, right, Option.map_some, Option.map_some, files.written]

theorem isTaken_eq (alike : d.Alike d') : isTaken d = isTaken d' := by
  funext l
  rw [isTaken, isTaken, alike.hasDirectory, alike.isSome_file?]

theorem isLogHeld_eq (files : f.Alike f') (alike : d.Alike d') :
    k.isLogHeld f d = k.isLogHeld f' d' := by
  rw [isLogHeld, isLogHeld, files.locked, alike.isSome_file?]

theorem seesWriter_eq (files : f.Alike f') (alike : d.Alike d') :
    k.seesWriter f d = k.seesWriter f' d' := by
  rw [seesWriter, seesWriter, files.locked, isLogHeld_eq files alike, isTaken_eq alike]

theorem mark_eq (alike : d.Alike d') : k.mark d = k.mark d' := by
  rw [mark, mark, isTaken_eq alike]

theorem agree_clearJournal (files : f.Alike f') (alike : d.Alike d') :
    Agree Disk.Alike (k.clearJournal f d) (k.clearJournal f' d') := by
  unfold clearJournal
  rw [isOccupied_eq alike, seesWriter_eq files alike, files.written, alike.hasDirectory,
    isLogHeld_eq files alike]
  dsimp only
  split
  · exact .ok alike
  split
  · split
    · exact .ok (alike.removeFile _)
    · exact .ok alike
  split
  · exact .error _
  split
  · exact .error _
  split
  · exact .error _
  · exact .ok (alike.removeFile _)

theorem twins_openIndex (plain : ¬ k.place.IsJournal) (held : Bool) (alike : d.Alike d') :
    Twins Eq Disk.Alike (k.openIndex held d) (k.openIndex held d') := by
  unfold openIndex
  rw [isTaken_eq alike, isOccupied_eq alike, alike.hasDirectory]
  dsimp only
  split
  · exact ⟨rfl, alike⟩
  split
  · exact ⟨rfl, alike⟩
  split
  · exact ⟨rfl, alike⟩
  split
  · split
    · exact ⟨rfl, alike⟩
    · exact ⟨rfl, alike⟩
  · exact ⟨rfl, alike.setFile (Location.not_isJournal_of plain (.inr rfl)) (.refl _)⟩

theorem twins_openLog (plain : ¬ k.place.IsJournal) (files : f.Alike f') (alike : d.Alike d') :
    Twins Eq Disk.Alike (k.openLog f d) (k.openLog f' d') := by
  unfold openLog
  dsimp only
  rw [alike.hasDirectory, isLogHeld_eq files alike, alike.isSome_file?]
  split
  · exact ⟨rfl, alike⟩
  have opened : Disk.Alike
      (if (d'.file? (k.beside .log)).isSome then d else d.setFile (k.beside .log) {})
      (if (d'.file? (k.beside .log)).isSome then d' else d'.setFile (k.beside .log) {}) := by
    split
    · exact alike
    · exact alike.setFile (Location.not_isJournal_of plain (.inl rfl)) (.refl _)
  obtain ⟨index, e, _, e', eq, eq', rfl, rest⟩ :=
    (twins_openIndex plain (k.isLogHeld f' d') opened).pairs
  rw [eq, eq']
  exact ⟨rfl, rest⟩

theorem twins_findLog (plain : ¬ k.place.IsJournal) (files : f.Alike f') (alike : d.Alike d') :
    Twins Eq Disk.Alike (k.findLog f d) (k.findLog f' d') := by
  unfold findLog
  rw [isOccupied_eq alike, alike.hasDirectory, files.written, files.logged, files.damaged]
  dsimp only
  split
  · split
    · exact ⟨rfl, alike⟩
    · exact ⟨rfl, alike.removeFile _⟩
  split
  · exact twins_openLog plain files alike
  · exact ⟨rfl, alike⟩

theorem twins_reach (plain : ¬ k.place.IsJournal) (files : f.Alike f') (alike : d.Alike d') :
    Twins Eq Disk.Alike (k.reach f d) (k.reach f' d') := by
  unfold reach
  split
  · exact ⟨rfl, alike⟩
  have cleared : Agree Disk.Alike ((k.mark d).bind fun () => k.clearJournal f d)
      ((k.mark d').bind fun () => k.clearJournal f' d') := by
    rw [mark_eq alike]
    exact Agree.bind (R := Eq) (.refl (fun _ => rfl) _) fun _ _ _ => agree_clearJournal files alike
  rcases cleared.split with ⟨error, left, right⟩ | ⟨e, e', left, right, alike⟩
  · rw [left, right]
    exact ⟨rfl, alike⟩
  · rw [left, right]
    exact twins_findLog plain files alike

theorem rights_eq (manner : Manner) (alike : d.Alike d') :
    k.rights manner d = k.rights manner d' := by
  rw [rights, rights, alike.hasDirectory]

theorem alike_close (named : k.place.isBase = false) (plain : ¬ k.place.IsJournal) (manner : Manner)
    {wrote wrote' : Bool} {after after' : File} (afters : after.Alike after')
    (alike : d.Alike d') :
    (k.close manner wrote after d).Alike (k.close manner wrote' after' d') := by
  have put := alike.setFile plain afters
  have journal : (k.beside .journal).IsJournal := Location.isJournal_of named
  unfold close
  cases manner with
  | journal =>
    dsimp only
    rw [Disk.removeFile_journal put.settled journal,
      Disk.removeFile_journal put.settled_right journal, ite_self, ite_self]
    exact put
  | log index =>
    dsimp only
    split
    · exact put
    split
    · exact put.removeFile _
    · exact (put.removeFile _).removeFile _

end Link

/-! ## Addresses -/

theorem isPassable_eq (alike : d.Alike d') (l : Location) (parts : List String) :
    isPassable d l parts = isPassable d' l parts := by
  induction parts generalizing l with
  | nil => rfl
  | cons part rest ih =>
    have absent : (d.file? l).isNone = (d'.file? l).isNone := by
      rw [← Option.not_isSome, ← Option.not_isSome, alike.isSome_file?]
    rw [isPassable, isPassable, ih, absent]

theorem agree_openAt (alike : d.Alike d') (p : Path) (opening : Opening) :
    Agree File.Alike (openAt d p opening) (openAt d' p opening) := by
  unfold openAt
  dsimp only
  rw [isPassable_eq alike, Disk.isThere_eq alike, alike.hasDirectory]
  split
  · exact .error _
  split
  · exact .error _
  split
  · exact .error _
  split
  · exact .error _
  rcases split_rel (alike.file? (.ofPath p)) with ⟨left, right⟩ | ⟨f, f', left, right, files⟩
  · rw [left, right]
    dsimp only
    split
    · exact .ok (.refl _)
    · exact .error _
  · rw [left, right]
    exact .ok files

/-- An address that is not named as a journal. -/
def Address.Plain : Address → Prop
  | .file path _ => ¬ (Location.ofPath path).IsJournal
  | .memory _ | .refused _ => True

theorem twins_looked {refuse : SqliteError → Fault} {wrote : α → Bool} {wrote' : β → Bool}
    {work : Rights → File → Except Fault α × File}
    {work' : Rights → File → Except Fault β × File}
    (works : ∀ rights f f', f.Alike f' →
      Twins (Agree A) File.Alike (work rights f) (work' rights f'))
    {k : Link} (named : k.place.isBase = false) (plain : ¬ k.place.IsJournal) (files : f.Alike f')
    (alike : d.Alike d') :
    Twins (Agree A) Disk.Alike (looked refuse wrote work k f d)
      (looked refuse wrote' work' k f' d') := by
  obtain ⟨result, e, _, e', eq, eq', rfl, alike⟩ := (Link.twins_reach plain files alike).pairs
  rw [looked, looked, eq, eq']
  cases result with
  | error error => exact ⟨.error _, alike⟩
  | ok manner =>
    have worked := works (k.rights manner e) f f' files
    dsimp only
    rw [← Link.rights_eq manner alike]
    exact ⟨worked.1, Link.alike_close named plain manner worked.2 alike⟩

theorem twins_connected {address : Address} (plain : address.Plain) {refuse : SqliteError → Fault}
    {inMemory : Rights → File → Except Fault α × File}
    {inMemory' : Rights → File → Except Fault β × File}
    {work : Link → File → Disk → Except Fault α × Disk}
    {work' : Link → File → Disk → Except Fault β × Disk}
    (memories : ∀ rights f f', f.Alike f' →
      Twins (Agree A) File.Alike (inMemory rights f) (inMemory' rights f'))
    (works : ∀ (k : Link) f f' (d d' : Disk), k.place.isBase = false → ¬ k.place.IsJournal →
      f.Alike f' → d.Alike d' → Twins (Agree A) Disk.Alike (work k f d) (work' k f' d'))
    (alike : d.Alike d') :
    Twins (Agree A) Disk.Alike (connected address refuse inMemory work d)
      (connected address refuse inMemory' work' d') := by
  cases address with
  | refused error => exact ⟨.error _, alike⟩
  | memory writes => exact ⟨(memories _ {} {} (.refl _)).1, alike⟩
  | file path opening =>
    unfold connected
    dsimp only
    rcases (agree_openAt alike path opening).split with
      ⟨error, left, right⟩ | ⟨f, f', left, right, files⟩
    · rw [left, right]
      exact ⟨.error _, alike⟩
    · rw [left, right]
      have named := (openAt_eq_ok_iff.mp left).isBase_eq
      exact works _ f f' _ _ named plain files (alike.setFile plain files)

theorem twins_carryOut {address : Address} (plain : address.Plain) (purpose : Purpose)
    {st st' : Statement} (asks : st.Alike st') {wrote : α → Bool} {wrote' : β → Bool}
    {work : Rights → File → Except Fault α × File}
    {work' : Rights → File → Except Fault β × File}
    (works : ∀ rights f f', f.Alike f' →
      Twins (Agree A) File.Alike (work rights f) (work' rights f'))
    (alike : d.Alike d') :
    Twins (Agree A) Disk.Alike (carryOut address purpose st wrote work d)
      (carryOut address purpose st' wrote' work' d') := by
  have needs : needsTable st' = needsTable st := by
    rw [needsTable, needsTable, ofStatement_eq asks]
  refine twins_connected plain works (fun k f f' d d' named plain files alike => ?_) alike
  rw [needs]
  split
  · exact twins_looked works named plain files alike
  · exact ⟨(works {} f f' files).1, alike⟩

/-- The statements of an address that is not named as a journal. -/
theorem respects_handleAt {address : Address} (plain : address.Plain) :
    (handleAt address).Respects Disk.Alike where
  rows asks alike := twins_carryOut plain .query asks
    (fun rights _ _ files => (File.respects rights).rows asks files) alike
  row asks alike := twins_carryOut plain .query asks
    (fun rights _ _ files => (File.respects rights).row asks files) alike
  execute asks alike := (twins_carryOut plain .statement asks
    (fun rights _ _ files => ((File.respects rights).execute asks files).agree) alike).eq

/-! ## The schema -/

theorem twins_initFile {k : Link} (named : k.place.isBase = false) (plain : ¬ k.place.IsJournal)
    (files : f.Alike f') (alike : d.Alike d') :
    Twins Eq Disk.Alike (initFile k f d) (initFile k f' d') := by
  have finish (manner : Manner) {g g' : File} {e e' : Disk} (kept : g.Alike g')
      (alike : e.Alike e') :
      Twins Eq Disk.Alike
        ((g.createSchema (k.rights manner e)).1,
          k.close manner ((g.createSchema (k.rights manner e)).2 ≠ g)
            (g.createSchema (k.rights manner e)).2 e)
        ((g'.createSchema (k.rights manner e')).1,
          k.close manner ((g'.createSchema (k.rights manner e')).2 ≠ g')
            (g'.createSchema (k.rights manner e')).2 e') := by
    rw [← Link.rights_eq manner alike]
    have created := File.twins_createSchema (k.rights manner e) kept
    exact ⟨created.1, Link.alike_close named plain manner created.2 alike⟩
  obtain ⟨result, e, _, e', eq, eq', rfl, alike⟩ := (Link.twins_reach plain files alike).pairs
  rw [initFile, initFile, eq, eq']
  cases result with
  | error error => exact ⟨rfl, alike⟩
  | ok manner =>
    cases manner with
    | log index => exact finish (.log index) files alike
    | journal =>
      dsimp only
      rw [← Link.rights_eq .journal alike]
      rcases (File.agree_startLog (k.rights .journal e) files).split with
        ⟨fault, left, right⟩ | ⟨kept, kept', left, right, started⟩
      · have closed : (k.close .journal false f e).Alike (k.close .journal false f' e') :=
          Link.alike_close named plain .journal files alike
        rw [left, right]
        exact ⟨rfl, closed⟩
      · rw [left, right]
        dsimp only
        rw [started.logged]
        split
        · have closed : (k.close .journal (kept ≠ f) kept e).Alike
              (k.close .journal (kept' ≠ f') kept' e') :=
            Link.alike_close named plain .journal started alike
          obtain ⟨result, e, _, e', eq, eq', rfl, alike⟩ :=
            (Link.twins_openLog plain started closed).pairs
          rw [eq, eq']
          cases result with
          | error error => exact ⟨rfl, alike⟩
          | ok manner => exact finish manner started alike
        · have finished := finish .journal started alike
          rwa [← Link.rights_eq .journal alike] at finished

theorem twins_initAt {address : Address} (plain : address.Plain) (alike : d.Alike d') :
    Twins Eq Disk.Alike (initAt address d) (initAt address d') :=
  (twins_connected plain (fun rights _ _ files => (File.twins_initWith rights files).agree)
    (fun _ _ _ _ _ named plain files alike => (twins_initFile named plain files alike).agree)
    alike).eq

end Sqlite

end PuppetRegistry
