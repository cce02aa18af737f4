import PuppetRegistry.Proofs.Sqlite.Kept

/-!
# Initialising for the first time

A file that may be new, or may have been written long ago, is initialised by way of its path. What
stands beside it has to be what connections leave there. Main statement: if that succeeds, the file
is kept from then on, and its schema is the current one.
-/

namespace PuppetRegistry.Sqlite

variable {path : Path} {f after : File} {d d' d₁ : Disk} {k : Link} {manner : Manner} {wrote : Bool}
  {l : Location} {rights : Rights}

/-- What stands beside a file is what connections leave there: only a file that has been written
keeps a log, a log that holds anything is that of a file that keeps one, and a lock on such a file
is held by means of the log. A log that somebody else has put there would be used and taken away
again, and the file would still keep none. -/
structure Orderly (l : Location) (f : File) (d : Disk) : Prop where
  written : f.logged = true → f.written = true
  owned : f.written = true → Link.isOccupied d (Companion.log.of l) = true → f.logged = true
  held : f.logged = true → f.locked = true → (d.file? (Companion.log.of l)).isSome = true

theorem Orderly.of_unlogged (logless : f.logged = false)
    (clear : f.written = true → Link.isOccupied d (Companion.log.of l) = false) :
    Orderly l f d := by
  refine ⟨fun logged => ?_, fun written occupied => ?_, fun logged => ?_⟩
  · simp [logless] at logged
  · simp [clear written] at occupied
  · simp [logless] at logged

/-- Putting a file where it is leaves what stands beside it orderly. -/
theorem Orderly.put (tidy : Orderly l f d) (named : l.isBase = false) :
    Orderly l f (d.setFile l f) := by
  have same : (d.setFile l f).file? (Companion.log.of l) = d.file? (Companion.log.of l) :=
    Link.file?_put_beside (k := ⟨l, {}⟩) named .log d f
  refine ⟨tidy.written, fun written occupied => ?_, fun logged locked => ?_⟩
  · exact tidy.owned written ((Link.isOccupied_congr same rfl).symm.trans occupied)
  · rw [same]
    exact tidy.held logged locked

namespace File

theorem createSchema_ok (done : f.createSchema rights = (.ok (), after)) :
    after.version = Fault.currentSchema ∧ after.table.isSome = true ∧ after.damaged = false ∧
      after.logged = f.logged ∧ after.locked = f.locked ∧
      (f.written = true → after.written = true) := by
  unfold createSchema at done
  split at done
  · cases done
  next whole =>
  split at done
  · cases done
  split at done
  · next current =>
    cases done
    obtain ⟨table, version⟩ := Bool.and_eq_true_iff.mp current
    exact ⟨beq_iff_eq.mp version, table, by simpa using whole, rfl, rfl, id⟩
  · split at done
    · cases done
    · cases done
      exact ⟨rfl, rfl, by simpa using whole, rfl, rfl, fun _ => rfl⟩

/-- A file that starts to keep a log may be written. -/
theorem startLog_ok {kept : File} (fresh : f.logged = false) (shares : rights.shares = true)
    (done : f.startLog rights = .ok kept) :
    kept = { f with written := true, logged := true } ∧ f.locked = false ∧
      rights.staged = true := by
  unfold startLog at done
  split at done
  · cases done
  split at done
  · next settled => simp [fresh, shares] at settled
  cases permitted : f.permit rights with
  | error error =>
    rw [permitted] at done
    cases done
  | ok =>
    rw [permitted] at done
    cases done
    unfold permit at permitted
    split at permitted
    · cases permitted
    split at permitted
    · cases permitted
    next unlocked =>
    split at permitted
    · cases permitted
    next staged =>
    refine ⟨rfl, ?_, by simpa using staged⟩
    simpa [shares] using unlocked

theorem logged_of_startLog {kept : File} (shares : rights.shares = true)
    (done : f.startLog rights = .ok kept) : kept.logged = true := by
  cases fresh : f.logged with
  | false =>
    rw [(startLog_ok fresh shares done).1]
  | true =>
    unfold startLog at done
    rw [fresh, Bool.true_or] at done
    split at done
    · cases done
    · cases done
      exact fresh

end File

namespace Link

/-- A journal that is in the way is removed, or left. -/
theorem spares_clearJournal (cleared : k.clearJournal f d = .ok d') :
    k.Spares [.journal] d d' := by
  have gone : k.Spares [.journal] d (d.removeFile (k.beside .journal)) :=
    spares_removeFile (by decide) d
  unfold clearJournal at cleared
  dsimp only at cleared
  split at cleared
  · cases cleared
    exact .refl _
  split at cleared
  · cases cleared
    split
    · exact gone
    · exact .refl _
  split at cleared
  · cases cleared
  split at cleared
  · cases cleared
  split at cleared
  · cases cleared
  · cases cleared
    exact gone

theorem close_journal {wrote : Bool} (changed : wrote = true) :
    k.close .journal wrote after d = (d.setFile k.place after).removeFile (k.beside .journal) :=
  if_pos changed

theorem undirected_of_staged (staged : (k.rights .journal d).staged = true) :
    d.hasDirectory (k.beside .journal) = false := by
  have both : k.place.nameSize ≤ journalNameLimit ∧ d.hasDirectory (k.beside .journal) = false := by
    simpa [rights] using staged
  exact both.2

/-- Of a file that keeps a log as it should, a connection either uses the log, or finds none and
goes without. -/
theorem findLog_ok (found : k.findLog f d = (.ok manner, d')) :
    (k.openLog f d = (.ok manner, d') ∧
        (f.logged = true ∨ f.written = true ∧ isOccupied d (k.beside .log) = true)) ∨
      (manner = .journal ∧ k.Spares [.log] d d' ∧ (f.logged = true → f.written = true →
        f.damaged = true)) := by
  unfold findLog at found
  dsimp only at found
  split at found
  · next unwritten =>
    split at found
    · cases found
    · cases found
      refine .inr ⟨rfl, spares_removeFile (by decide) d, fun _ written => ?_⟩
      simp [written] at unwritten
  next inUse =>
  split at found
  · next used =>
    refine .inl ⟨found, ?_⟩
    rcases Bool.or_eq_true_iff.mp used with occupied | keeps
    · refine .inr ⟨?_, occupied⟩
      simpa [occupied] using inUse
    · exact .inl (Bool.and_eq_true_iff.mp keeps).1
  · next unused =>
    cases found
    refine .inr ⟨rfl, .refl _, fun logged _ => ?_⟩
    have both : isOccupied d (k.beside .log) = false ∧ f.damaged = true := by
      simpa [logged] using unused
    exact both.2

end Link

/-- Where a log is shared, the schema of a file is created by way of the one that the file keeps, or
that it has started to keep. -/
theorem initFile_ok (shares : k.opening.shares = true) (done : initFile k f d = (.ok (), d')) :
    (∃ index d₁ after, k.reach f d = (.ok (.log index), d₁) ∧
      f.createSchema (k.rights (.log index) d₁) = (.ok (), after) ∧
      d' = k.close (.log index) (after ≠ f) after d₁) ∨
    ∃ d₁ kept manner d₂ after, k.reach f d = (.ok .journal, d₁) ∧
      f.startLog (k.rights .journal d₁) = .ok kept ∧
      k.openLog kept (k.close .journal (kept ≠ f) kept d₁) = (.ok manner, d₂) ∧
      kept.createSchema (k.rights manner d₂) = (.ok (), after) ∧
      d' = k.close manner (after ≠ kept) after d₂ := by
  unfold initFile at done
  cases reached : k.reach f d with
  | mk result d₁ =>
    rw [reached] at done
    cases result with
    | error error => cases done
    | ok manner =>
      cases manner with
      | log index =>
        dsimp only at done
        cases created : f.createSchema (k.rights (.log index) d₁) with
        | mk result after =>
          rw [created] at done
          cases done
          exact .inl ⟨index, d₁, after, rfl, created, rfl⟩
      | journal =>
        dsimp only at done
        cases started : f.startLog (k.rights .journal d₁) with
        | error fault =>
          rw [started] at done
          cases done
        | ok kept =>
          have logs : (kept.logged && k.opening.shares) = true := by
            rw [File.logged_of_startLog shares started, shares]
            rfl
          rw [started] at done
          dsimp only at done
          rw [if_pos logs] at done
          cases opened : k.openLog kept (k.close .journal (kept ≠ f) kept d₁) with
          | mk result d₂ =>
            rw [opened] at done
            cases result with
            | error error => cases done
            | ok manner =>
              dsimp only at done
              cases created : kept.createSchema (k.rights manner d₂) with
              | mk result after =>
                rw [created] at done
                cases done
                exact .inr ⟨d₁, kept, manner, d₂, after, rfl, started, opened, created, rfl⟩

/-- A file whose schema has been created by way of its log is kept. -/
theorem kept_of_openLog {f₀ : File} (opens : Opens d path {} f₀) (leads : d.Leads path)
    (place : k = linkTo path {}) (ways : SameWays d d₁) (logged : f.logged = true)
    (written : f.written = true) (quiet : Link.isOccupied d₁ (k.beside .journal) = false)
    (held : f.locked = true → (d₁.file? (k.beside .log)).isSome = true)
    (opened : k.openLog f d₁ = (.ok manner, d'))
    (done : f.createSchema rights = (.ok (), after)) :
    ∃ rights, Kept path rights after (k.close manner wrote after d') ∧
      after.version = Fault.currentSchema := by
  obtain ⟨version, table, whole, logged', lock, written'⟩ := File.createSchema_ok done
  subst place
  have named : (linkTo path {}).place.isBase = false := opens.isBase_eq
  have calm : Calm _ after ((linkTo path {}).close manner wrote after d') :=
    Link.calm_close named quiet held (fun _ => .inl rfl) opened lock
  have started := (Link.spares_openLog opened).sameWays
  obtain ⟨_, _, index, rfl, _⟩ := Link.openLog_cases opened
  have undirected : d'.hasDirectory (linkTo path {}).place = false :=
    ((ways.trans started).hasDirectory _).trans opens.undirected
  have closed : SameWays d ((linkTo path {}).close (.log index) wrote after d') :=
    ((ways.trans started).trans (.setFile undirected after)).trans
      (Link.spares_close_log index).sameWays
  obtain ⟨opens', leads'⟩ := opens.along leads closed (Link.file?_close_log named index)
  exact ⟨_, ⟨opens', leads', calm, ⟨written' written, whole, logged'.trans logged, table,
    Int.le_of_eq version.symm⟩, rfl⟩, version⟩

section

variable {e e₁ e₂ : Disk} (opens : Opens d path {} f) (leads : d.Leads path)
  (put : SameWays d e) (cleared : (linkTo path {}).clearJournal f e = .ok e₁)

include opens leads put cleared

theorem kept_by_log (tidy : Orderly (.ofPath path) f e)
    (opened : (linkTo path {}).openLog f e₁ = (.ok manner, e₂))
    (used : f.logged = true ∨
      f.written = true ∧ Link.isOccupied e₁ ((linkTo path {}).beside .log) = true)
    (done : f.createSchema rights = (.ok (), after)) :
    ∃ rights, Kept path rights after ((linkTo path {}).close manner wrote after e₂) ∧
      after.version = Fault.currentSchema := by
  have named : (linkTo path {}).place.isBase = false := opens.isBase_eq
  have spares := Link.spares_clearJournal cleared
  have logged : f.logged = true := by
    rcases used with logged | ⟨written, occupied⟩
    · exact logged
    · exact tidy.owned written ((spares.isOccupied named (by decide)).symm.trans occupied)
  have written := tidy.written logged
  have quiet : Link.isOccupied e₁ ((linkTo path {}).beside .journal) = false := by
    rcases Link.clearJournal_cases written cleared with ⟨quiet, rfl⟩ | ⟨busy, rfl⟩ |
      ⟨undirected, rfl⟩
    · exact quiet
    · obtain ⟨locked, unheld⟩ := Bool.and_eq_true_iff.mp busy
      have held : (linkTo path {}).isLogHeld f e₁ = true :=
        Bool.and_eq_true_iff.mpr ⟨locked, tidy.held logged locked⟩
      rw [held] at unheld
      cases unheld
    · exact Link.isOccupied_of_none undirected ((Disk.file?_removeFile ..).trans (if_pos rfl))
  have held (locked : f.locked = true) :
      (e₁.file? ((linkTo path {}).beside .log)).isSome = true := by
    rw [spares.companion named (by decide)]
    exact tidy.held logged locked
  exact kept_of_openLog opens leads rfl (put.trans spares.sameWays) logged written quiet held opened
    done

theorem kept_by_journal {kept : File} (spares : (linkTo path {}).Spares [.log] e₁ e₂)
    (fresh : f.logged = false)
    (started : f.startLog ((linkTo path {}).rights .journal e₂) = .ok kept)
    (opened : (linkTo path {}).openLog kept ((linkTo path {}).close .journal (kept ≠ f) kept e₂) =
      (.ok manner, d'))
    (done : kept.createSchema rights = (.ok (), after)) :
    ∃ rights, Kept path rights after ((linkTo path {}).close manner wrote after d') ∧
      after.version = Fault.currentSchema := by
  have named : (linkTo path {}).place.isBase = false := opens.isBase_eq
  obtain ⟨same, unlocked, staged⟩ := File.startLog_ok fresh rfl started
  have changed : kept ≠ f := by
    rintro rfl
    rw [same] at fresh
    cases fresh
  rw [Link.close_journal (decide_eq_true changed)] at opened
  have clear := put.trans ((Link.spares_clearJournal cleared).sameWays.trans spares.sameWays)
  have place : e₂.hasDirectory (linkTo path {}).place = false :=
    (clear.hasDirectory _).trans opens.undirected
  have gone : (linkTo path {}).Spares [.journal] (e₂.setFile (linkTo path {}).place kept)
      ((e₂.setFile (linkTo path {}).place kept).removeFile ((linkTo path {}).beside .journal)) :=
    Link.spares_removeFile (List.mem_singleton_self _) _
  have ways := (clear.trans (.setFile place kept)).trans gone.sameWays
  refine kept_of_openLog opens leads rfl ways (same ▸ rfl) (same ▸ rfl) ?_ (fun locked => ?_) opened
    done
  · exact Link.isOccupied_of_none (Link.undirected_of_staged staged)
      ((Disk.file?_removeFile ..).trans (if_pos rfl))
  · rw [same] at locked
    rw [unlocked] at locked
    cases locked

end

theorem kept_of_initFile {e : Disk} (opens : Opens d path {} f) (leads : d.Leads path)
    (put : SameWays d e) (tidy : Orderly (.ofPath path) f e)
    (done : initFile (linkTo path {}) f e = (.ok (), d')) :
    ∃ rights f', Kept path rights f' d' ∧ f'.version = Fault.currentSchema := by
  rcases initFile_ok rfl done with ⟨index, e₂, after, reached, created, rfl⟩ |
    ⟨e₂, kept, manner, e₃, after, reached, started, opened, created, rfl⟩
  · rcases Link.reach_cases reached with ⟨frozen, _⟩ | ⟨_, _, e₁, cleared, found⟩
    · cases frozen
    rcases Link.findLog_ok found with ⟨opened, used⟩ | ⟨without, _⟩
    · obtain ⟨rights, kept, version⟩ :=
        kept_by_log opens leads put cleared tidy opened used created
      exact ⟨rights, after, kept, version⟩
    · cases without
  · rcases Link.reach_cases reached with ⟨frozen, _⟩ | ⟨_, _, e₁, cleared, found⟩
    · cases frozen
    rcases Link.findLog_ok found with ⟨used, _⟩ | ⟨_, spares, fails⟩
    · obtain ⟨_, _, index, without, _⟩ := Link.openLog_cases used
      cases without
    · have fresh : f.logged = false := by
        by_contra logged
        rw [Bool.not_eq_false] at logged
        rw [File.startLog, if_pos (fails logged (tidy.written logged))] at started
        cases started
      obtain ⟨rights, kept, version⟩ :=
        kept_by_journal opens leads put cleared spares fresh started opened created
      exact ⟨rights, after, kept, version⟩

/-- A file that has been initialised is kept from then on, and its schema is the current one. -/
theorem kept_of_initAt (leads : d.Leads path)
    (orderly : ∀ f, d.file? (.ofPath path) = some f → Orderly (.ofPath path) f d)
    (done : initAt (.file path {}) d = (.ok (), d')) :
    ∃ rights f, Kept path rights f d' ∧ f.version = Fault.currentSchema := by
  cases found : openAt d path {} with
  | error error =>
    simp only [initAt, connected, found] at done
    cases done
  | ok f =>
    have opens := openAt_eq_ok_iff.mp found
    have tidy : Orderly (.ofPath path) f (d.setFile (.ofPath path) f) := by
      rcases opens.found with held | ⟨_, _, rfl⟩
      · exact (orderly f held).put opens.isBase_eq
      · exact .of_unlogged rfl fun written => absurd written (by decide)
    simp only [initAt, connected, found] at done
    exact kept_of_initFile opens leads (.setFile opens.undirected f) tidy done

end PuppetRegistry.Sqlite
