import PuppetRegistry.Proofs.Disk
import PuppetRegistry.Sqlite.Beside

/-!
# Looking at a file again

A connection touches nothing beside a file but a journal, a log and an index, and no directory. Main
statement: a file that has been looked at and closed as it was can be looked at again.
-/

namespace PuppetRegistry.Sqlite

variable {k : Link} {f : File} {d d' d'' : Disk} {manner : Manner} {index : Index} {l : Location}
  {touched : List Companion} {c : Companion}

/-! ## Places beside a file -/

theorem Companion.of_inj {c c' : Companion} (named : l.isBase = false) (same : c.of l = c'.of l) :
    c = c' := by
  obtain ⟨fromTop, above, names⟩ := l
  cases names with
  | nil => cases named
  | cons last others =>
    have names : last ++ c.ending = last ++ c'.ending :=
      (List.cons.inj (Location.mk.inj same).2.2).1
    have endings : c.ending = c'.ending := (String.append_right_inj last).mp names
    cases c <;> cases c' <;> first | rfl | exact absurd endings (by decide)

theorem Companion.of_ne (c : Companion) (named : l.isBase = false) : c.of l ≠ l := by
  obtain ⟨fromTop, above, names⟩ := l
  cases names with
  | nil => cases named
  | cons last others =>
    intro same
    have grown : last ++ c.ending = last := (List.cons.inj (Location.mk.inj same).2.2).1
    have none : c.ending = "" := String.append_eq_left_iff.mp grown
    cases c <;> exact absurd none (by decide)

namespace Link

/-! ## What is spared -/

/-- A disk is like another one but for some of what is beside a file. Where no file is in a
directory's place, none comes there. -/
structure Spares (k : Link) (touched : List Companion) (d d' : Disk) : Prop where
  directories : d'.directories = d.directories
  files : ∀ l, (∀ c ∈ touched, l ≠ k.beside c) → d'.file? l = d.file? l
  ways : ∀ l, d.hasDirectory l = true → d.file? l = none → d'.file? l = none

theorem Spares.hasDirectory (spares : k.Spares touched d d') (l : Location) :
    d'.hasDirectory l = d.hasDirectory l := by
  rw [Disk.hasDirectory, Disk.hasDirectory, spares.directories]

theorem Spares.refl (d : Disk) : k.Spares touched d d :=
  ⟨rfl, fun _ _ => rfl, fun _ _ none => none⟩

theorem Spares.trans (first : k.Spares touched d d') (second : k.Spares touched d' d'') :
    k.Spares touched d d'' where
  directories := second.directories.trans first.directories
  files l apart := (second.files l apart).trans (first.files l apart)
  ways l there none :=
    second.ways l ((first.hasDirectory l).trans there) (first.ways l there none)

theorem Spares.mono {more : List Companion} (spares : k.Spares touched d d')
    (within : touched ⊆ more) : k.Spares more d d' :=
  ⟨spares.directories, fun l apart => spares.files l fun c mem => apart c (within mem),
    spares.ways⟩

theorem Spares.place (spares : k.Spares touched d d') (named : k.place.isBase = false) :
    d'.file? k.place = d.file? k.place :=
  spares.files _ fun c _ => (c.of_ne named).symm

theorem Spares.companion (spares : k.Spares touched d d') (named : k.place.isBase = false)
    (untouched : c ∉ touched) : d'.file? (k.beside c) = d.file? (k.beside c) :=
  spares.files _ fun _ mem same => untouched (Companion.of_inj named same ▸ mem)

theorem isOccupied_congr (files : d'.file? l = d.file? l)
    (directories : d'.hasDirectory l = d.hasDirectory l) :
    isOccupied d' l = isOccupied d l := by
  rw [isOccupied, isOccupied, files, directories]

theorem Spares.isOccupied (spares : k.Spares touched d d') (named : k.place.isBase = false)
    (untouched : c ∉ touched) :
    Link.isOccupied d' (k.beside c) = Link.isOccupied d (k.beside c) :=
  isOccupied_congr (spares.companion named untouched) (spares.hasDirectory _)

theorem Spares.isTaken (spares : k.Spares touched d d') (named : k.place.isBase = false)
    (untouched : c ∉ touched) : Link.isTaken d' (k.beside c) = Link.isTaken d (k.beside c) := by
  rw [Link.isTaken, Link.isTaken, spares.hasDirectory, spares.companion named untouched]

theorem spares_removeFile (mem : c ∈ touched) (d : Disk) :
    k.Spares touched d (d.removeFile (k.beside c)) where
  directories := rfl
  files l apart := by rw [Disk.file?_removeFile, if_neg (apart c mem)]
  ways l _ none := by
    rw [Disk.file?_removeFile]
    split
    · rfl
    · exact none

theorem spares_setFile (mem : c ∈ touched) (free : d.hasDirectory (k.beside c) = false)
    (f : File) : k.Spares touched d (d.setFile (k.beside c) f) where
  directories := rfl
  files l apart := by rw [Disk.file?_setFile, if_neg (apart c mem)]
  ways l there none := by
    rw [Disk.file?_setFile, if_neg, none]
    rintro rfl
    rw [free] at there
    cases there

theorem file?_put (held : d.file? l = some f) (l' : Location) :
    (d.setFile l f).file? l' = d.file? l' := by
  rw [Disk.file?_setFile]
  split
  · next here => rw [here, held]
  · rfl

theorem spares_put (held : d.file? k.place = some f) :
    k.Spares touched d (d.setFile k.place f) where
  directories := rfl
  files l _ := file?_put held l
  ways l _ none := (file?_put held l).trans none

/-! ## The log and its index -/

/-- A disk with a log beside a file, an empty one if there was none. -/
def withLog (k : Link) (d : Disk) : Disk :=
  if (d.file? (k.beside .log)).isSome then d else d.setFile (k.beside .log) {}

/-- An index can be used, or done without. -/
def IndexFits (k : Link) (d : Disk) : Prop :=
  (k.opening.layer = .soleLocks ∧ k.opening.writes = true) ∨
  (k.opening.fixedIndex = false ∧ d.hasDirectory (k.beside .index) = false) ∨
  (isOccupied d (k.beside .log) = false ∧
    (k.opening.fixedIndex = true → isTaken d (k.beside .index) = true))

theorem exists_openIndex {held : Bool} (fits : held = true ∨ k.IndexFits d) :
    ∃ index d', k.openIndex held d = (.ok index, d') := by
  unfold openIndex
  dsimp only
  split
  · exact ⟨_, _, rfl⟩
  next notHeld =>
  split
  · exact ⟨_, _, rfl⟩
  next notSole =>
  have choice := fits.resolve_left notHeld |>.resolve_left fun sole => notSole (by simp [sole])
  split
  · next missing =>
    obtain ⟨fixed, gone⟩ := Bool.and_eq_true_iff.mp missing
    rcases choice with ⟨free, _⟩ | ⟨_, present⟩
    · rw [fixed] at free
      cases free
    · rw [present fixed] at gone
      cases gone
  split
  · next fixed =>
    rcases choice with ⟨free, undirected⟩ | ⟨idle, _⟩
    · rw [free, undirected] at fixed
      cases fixed
    · rw [idle]
      exact ⟨_, _, rfl⟩
  · exact ⟨_, _, rfl⟩

theorem openIndex_cases {held : Bool} (opened : k.openIndex held d = (.ok index, d')) :
    (held = true ∧ index = .borrowed ∧ d' = d) ∨
    (k.opening.layer = .soleLocks ∧ k.opening.writes = true ∧ index = .inner ∧ d' = d) ∨
    (isOccupied d (k.beside .log) = false ∧
      (k.opening.fixedIndex = true → isTaken d (k.beside .index) = true) ∧
      index = .fixed ∧ d' = d) ∨
    (k.opening.fixedIndex = false ∧ d.hasDirectory (k.beside .index) = false ∧
      index = .own ∧ d' = d.setFile (k.beside .index) indexFile) := by
  unfold openIndex at opened
  dsimp only at opened
  split at opened
  · next isHeld =>
    cases opened
    exact .inl ⟨isHeld, rfl, rfl⟩
  split at opened
  · next sole =>
    cases opened
    obtain ⟨layer, writes⟩ := Bool.and_eq_true_iff.mp sole
    exact .inr (.inl ⟨of_decide_eq_true layer, writes, rfl, rfl⟩)
  split at opened
  · cases opened
  next present =>
    split at opened
    · next fixed =>
      split at opened
      · cases opened
      · next free =>
        cases opened
        refine .inr (.inr (.inl ⟨by simpa using free, fun isFixed => ?_, rfl, rfl⟩))
        simpa [isFixed] using present
    · next own =>
      cases opened
      simp only [Bool.or_eq_true, not_or, Bool.not_eq_true] at own
      exact .inr (.inr (.inr ⟨own.1, own.2, rfl, rfl⟩))

theorem spares_openIndex {held : Bool} (opened : k.openIndex held d = (.ok index, d')) :
    k.Spares [.log, .index] d d' := by
  rcases openIndex_cases opened with ⟨_, _, rfl⟩ | ⟨_, _, _, rfl⟩ | ⟨_, _, _, rfl⟩ |
    ⟨_, free, _, rfl⟩
  · exact .refl _
  · exact .refl _
  · exact .refl _
  · exact spares_setFile (by decide) free indexFile

theorem spares_withLog (free : d.hasDirectory (k.beside .log) = false) :
    k.Spares [.log, .index] d (k.withLog d) := by
  unfold withLog
  split
  · exact .refl d
  · exact spares_setFile (by decide) free {}

theorem hasDirectory_withLog (d : Disk) (l : Location) :
    (k.withLog d).hasDirectory l = d.hasDirectory l := by
  unfold withLog
  split <;> rfl

theorem file?_withLog (d : Disk) (other : l ≠ k.beside .log) :
    (k.withLog d).file? l = d.file? l := by
  unfold withLog
  split
  · rfl
  · rw [Disk.file?_setFile, if_neg other]

/-- Whether a log is in use is not changed by creating an empty one. -/
theorem isOccupied_withLog (d : Disk) :
    isOccupied (k.withLog d) (k.beside .log) = isOccupied d (k.beside .log) := by
  unfold withLog
  split
  · rfl
  · next none =>
    rw [Bool.not_eq_true, Option.isSome_eq_false_iff, Option.isNone_iff_eq_none] at none
    rw [isOccupied, Disk.file?_setFile, if_pos rfl, isOccupied, none]
    rfl

theorem openLog_eq (k : Link) (f : File) (d : Disk) :
    k.openLog f d =
      if !k.opening.shares || d.hasDirectory (k.beside .log) then (.error .cannotOpen, d)
      else
        ((k.openIndex (k.isLogHeld f d) (k.withLog d)).1.map .log,
          (k.openIndex (k.isLogHeld f d) (k.withLog d)).2) := rfl

theorem openLog_cases (opened : k.openLog f d = (.ok manner, d')) :
    k.opening.shares = true ∧ d.hasDirectory (k.beside .log) = false ∧
      ∃ index, manner = .log index ∧
        k.openIndex (k.isLogHeld f d) (k.withLog d) = (.ok index, d') := by
  rw [openLog_eq] at opened
  split at opened
  · cases opened
  next usable =>
    rw [Bool.or_eq_true, not_or, Bool.not_eq_true', Bool.not_eq_false, Bool.not_eq_true] at usable
    refine ⟨usable.1, usable.2, ?_⟩
    generalize k.openIndex (k.isLogHeld f d) (k.withLog d) = found at opened ⊢
    obtain ⟨error | index, after⟩ := found
    · cases opened
    · cases opened
      exact ⟨index, rfl, rfl⟩

theorem exists_openLog (shares : k.opening.shares = true)
    (free : d.hasDirectory (k.beside .log) = false)
    (fits : k.isLogHeld f d = true ∨ k.IndexFits (k.withLog d)) :
    ∃ manner d', k.openLog f d = (.ok manner, d') := by
  obtain ⟨index, d', opened⟩ := exists_openIndex fits
  refine ⟨.log index, d', ?_⟩
  rw [openLog_eq, shares, free, opened]
  rfl

theorem spares_openLog (opened : k.openLog f d = (.ok manner, d')) :
    k.Spares [.log, .index] d d' := by
  obtain ⟨_, free, index, rfl, indexed⟩ := openLog_cases opened
  exact (spares_withLog free).trans (spares_openIndex indexed)

theorem findLog_eq (written : f.written = true) (whole : f.damaged = false) :
    k.findLog f d =
      if isOccupied d (k.beside .log) || f.logged then k.openLog f d else (.ok .journal, d) := by
  simp [findLog, written, whole]

theorem spares_findLog (written : f.written = true) (whole : f.damaged = false)
    (found : k.findLog f d = (.ok manner, d')) : k.Spares [.log, .index] d d' := by
  rw [findLog_eq written whole] at found
  split at found
  · exact spares_openLog found
  · cases found
    exact .refl d

/-! ## The journal -/

/-- A journal that is not there, or that somebody is writing, is left. Any other is removed. -/
theorem clearJournal_cases (written : f.written = true) (cleared : k.clearJournal f d = .ok d') :
    (isOccupied d (k.beside .journal) = false ∧ d' = d) ∨
    (k.seesWriter f d = true ∧ d' = d) ∨
    (d.hasDirectory (k.beside .journal) = false ∧ d' = d.removeFile (k.beside .journal)) := by
  unfold clearJournal at cleared
  dsimp only at cleared
  split at cleared
  · next left =>
    cases cleared
    rcases Bool.or_eq_true_iff.mp left with none | busy
    · exact .inl ⟨by simpa using none, rfl⟩
    · exact .inr (.inl ⟨busy, rfl⟩)
  · rw [written] at cleared
    split at cleared
    · next unwritten => cases unwritten
    split at cleared
    · cases cleared
    next undirected =>
    split at cleared
    · cases cleared
    split at cleared
    · cases cleared
    · cases cleared
      exact .inr (.inr ⟨by simpa using undirected, rfl⟩)

/-- With no other connection about, only markers tell of a writer. -/
theorem seesWriter_of_spares (unlocked : f.locked = false) (named : k.place.isBase = false)
    (spares : k.Spares touched d d') (unmarked : .marker ∉ touched) :
    k.seesWriter f d' = k.seesWriter f d := by
  unfold seesWriter
  rw [spares.isTaken named unmarked, unlocked]
  rfl

/-- What has been cleared up once need not be cleared up again. -/
theorem clearJournal_again (named : k.place.isBase = false) (written : f.written = true)
    (calm : f.locked = false ∨ isOccupied d (k.beside .journal) = false) {d₁ d₂ : Disk}
    (cleared : k.clearJournal f d = .ok d₁) (spares : k.Spares [.log, .index] d₁ d₂) :
    k.clearJournal f d₂ = .ok d₂ := by
  have same := spares.isOccupied named (c := .journal) (by decide)
  have settled : isOccupied d₂ (k.beside .journal) = false ∨ k.seesWriter f d₂ = true := by
    rcases clearJournal_cases written cleared with ⟨quiet, rfl⟩ | ⟨busy, rfl⟩ | ⟨undirected, rfl⟩
    · exact .inl (same.trans quiet)
    · rcases calm with unlocked | quiet
      · exact .inr ((seesWriter_of_spares unlocked named spares (by decide)).trans busy)
      · exact .inl (same.trans quiet)
    · have gone : isOccupied (d.removeFile (k.beside .journal)) (k.beside .journal) = false := by
        rw [isOccupied, Disk.file?_removeFile, if_pos rfl]
        exact Bool.or_eq_false_iff.mpr ⟨undirected, rfl⟩
      exact .inl (same.trans gone)
  unfold clearJournal
  rcases settled with quiet | busy
  · simp [quiet]
  · simp [busy]

/-! ## Looking and closing -/

theorem Spares.mark (spares : k.Spares touched d d') (named : k.place.isBase = false)
    (unmarked : .marker ∉ touched) : k.mark d' = k.mark d := by
  unfold Link.mark
  rw [spares.isTaken named unmarked]

/-- A frozen file is not cared for. Of any other, the journal is cleared up first. -/
theorem reach_cases (reached : k.reach f d = (.ok manner, d')) :
    (k.opening.frozen = true ∧ manner = .journal ∧ d' = d) ∨
    (k.opening.frozen = false ∧ k.mark d = .ok () ∧
      ∃ d₁, k.clearJournal f d = .ok d₁ ∧ k.findLog f d₁ = (.ok manner, d')) := by
  unfold reach at reached
  split at reached
  · next frozen =>
    cases reached
    exact .inl ⟨frozen, rfl, rfl⟩
  next frozen =>
  cases marked : k.mark d with
  | error error =>
    rw [marked] at reached
    cases reached
  | ok =>
    rw [marked] at reached
    cases cleared : k.clearJournal f d with
    | error error =>
      simp only [Except.bind, cleared] at reached
      cases reached
    | ok d₁ =>
      simp only [Except.bind, cleared] at reached
      exact .inr ⟨by simpa using frozen, rfl, d₁, rfl, reached⟩

/-- What a connection may create or clear away beside a file. -/
def passing : List Companion :=
  [.journal, .log, .index]

theorem spares_reach (written : f.written = true) (whole : f.damaged = false)
    (reached : k.reach f d = (.ok manner, d')) : k.Spares passing d d' := by
  rcases reach_cases reached with ⟨_, _, rfl⟩ | ⟨_, _, d₁, cleared, found⟩
  · exact .refl d'
  · have clearing : k.Spares passing d d₁ := by
      rcases clearJournal_cases written cleared with ⟨_, rfl⟩ | ⟨_, rfl⟩ | ⟨_, rfl⟩
      · exact .refl d₁
      · exact .refl d₁
      · exact spares_removeFile (by decide) d
    exact clearing.trans ((spares_findLog written whole found).mono (by decide))

theorem spares_close (held : d.file? k.place = some f) (manner : Manner) :
    k.Spares [.log, .index] d (k.close manner false f d) := by
  have put : k.Spares [.log, .index] d (d.setFile k.place f) := spares_put held
  unfold close
  cases manner with
  | journal => simpa using put
  | log index =>
    dsimp only
    split
    · exact put
    · split
      · exact put.trans (spares_removeFile (by decide) _)
      · exact (put.trans (spares_removeFile (by decide) _)).trans
          (spares_removeFile (by decide) _)

theorem file?_put_beside (named : k.place.isBase = false) (c : Companion) (d : Disk) (f : File) :
    (d.setFile k.place f).file? (k.beside c) = d.file? (k.beside c) := by
  exact (Disk.file?_setFile ..).trans (if_neg (c.of_ne named))

/-- A log or an index that cannot be cleared away is left, and so is a journal where none was
needed. -/
theorem close_idle (idle : manner = .journal ∨ manner = .log .borrowed ∨ manner = .log .fixed) :
    k.close manner false f d = d.setFile k.place f := by
  rcases idle with rfl | rfl | rfl
  · simp [close]
  · simp [close]
  · simp [close]

/-- A log that has been used can be used again: what its index asks for has not changed. -/
theorem exists_openLog_again (named : k.place.isBase = false) {d₂ : Disk}
    (spares : k.Spares touched d d₂)
    (files : ∀ l, d₂.file? l = (k.close manner false f d').file? l)
    (opened : k.openLog f d = (.ok manner, d')) :
    ∃ manner' d'', k.openLog f d₂ = (.ok manner', d'') := by
  obtain ⟨shares, free, index, rfl, indexed⟩ := openLog_cases opened
  apply exists_openLog shares ((spares.hasDirectory _).trans free)
  rcases openIndex_cases indexed with ⟨isHeld, rfl, rfl⟩ | ⟨layer, writes, rfl, rfl⟩ |
    ⟨idle, present, rfl, rfl⟩ | ⟨loose, undirected, rfl, rfl⟩
  · obtain ⟨locked, logThere⟩ := Bool.and_eq_true_iff.mp isHeld
    have same : d₂.file? (k.beside .log) = d.file? (k.beside .log) := by
      rw [files, close_idle (.inr (.inl rfl)), file?_put_beside named, withLog, if_pos logThere]
    left
    rw [isLogHeld, locked, same, logThere]
    rfl
  · exact .inr (.inl ⟨layer, writes⟩)
  · have same (c : Companion) : d₂.file? (k.beside c) = (k.withLog d).file? (k.beside c) := by
      rw [files, close_idle (.inr (.inr rfl)), file?_put_beside named]
    have alike (l : Location) : d₂.hasDirectory l = (k.withLog d).hasDirectory l :=
      (spares.hasDirectory l).trans (hasDirectory_withLog d l).symm
    have other : k.beside .index ≠ k.beside .log := fun same =>
      nomatch Companion.of_inj named same
    refine .inr (.inr (.inr ⟨?_, fun fixed => ?_⟩))
    · rw [isOccupied_withLog, isOccupied_congr (same .log) (alike _)]
      exact idle
    · rw [isTaken, hasDirectory_withLog, file?_withLog d₂ other, same .index, alike]
      exact present fixed
  · rw [hasDirectory_withLog, ← spares.hasDirectory] at undirected
    exact .inr (.inr (.inl ⟨loose, (hasDirectory_withLog d₂ _).trans undirected⟩))

/-- A file that keeps a log, or is used without one, can be looked at again after it has been looked
at and closed as it was. -/
theorem exists_reach_again (named : k.place.isBase = false) (held : d.file? k.place = some f)
    (written : f.written = true) (whole : f.damaged = false)
    (logged : f.logged = true ∨ k.opening.shares = false)
    (calm : f.locked = false ∨ isOccupied d (k.beside .journal) = false)
    (reached : k.reach f d = (.ok manner, d')) {d₂ : Disk}
    (directories : d₂.directories = (k.close manner false f d').directories)
    (files : ∀ l, d₂.file? l = (k.close manner false f d').file? l) :
    ∃ manner' d'', k.reach f d₂ = (.ok manner', d'') := by
  have held' : d'.file? k.place = some f :=
    ((spares_reach written whole reached).place named).trans held
  have copied : k.Spares [.log, .index] (k.close manner false f d') d₂ :=
    ⟨directories, fun l _ => files l, fun l _ none => (files l).trans none⟩
  have closed := (spares_close held' manner).trans copied
  rcases reach_cases reached with ⟨frozen, _⟩ | ⟨thawed, marked, d₁, cleared, found⟩
  · exact ⟨.journal, d₂, by rw [reach, if_pos frozen]⟩
  have since : k.Spares [.log, .index] d₁ d₂ := (spares_findLog written whole found).trans closed
  have marked' : k.mark d₂ = .ok () := by
    have all := (spares_reach written whole reached).trans (closed.mono (by decide))
    exact (all.mark named (by decide)).trans marked
  have again : k.reach f d₂ = k.findLog f d₂ := by
    rw [reach, thawed, marked']
    simp only [Except.bind, clearJournal_again named written calm cleared since]
    rfl
  rw [again, findLog_eq written whole]
  rw [findLog_eq written whole] at found
  split at found
  · obtain ⟨shares, -, -⟩ := openLog_cases found
    have keeps : f.logged = true := logged.resolve_right (by simp [shares])
    rw [keeps, Bool.or_true, if_pos rfl]
    exact exists_openLog_again named since files found
  · next unused =>
    cases found
    have same : d₂.file? (k.beside .log) = d'.file? (k.beside .log) := by
      rw [files, close_idle (.inl rfl), file?_put_beside named]
    rw [isOccupied_congr same (since.hasDirectory _), if_neg unused]
    exact ⟨_, _, rfl⟩

end Link

end PuppetRegistry.Sqlite
