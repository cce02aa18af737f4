import PuppetRegistry.Proofs.Disk
import PuppetRegistry.Sqlite.Connection

/-!
# Opening files

A file that can be opened is there, or may be created, and the way to it is free. Main statement: it
can be opened again on another disk with the same directories and with the same files where it
matters.
-/

namespace PuppetRegistry.Sqlite

variable {d d' : Disk} {path : Path} {opening : Opening} {f : File} {l l' : Location}

/-- The file that is opened is there, or is to be created, and so is its directory. -/
structure Opens (d : Disk) (path : Path) (opening : Opening) (f : File) : Prop where
  passable : isPassable d (.start path.root) path.parts = true
  short : (Location.ofPath path).pathSize ≤ pathLimit
  model : (opening.modelled.map d.isThere).getD true = true
  directory : d.hasDirectory (Location.ofPath path).parent = true
  undirected : d.hasDirectory (Location.ofPath path) = false
  found : d.file? (Location.ofPath path) = some f ∨
    d.file? (Location.ofPath path) = none ∧ opening.creates = true ∧ f = {}

theorem openAt_eq_ok_iff : openAt d path opening = .ok f ↔ Opens d path opening f := by
  unfold openAt
  dsimp only
  constructor
  · intro opened
    split at opened
    · cases opened
    next way =>
    split at opened
    · cases opened
    next model =>
    split at opened
    · cases opened
    next directory =>
    split at opened
    · cases opened
    next undirected =>
    simp only [Bool.or_eq_true, Bool.not_eq_true', decide_eq_true_eq, not_or, Bool.not_eq_false,
      Nat.not_lt] at way
    refine ⟨way.1, way.2, by simpa using model, by simpa using directory,
      by simpa using undirected, ?_⟩
    split at opened
    · next f' found =>
      cases opened
      exact .inl found
    · next missing =>
      split at opened
      · next creates =>
        cases opened
        exact .inr ⟨missing, creates, rfl⟩
      · cases opened
  · rintro ⟨passable, short, model, directory, undirected, found⟩
    rw [if_neg (by simp [passable, short]), if_neg (by simp [model]), if_neg (by simp [directory]),
      if_neg (by simp [undirected])]
    rcases found with found | ⟨missing, creates, rfl⟩
    · rw [found]
    · rw [missing]
      exact if_pos creates

theorem Opens.isBase_eq (opens : Opens d path opening f) :
    (Location.ofPath path).isBase = false :=
  (Bool.or_eq_false_iff.mp opens.undirected).1

/-! ## On another disk -/

/-- No file comes in the place of a directory. -/
def KeepsWays (d d' : Disk) : Prop :=
  ∀ l, d.hasDirectory l = true → d.file? l = none → d'.file? l = none

theorem isPassable_of_keepsWays (ways : KeepsWays d d') {parts : List String}
    (start : d.hasDirectory l = true) (walked : parts.dropLast.foldlM d.enter l = .ok l')
    (passable : isPassable d l parts = true) : isPassable d' l parts = true := by
  induction parts generalizing l with
  | nil => rfl
  | cons part rest ih =>
    obtain ⟨here, later⟩ := Bool.and_eq_true_iff.mp passable
    refine Bool.and_eq_true_iff.mpr ⟨?_, ?_⟩
    · rcases Bool.or_eq_true_iff.mp here with up | fits
      · rw [up, Bool.true_or]
      · obtain ⟨sizes, none⟩ := Bool.and_eq_true_iff.mp fits
        have none' := ways l start (Option.isNone_iff_eq_none.mp none)
        rw [sizes, none']
        simp
    · cases rest with
      | nil => rfl
      | cons second others =>
        rw [List.dropLast_cons_cons, List.foldlM_cons] at walked
        cases entered : d.enter l part with
        | error =>
          rw [entered] at walked
          cases walked
        | ok next =>
          rw [entered] at walked
          have there := (Disk.enter_eq_ok_iff.mp entered).2
          rw [Disk.enter_eq_ok entered] at there walked
          exact ih there walked later

theorem isThere_of_directories (same : d'.directories = d.directories) {text : String}
    (located : d.locate (.ofText text) = .ok l) (files : d'.file? l = d.file? l) :
    d'.isThere text = d.isThere text := by
  unfold Disk.isThere
  rw [located, Disk.locate_of_directories same located]
  dsimp only
  rw [Disk.hasDirectory, Disk.hasDirectory, same, files]

/-- The way to a file leads through directories, and so does the way to what a new file would take
its permissions from, which is not among some places. -/
structure Reached (d : Disk) (path : Path) (opening : Opening) (touched : Location → Prop) : Prop where
  way : ∃ l, d.locate path = .ok l
  model : ∀ text, opening.modelled = some text →
    ∃ l, d.locate (.ofText text) = .ok l ∧ ¬ touched l

/-- A file can be opened again if the directories are as they were, the file as well, and what else
has changed is not on the way. -/
theorem Opens.again (opens : Opens d path opening f) {touched : Location → Prop}
    (reached : Reached d path opening touched) (same : d'.directories = d.directories)
    (ways : KeepsWays d d') (files : ∀ l, ¬ touched l → d'.file? l = d.file? l)
    (spared : ¬ touched (.ofPath path)) : Opens d' path opening f := by
  have there (l : Location) : d'.hasDirectory l = d.hasDirectory l := by
    rw [Disk.hasDirectory, Disk.hasDirectory, same]
  obtain ⟨l, located⟩ := reached.way
  obtain ⟨last, walked, _⟩ := Disk.walked_of_locate located
  constructor
  case passable => exact isPassable_of_keepsWays ways rfl walked opens.passable
  case short => exact opens.short
  case model =>
    cases named : opening.modelled with
    | none => rfl
    | some text =>
      obtain ⟨l, located, other⟩ := reached.model text named
      have model := opens.model
      rw [named, Option.map_some, Option.getD_some] at model
      rw [Option.map_some, Option.getD_some, isThere_of_directories same located (files l other)]
      exact model
  case directory => exact (there _).trans opens.directory
  case undirected => exact (there _).trans opens.undirected
  case found =>
    rw [files _ spared]
    exact opens.found

end PuppetRegistry.Sqlite
