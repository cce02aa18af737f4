import PuppetRegistry.Proofs.Sqlite.Alike
import PuppetRegistry.Sqlite.Beside

/-!
# Disks with other tokens

Two disks are alike if they have the same directories, and files at the same places that are alike,
none of which is named as a journal. A journal has to be left out: a connection that closes removes
the one beside its file if the file has changed, and whether it has may depend on a token. Main
statement: paths lead to the same places on alike disks, and directories are made on both or refused
for the same reason.
-/

namespace PuppetRegistry

open Sqlite

namespace Location

/-- The name of a location ends like that of a journal. -/
def IsJournal (l : Location) : Prop :=
  ∃ name others, l.names = name :: others ∧ "-journal".toList <:+ name.toList

theorem isJournal_of {l : Location} (named : l.isBase = false) :
    (Companion.journal.of l).IsJournal := by
  obtain ⟨fromTop, above, names⟩ := l
  cases names with
  | nil => cases named
  | cons last others =>
    refine ⟨last ++ "-journal", others, rfl, ?_⟩
    rw [String.toList_append]
    exact List.suffix_append _ _

theorem not_isJournal_of {l : Location} (plain : ¬ l.IsJournal) {c : Companion}
    (other : c = .log ∨ c = .index) : ¬ (c.of l).IsJournal := by
  obtain ⟨fromTop, above, names⟩ := l
  cases names with
  | nil => exact plain
  | cons last others =>
    rintro ⟨name, _, named, front, same⟩
    obtain ⟨rfl, _⟩ := List.cons.inj named
    have reversed := congrArg List.reverse same
    rcases other with rfl | rfl
    · simp [Companion.ending] at reversed
    · simp [Companion.ending] at reversed

end Location

namespace Disk

structure Alike (d d' : Disk) : Prop where
  directories : d.directories = d'.directories
  files : List.Forall₂ (fun x y => x.1 = y.1 ∧ x.2.Alike y.2) d.files d'.files
  /-- No file is named as a journal. -/
  settled : ∀ x ∈ d.files, ¬ x.1.IsJournal

variable {d d' : Disk} {f f' : File} {l : Location}

theorem Alike.file? (alike : d.Alike d') (l : Location) :
    Option.Rel File.Alike (d.file? l) (d'.file? l) := by
  have files := alike.files
  unfold Disk.file?
  generalize d.files = held at files ⊢
  generalize d'.files = held' at files ⊢
  induction files with
  | nil => exact .none
  | @cons x y _ _ first _ ih =>
    obtain ⟨place, f⟩ := x
    obtain ⟨place', f'⟩ := y
    obtain ⟨rfl, alike⟩ := first
    rw [List.lookup_cons, List.lookup_cons]
    dsimp only
    split
    · exact .some alike
    · exact ih

theorem Alike.isSome_file? (alike : d.Alike d') (l : Location) :
    (d.file? l).isSome = (d'.file? l).isSome := by
  rcases split_rel (alike.file? l) with ⟨left, right⟩ | ⟨f, f', left, right, _⟩
  · rw [left, right]
  · rw [left, right]
    rfl

theorem Alike.hasDirectory (alike : d.Alike d') : d.hasDirectory = d'.hasDirectory := by
  funext l
  rw [Disk.hasDirectory, Disk.hasDirectory, alike.directories]

theorem Alike.removeFile (alike : d.Alike d') (l : Location) :
    (d.removeFile l).Alike (d'.removeFile l) := by
  refine ⟨alike.directories, List.rel_filter ?_ alike.files, fun x mem => ?_⟩
  · intro x y both
    dsimp only
    rw [both.1]
  · exact alike.settled x (List.mem_of_mem_filter mem)

theorem Alike.setFile (alike : d.Alike d') (plain : ¬ l.IsJournal) (files : f.Alike f') :
    (d.setFile l f).Alike (d'.setFile l f') := by
  have rest := alike.removeFile l
  refine ⟨alike.directories, .cons ⟨rfl, files⟩ rest.files, fun x mem => ?_⟩
  rcases List.mem_cons.mp mem with rfl | mem
  · exact plain
  · exact rest.settled x mem

theorem Alike.settled_right (alike : d.Alike d') : ∀ x ∈ d'.files, ¬ x.1.IsJournal := by
  have places : d'.files.map Prod.fst = d.files.map Prod.fst := by
    have files := alike.files
    generalize d.files = held at files ⊢
    generalize d'.files = held' at files ⊢
    induction files with
    | nil => rfl
    | cons first _ ih => rw [List.map_cons, List.map_cons, first.1, ih]
  intro x mem
  have held : x.1 ∈ d.files.map Prod.fst := places ▸ List.mem_map_of_mem mem
  obtain ⟨y, mem, same⟩ := List.mem_map.mp held
  exact same ▸ alike.settled y mem

/-- Where no file is a journal, there is no journal to be removed. -/
theorem removeFile_journal (settled : ∀ x ∈ d.files, ¬ x.1.IsJournal) (journal : l.IsJournal) :
    d.removeFile l = d := by
  have others : d.files.filter (fun x => x.1 != l) = d.files := by
    refine List.filter_eq_self.mpr fun x mem => ?_
    have other : x.1 ≠ l := fun same => settled x mem (same ▸ journal)
    exact bne_iff_ne.mpr other
  rw [Disk.removeFile]
  exact congrArg (Disk.mk d.directories) others

/-! ## Paths -/

theorem enter_eq (alike : d.Alike d') : d.enter = d'.enter := by
  funext l part
  unfold enter
  congr 1
  funext next
  rw [alike.hasDirectory, alike.isSome_file?]

theorem locate_eq (alike : d.Alike d') (p : Path) : d.locate p = d'.locate p := by
  rw [locate, locate, enter_eq alike]

theorem isThere_eq (alike : d.Alike d') : d.isThere = d'.isThere := by
  funext text
  unfold isThere
  rw [locate_eq alike, alike.hasDirectory]
  split
  · rfl
  · rw [alike.isSome_file?]

theorem agree_ensureAt (alike : d.Alike d') (l : Location) :
    Agree Disk.Alike (d.ensureAt l) (d'.ensureAt l) := by
  unfold ensureAt
  rw [alike.hasDirectory, alike.isSome_file?]
  split
  · exact .ok alike
  split
  · exact .error _
  · exact .ok ⟨congrArg (l :: ·) alike.directories, alike.files, alike.settled⟩

theorem twins_finish (alike : d.Alike d') (p : Path) (found : Except Obstacle Location) :
    Twins Eq Disk.Alike (d.finish p found) (d'.finish p found) := by
  cases found with
  | error obstacle => exact ⟨rfl, alike⟩
  | ok l =>
    unfold finish
    dsimp only
    rcases (agree_ensureAt alike l).split with
      ⟨obstacle, left, right⟩ | ⟨e, e', left, right, ensured⟩
    · rw [left, right]
      exact ⟨rfl, alike⟩
    · rw [left, right]
      exact ⟨rfl, ensured⟩

theorem twins_makeDirectories (alike : d.Alike d') (p : Path) (depth : Nat) :
    Twins Eq Disk.Alike (d.makeDirectories p depth) (d'.makeDirectories p depth) := by
  induction depth generalizing p with
  | zero => exact ⟨rfl, alike⟩
  | succ depth ih =>
    unfold makeDirectories
    rw [locate_eq alike]
    split
    · obtain ⟨result, e, _, e', eq, eq', rfl, alike⟩ := (ih p.parent).pairs
      rw [eq, eq']
      cases result with
      | error => exact ⟨rfl, alike⟩
      | ok l => exact twins_finish alike p _
    · exact twins_finish alike p _

end Disk

end PuppetRegistry
