import PuppetRegistry.Disk
import PuppetRegistry.Proofs.Stages

/-!
# What is where on a disk

Putting a file at a place and removing one change what is found at that place only, and no
directories. Main statements: while the directories stay, a path that can be followed leads to the
same place; and a path can be followed once the directory it goes to has been created.
-/

namespace PuppetRegistry.Disk

open Stages

variable {d d' : Disk} {l l' : Location} {f : Sqlite.File}

theorem lookup_cons_ite (f : Sqlite.File) (files : List (Location × Sqlite.File)) :
    ((l, f) :: files).lookup l' = if l' = l then some f else files.lookup l' := by
  by_cases here : l' = l
  · rw [if_pos here, here, List.lookup_cons_self]
  · rw [if_neg here, List.lookup_cons, beq_false_of_ne here]

theorem lookup_filter_ne (files : List (Location × Sqlite.File)) :
    (files.filter fun (place, _) => place != l).lookup l' =
      if l' = l then none else files.lookup l' := by
  induction files with
  | nil => split <;> rfl
  | cons file rest ih =>
    obtain ⟨place, held⟩ := file
    rw [lookup_cons_ite]
    by_cases gone : place = l
    · rw [List.filter_cons_of_neg (by simp [gone]), ih, gone]
      split <;> rfl
    · rw [List.filter_cons_of_pos (by simp [gone]), lookup_cons_ite, ih]
      by_cases here : l' = place
      · rw [if_pos here, if_neg (here ▸ gone), if_pos here]
      · rw [if_neg here, if_neg here]

theorem file?_removeFile (d : Disk) (l l' : Location) :
    (d.removeFile l).file? l' = if l' = l then none else d.file? l' :=
  lookup_filter_ne d.files

theorem file?_setFile (d : Disk) (l : Location) (f : Sqlite.File) (l' : Location) :
    (d.setFile l f).file? l' = if l' = l then some f else d.file? l' := by
  rw [file?, setFile, lookup_cons_ite, lookup_filter_ne]
  by_cases here : l' = l
  · rw [if_pos here, if_pos here]
  · rw [if_neg here, if_neg here, if_neg here]
    rfl

theorem enter_eq_ok_iff {part : String} :
    d.enter l part = .ok l' ↔ stepFrom l part = .ok l' ∧ d.hasDirectory l' = true := by
  unfold enter
  cases stepFrom l part with
  | error => exact ⟨nofun, nofun⟩
  | ok next =>
    simp only [bind, Except.bind]
    split
    · next there =>
      constructor
      · rintro ⟨⟩
        exact ⟨rfl, there⟩
      · rintro ⟨⟨⟩, _⟩
        rfl
    · next missing =>
      constructor
      · split <;> nofun
      · rintro ⟨⟨⟩, there⟩
        exact absurd there missing

/-- The directories that parts lead to are there on another disk with all directories of the one. -/
theorem foldlM_enter_mono (more : ∀ l, d.hasDirectory l = true → d'.hasDirectory l = true)
    {parts : List String} (walked : parts.foldlM d.enter l = .ok l') :
    parts.foldlM d'.enter l = .ok l' := by
  induction parts generalizing l with
  | nil => exact walked
  | cons part rest ih =>
    rw [List.foldlM_cons] at walked ⊢
    obtain ⟨next, entered, later⟩ := bind_eq_ok walked
    obtain ⟨stepped, there⟩ := enter_eq_ok_iff.mp entered
    have entered' : d'.enter l part = .ok next := enter_eq_ok_iff.mpr ⟨stepped, more _ there⟩
    rw [entered']
    exact ih later

theorem foldlM_enter_of_directories (same : d'.directories = d.directories) {parts : List String}
    (walked : parts.foldlM d.enter l = .ok l') : parts.foldlM d'.enter l = .ok l' :=
  foldlM_enter_mono (fun l there => by rw [hasDirectory, same]; exact there) walked

/-- A path that can be followed leads somewhere by way of directories that are there. -/
theorem walked_of_locate {p : Path} (located : d.locate p = .ok l) :
    ∃ last, p.parts.dropLast.foldlM d.enter (.start p.root) = .ok last ∧ lastStep p last = .ok l := by
  unfold locate at located
  split at located
  · cases located
  split at located
  · cases located
  exact bind_eq_ok located

theorem locate_of_directories (same : d'.directories = d.directories) {p : Path}
    (located : d.locate p = .ok l) : d'.locate p = .ok l := by
  obtain ⟨last, walked, stepped⟩ := walked_of_locate located
  have walked' := foldlM_enter_of_directories same walked
  unfold locate at located ⊢
  split
  · next null =>
    rw [if_pos null] at located
    cases located
  · split
    · next null long =>
      rw [if_neg null, if_pos long] at located
      cases located
    · rw [walked']
      exact stepped

/-! ## Ways -/

/-- The directory that a path's file goes in is there, and so are those on the way to it. -/
def Leads (d : Disk) (p : Path) : Prop :=
  ∃ l, p.parts.dropLast.foldlM d.enter (.start p.root) = .ok l

theorem Leads.of_directories {p : Path} (leads : d.Leads p)
    (same : d'.directories = d.directories) : d'.Leads p :=
  leads.imp fun _ walked => foldlM_enter_of_directories same walked

theorem hasDirectory_of_finish {p : Path} {found : Except Obstacle Location}
    (done : d.finish p found = (.ok l, d')) {l' : Location} (there : d.hasDirectory l' = true) :
    d'.hasDirectory l' = true := by
  obtain ⟨rfl, _⟩ := finish_eq_ok done
  unfold finish ensureAt at done
  dsimp only at done
  split at done
  · cases done
  next ensured =>
  cases done
  split at ensured
  · cases ensured
    exact there
  split at ensured
  · cases ensured
  · cases ensured
    rcases Bool.or_eq_true_iff.mp there with base | held
    · exact Bool.or_eq_true_iff.mpr (.inl base)
    · refine Bool.or_eq_true_iff.mpr (.inr ?_)
      rw [List.contains_cons, held, Bool.or_true]

theorem foldlM_enter_finish {p : Path} {last : Location}
    (walked : p.parts.dropLast.foldlM d.enter (.start p.root) = .ok last)
    (done : d.finish p (lastStep p last) = (.ok l, d')) :
    p.parts.foldlM d'.enter (.start p.root) = .ok l := by
  obtain ⟨stepped, there⟩ := finish_eq_ok done
  have walked' := foldlM_enter_mono (fun _ there => hasDirectory_of_finish done there) walked
  unfold lastStep at stepped
  split at stepped
  · next none =>
    cases stepped
    rw [List.getLast?_eq_none_iff.mp none] at walked' ⊢
    exact walked'
  · next part some =>
    obtain ⟨front, parts⟩ := List.getLast?_eq_some_iff.mp some
    have entered : d'.enter last part = .ok l := enter_eq_ok_iff.mpr ⟨stepped, there⟩
    rw [parts, List.dropLast_concat] at walked'
    rw [parts, List.foldlM_append, walked']
    simp only [bind, Except.bind, List.foldlM_cons, List.foldlM_nil, entered]
    rfl

/-- Once the directory of a file has been created, the path of the file leads there. -/
theorem leads_of_makeDirectories {p : Path} {depth : Nat}
    (made : d.makeDirectories p.parent depth = (.ok l, d')) : d'.Leads p := by
  have walked {q : Path} {depth : Nat} {l : Location} {d' : Disk}
      (made : d.makeDirectories q depth = (.ok l, d')) :
      q.parts.foldlM d'.enter (.start q.root) = .ok l := by
    induction depth generalizing q l d' with
    | zero => cases made
    | succ depth ih =>
      unfold makeDirectories at made
      split at made
      · split at made
        · cases made
        · next above => exact foldlM_enter_finish (ih above) made
      · obtain ⟨located, _⟩ := finish_eq_ok made
        obtain ⟨last, walked, stepped⟩ := walked_of_locate located
        rw [located, ← stepped] at made
        exact foldlM_enter_finish walked made
  exact ⟨l, walked made⟩

end PuppetRegistry.Disk
