import PuppetRegistry.Location
import PuppetRegistry.Sqlite.File
import PuppetRegistry.Text.Quoted

/-!
# The disk

The directories and SQLite files below, above and beside the working directory. A path is walked
from directory to directory; the walk ends at a part that is missing, that is a file, or whose name
is too long. Main statement: the directory that `makeDirectories` answers is the one that the path
leads to, and it is there.
-/

namespace PuppetRegistry

inductive Obstacle
  | embeddedNull
  | nameTooLong
  | notADirectory
  | missing
  | occupied
  | tooDeep
  deriving DecidableEq, Repr

structure DiskError where
  obstacle : Obstacle
  path : Path
  deriving DecidableEq, Repr

def DiskError.message (e : DiskError) : String :=
  let named (reason : String) : String := reason ++ ": " ++ Text.quote e.path.text
  match e.obstacle with
  | .embeddedNull => "embedded null byte"
  | .nameTooLong => named "[Errno 36] File name too long"
  | .notADirectory => named "[Errno 20] Not a directory"
  | .missing => named "[Errno 2] No such file or directory"
  | .occupied => named "[Errno 17] File exists"
  | .tooDeep => "maximum recursion depth exceeded while calling a Python object"

structure Disk where
  directories : List Location := []
  files : List (Location × Sqlite.File) := []
  deriving Repr

namespace Disk

def nameLimit : Nat := 255

/-- The size in bytes from which on a path is too long. -/
def pathLimit : Nat := 4096

def file? (d : Disk) (l : Location) : Option Sqlite.File :=
  d.files.lookup l

def hasDirectory (d : Disk) (l : Location) : Bool :=
  l.isBase || d.directories.contains l

def setFile (d : Disk) (l : Location) (f : Sqlite.File) : Disk :=
  { d with files := (l, f) :: d.files.filter fun (place, _) => place != l }

def removeFile (d : Disk) (l : Location) : Disk :=
  { d with files := d.files.filter fun (place, _) => place != l }

/-! ## Following paths -/

def stepFrom (l : Location) (part : String) : Except Obstacle Location :=
  if nameLimit < part.utf8ByteSize then .error .nameTooLong else .ok (l.step part)

def enter (d : Disk) (l : Location) (part : String) : Except Obstacle Location := do
  let l ← stepFrom l part
  if d.hasDirectory l then return l
  else if (d.file? l).isSome then .error .notADirectory
  else .error .missing

def lastStep (p : Path) (l : Location) : Except Obstacle Location :=
  match p.parts.getLast? with
  | none => .ok l
  | some last => stepFrom l last

/-- Where a path leads, if the directory that it is in is there. -/
def locate (d : Disk) (p : Path) : Except Obstacle Location :=
  if p.text.toList.contains '\x00' then .error .embeddedNull
  else if pathLimit ≤ p.text.utf8ByteSize then .error .nameTooLong
  else do
    let l ← p.parts.dropLast.foldlM d.enter (.start p.root)
    lastStep p l

/-- Whether a text names a directory or a file. A slash at its end is for directories only. -/
def isThere (d : Disk) (text : String) : Bool :=
  match d.locate (.ofText text) with
  | .error _ => false
  | .ok l =>
    let ending := ((Path.splitAll '/' text.toList).getLast?).getD []
    !text.isEmpty && (d.hasDirectory l || (Path.isPart ending && (d.file? l).isSome))

/-! ## Directories -/

def ensureAt (d : Disk) (l : Location) : Except Obstacle Disk :=
  if d.hasDirectory l then .ok d
  else if (d.file? l).isSome then .error .occupied
  else .ok { d with directories := l :: d.directories }

def finish (d : Disk) (p : Path) (found : Except Obstacle Location) :
    Except DiskError Location × Disk :=
  match found with
  | .error obstacle => (.error ⟨obstacle, p⟩, d)
  | .ok l =>
    match d.ensureAt l with
    | .error obstacle => (.error ⟨obstacle, p⟩, d)
    | .ok d => (.ok l, d)

/-- How many directories on the way are looked at before it is given up. -/
def depthLimit : Nat := 985

/-- Create a directory unless it is there. Only where the way to it is missing, the directory that
it is in comes first. What has been created stays, also when the next one cannot be. -/
def makeDirectories (d : Disk) (p : Path) : (depth : Nat) → Except DiskError Location × Disk
  | 0 => (.error ⟨.tooDeep, p⟩, d)
  | depth + 1 =>
    match d.locate p with
    | .error .missing =>
      match makeDirectories d p.parent depth with
      | (.error error, d) => (.error error, d)
      | (.ok l, d) => d.finish p (lastStep p l)
    | found => d.finish p found

def directoryNames (d : Disk) : List String :=
  let below := d.directories.filter fun l => !l.fromTop && l.above == 0
  (below.map fun l => "/".intercalate l.names.reverse).mergeSort fun s t => decide (s ≤ t)

/-! ## Made directories are there -/

theorem stepFrom_eq_ok {l l' : Location} {part : String} (h : stepFrom l part = .ok l') :
    l' = l.step part := by
  unfold stepFrom at h
  split at h <;> simp_all

theorem enter_eq_ok {d : Disk} {l l' : Location} {part : String} (h : d.enter l part = .ok l') :
    l' = l.step part := by
  unfold enter at h
  cases hs : stepFrom l part with
  | error o => simp [hs, bind, Except.bind] at h
  | ok next =>
    simp only [hs, bind, Except.bind] at h
    split at h
    · cases h
      exact stepFrom_eq_ok hs
    · split at h <;> cases h

theorem foldlM_enter_eq_ok {d : Disk} {parts : List String} {l l' : Location}
    (h : parts.foldlM d.enter l = .ok l') : l' = parts.foldl Location.step l := by
  induction parts generalizing l with
  | nil => cases h; rfl
  | cons part parts ih =>
    rw [List.foldlM_cons] at h
    cases he : d.enter l part with
    | error o => simp [he, bind, Except.bind] at h
    | ok next =>
      simp only [he, bind, Except.bind] at h
      rw [List.foldl_cons, ← enter_eq_ok he]
      exact ih h

theorem lastStep_eq_ok {p : Path} {l : Location} (h : lastStep p (.ofPath p.parent) = .ok l) :
    l = .ofPath p := by
  unfold lastStep at h
  split at h
  · next hn =>
    cases h
    simp [Location.ofPath, Path.parent, List.getLast?_eq_none_iff.1 hn]
  · next last hl =>
    obtain ⟨front, hp⟩ := List.getLast?_eq_some_iff.1 hl
    rw [stepFrom_eq_ok h]
    simp [Location.ofPath, Path.parent, hp]

theorem locate_eq_ok {d : Disk} {p : Path} {l : Location} (h : d.locate p = .ok l) :
    l = .ofPath p := by
  unfold locate at h
  split at h
  · cases h
  split at h
  · cases h
  cases hw : p.parts.dropLast.foldlM d.enter (.start p.root) with
  | error o => simp [hw, bind, Except.bind] at h
  | ok above =>
    simp only [hw, bind, Except.bind] at h
    rw [foldlM_enter_eq_ok hw] at h
    exact lastStep_eq_ok h

theorem hasDirectory_ensureAt {d d' : Disk} {l : Location} (h : d.ensureAt l = .ok d') :
    d'.hasDirectory l = true := by
  unfold ensureAt at h
  split at h
  · next hd => cases h; exact hd
  split at h
  · cases h
  · cases h
    simp [hasDirectory]

theorem finish_eq_ok {d d' : Disk} {p : Path} {found : Except Obstacle Location} {l : Location}
    (h : d.finish p found = (.ok l, d')) : found = .ok l ∧ d'.hasDirectory l = true := by
  unfold finish at h
  split at h
  · cases h
  split at h
  · cases h
  · next he =>
    cases h
    exact ⟨rfl, hasDirectory_ensureAt he⟩

theorem hasDirectory_makeDirectories {d d' : Disk} {p : Path} {depth : Nat} {l : Location}
    (h : d.makeDirectories p depth = (.ok l, d')) : l = .ofPath p ∧ d'.hasDirectory l = true := by
  induction depth generalizing p l d' with
  | zero => cases h
  | succ depth ih =>
    unfold makeDirectories at h
    split at h
    · split at h
      · cases h
      next hm =>
        obtain ⟨rfl, _⟩ := ih hm
        obtain ⟨hl, hd⟩ := finish_eq_ok h
        exact ⟨lastStep_eq_ok hl, hd⟩
    · obtain ⟨hl, hd⟩ := finish_eq_ok h
      exact ⟨locate_eq_ok hl, hd⟩

end Disk

end PuppetRegistry
