import Mathlib.Logic.Relation
import PuppetRegistry.Proofs.Sqlite.Initialising

/-!
# Initialising again and again

A file is initialised whenever the program starts, over live data, and so it may be by others who
lead to it by another path or with options of their own. Main statement: once a file has been
initialised, no session on it and no tasks that overlap can tell whether that is done again, before
whatever statements of theirs; and initialising leaves the file as it is, also when its version is a
newer one, which is then what is reported.
-/

namespace PuppetRegistry.Sqlite

variable {path : Path} {rights : Rights} {f : File} {d d' : Disk}

/-- An address that leads to a file at a place. -/
abbrev AddressOf (l : Location) : Type :=
  { address : Address // address.place? = some l }

/-- Initialise by way of some addresses in turn, whatever that comes to. -/
def initAll {l : Location} (addresses : List (AddressOf l)) (d : Disk) : Disk :=
  addresses.foldl (fun d address => (initAt address.1 d).2) d

theorem Kept.initAll (kept : Kept path rights f d)
    (addresses : List (AddressOf (.ofPath path))) :
    Kept path rights f (Sqlite.initAll addresses d) := by
  induction addresses generalizing d with
  | nil => exact kept
  | cons address rest ih => exact ih (kept.initAt address.2).1

/-- The statements of a path, with the file being initialised before them. -/
def reinitialised (path : Path) : Handle (List (List (AddressOf (.ofPath path))) × Disk) :=
  (handleAt (.file path {})).disturbed initAll

/-! ## Versions -/

def stamped (version : Int) (rights : Rights) (f : File) : Except Fault (Unit × File) :=
  (f.setVersionStamp version rights).map fun f => ((), f)

theorem stamped_cases (rights : Rights) (f : File) {version : Int}
    (newer : Fault.currentSchema < version) (fits : version < 2 ^ 31) :
    (∃ fault, stamped version rights f = .error fault) ∨
      stamped version rights f = .ok ((), { f with written := true, version := version }) := by
  have range : -(2 ^ 31) ≤ version ∧ version < 2 ^ 31 := by
    simp only [Fault.currentSchema] at newer
    omega
  simp only [stamped, File.setVersionStamp, if_pos range]
  cases f.openToWrite rights with
  | error fault => exact .inl ⟨fault, rfl⟩
  | ok => exact .inr rfl

/-- What is changed behind the back of every handle by way of the path is changed with the rights of
a connection. -/
theorem Kept.changeAt (kept : Kept path rights f d) {α : Type}
    {change : Rights → File → Except Fault (α × File)}
    (settled : ∀ a after, change rights f = .ok (a, after) →
      after.Settled ∧ after.locked = f.locked) :
    ∃ f', Kept path rights f' (Sqlite.changeAt (.file path {}) change d).2 := by
  have opened := openAt_eq_ok_iff.mpr kept.opens
  have put : Kept path rights f (d.setFile (.ofPath path) f) := kept.put (k := linkTo path {}) rfl
  unfold Sqlite.changeAt connected
  simp only [opened]
  refine ⟨_, (put.looked (k := linkTo path {}) rfl rfl Fault.sqlite _ ?settled ?lock).2⟩
  case settled =>
    split
    · next done => exact (settled _ _ done).1
    · exact kept.settled
  case lock =>
    split
    · next done => exact (settled _ _ done).2
    · rfl

/-- A kept file that is to have a newer version is kept, with that version or, if it is refused,
with its own. -/
theorem Kept.stamp (kept : Kept path rights f d) {version : Int}
    (newer : Fault.currentSchema < version) (fits : version < 2 ^ 31) :
    ∃ f', Kept path rights f' (Sqlite.changeAt (.file path {}) (stamped version) d).2 := by
  refine kept.changeAt fun a after done => ?_
  rcases stamped_cases rights f newer fits with ⟨fault, failed⟩ | sets
  · rw [failed] at done
    cases done
  · rw [sets] at done
    cases done
    exact ⟨{ kept.settled with written := rfl, version := Int.le_of_lt newer }, rfl⟩

/-- What may happen to a file that is kept: statements by way of its path, initialising by way of
any of its addresses, and newer versions. -/
inductive Happens (path : Path) : Disk → Disk → Prop
  | statement {s : Statement} {d d' : Disk} (moves : (handleAt (.file path {})).Moves s d d') :
    Happens path d d'
  | init (address : AddressOf (.ofPath path)) (d : Disk) : Happens path d (initAt address.1 d).2
  | stamp {version : Int} (newer : Fault.currentSchema < version) (fits : version < 2 ^ 31)
    (d : Disk) : Happens path d (changeAt (.file path {}) (stamped version) d).2

theorem Kept.happens (kept : Kept path rights f d) (happens : Happens path d d') :
    ∃ f', Kept path rights f' d' := by
  cases happens with
  | init address d => exact ⟨f, (kept.initAt address.2).1⟩
  | stamp newer fits d => exact kept.stamp newer fits
  | statement moves =>
    have simulates := simulates_handleAt path rights f.version
    rcases moves with rfl | rfl | rfl
    · exact ⟨_, (simulates.rows _ ⟨kept, rfl⟩).2.1⟩
    · exact ⟨_, (simulates.row _ ⟨kept, rfl⟩).2.1⟩
    · exact ⟨_, (simulates.execute _ ⟨kept, rfl⟩).2.1⟩

theorem Kept.history (kept : Kept path rights f d)
    (history : Relation.ReflTransGen (Happens path) d d') : ∃ f', Kept path rights f' d' := by
  induction history with
  | refl => exact ⟨f, kept⟩
  | tail _ last ih =>
    obtain ⟨f', kept'⟩ := ih
    exact kept'.happens last

/-! ## Transparency -/

/-- On two disks, a path leads to the same kept file, of some version. -/
def SameKept (path : Path) (rights : Rights) (version : Int) (d d' : Disk) : Prop :=
  ∃ f, (Kept path rights f d ∧ f.version = version) ∧ Kept path rights f d' ∧ f.version = version

theorem simulates_reinitialised (path : Path) (rights : Rights) (version : Int) :
    (handleAt (.file path {})).Simulates (reinitialised path)
      fun d x => SameKept path rights version d x.2 :=
  have alone := simulates_handleAt path rights version
  alone.meet (alone.disturbed fun addresses _ _ stands => ⟨stands.1.initAll addresses, stands.2⟩)

/-- Two disks have one file at a place, of some version. -/
def SameFile (l : Location) (version : Int) (d d' : Disk) : Prop :=
  ∃ f, d.file? l = some f ∧ d'.file? l = some f ∧ f.version = version

theorem SameKept.sameFile {version : Int} (same : SameKept path rights version d d') :
    SameFile (.ofPath path) version d d' :=
  same.imp fun _ both => ⟨both.1.1.found, both.2.1.found, both.2.2⟩

/-- Nothing that works on a file by way of a path can tell whether the file is initialised before
statements: no session, and no tasks that overlap. The file comes to the same. -/
structure Transparent (path : Path) (f : File) (d : Disk) : Prop where
  sessions (plan : List (List (AddressOf (.ofPath path)))) (operations : List (Operation Empty))
    (held : String → Option Puppet) :
    List.Forall₂ (Turn.Matches fun d x => SameFile (.ofPath path) f.version d x.2)
      ((Site.bare (handleAt (.file path {}))).course operations ⟨d, held⟩)
      ((Site.bare (reinitialised path)).course operations ⟨(plan, d), held⟩)
  tasks {κ μ α : Type} [DecidableEq κ] (plan : List (List (AddressOf (.ofPath path))))
    (schedule : List Nat) (records : κ → μ) (tasks : List (κ × Program.Task μ α)) :
    Program.Crowd.Matches (fun d x => SameFile (.ofPath path) f.version d x.2)
      (.follow (handleAt (.file path {})) schedule ⟨d, records, tasks⟩)
      (.follow (reinitialised path) schedule ⟨(plan, d), records, tasks⟩)

theorem Kept.transparent (kept : Kept path rights f d) : Transparent path f d := by
  have simulates := simulates_reinitialised path rights f.version
  have start : SameKept path rights f.version d d := ⟨f, ⟨kept, rfl⟩, kept, rfl⟩
  refine ⟨fun plan operations held => ?_, fun plan schedule records tasks => ?_⟩
  · have sessions : Session.Matches (fun d x => SameKept path rights f.version d x.2)
        ⟨d, held⟩ ⟨(plan, d), held⟩ := ⟨start, rfl⟩
    exact (simulates.course operations sessions).imp fun _ _ same =>
      ⟨same.answer, same.events, same.session.store.sameFile, same.session.held⟩
  · have crowds : Program.Crowd.Matches (fun d x => SameKept path rights f.version d x.2)
        ⟨d, records, tasks⟩ ⟨(plan, d), records, tasks⟩ := ⟨start, rfl, rfl⟩
    have same := simulates.follow schedule crowds
    exact ⟨same.store.sameFile, same.records, same.tasks⟩

/-- What initialising by way of an address comes to, and leaves of a file. -/
structure Unmoved (d : Disk) (l : Location) (f : File) (address : AddressOf l) : Prop where
  file : (initAt address.1 d).2.file? l = some f
  outcome : (initAt address.1 d).1 = f.verdict ∨
    ∃ error, (initAt address.1 d).1 = .error (.sqlite error)
  plain (path : Path) : address.1 = .file path {} → openAt d path {} = .ok f →
    (initAt address.1 d).1 = f.verdict

theorem Kept.unmoved (kept : Kept path rights f d) (address : AddressOf (.ofPath path)) :
    Unmoved d (.ofPath path) f address := by
  obtain ⟨kept', outcome⟩ := kept.initAt address.2
  refine ⟨kept'.found, outcome, fun path' plain opened => ?_⟩
  have place := address.2
  rw [plain] at place ⊢
  exact kept.fst_initAt (Option.some.inj place) opened

/-- After a first initialisation that went well, the file can be opened whatever has happened to it,
and initialising it again is transparent. It leaves the file as it is; if the version of that is a
newer one it fails, and reports this wherever the file can be opened. -/
theorem init_is_transparent {d₀ : Disk} (leads : d₀.Leads path)
    (orderly : ∀ f, d₀.file? (.ofPath path) = some f → Orderly (.ofPath path) f d₀)
    (first : initAt (.file path {}) d₀ = (.ok (), d)) :
    (∃ f, openAt d path {} = .ok f ∧ f.version = Fault.currentSchema) ∧
    ∀ d', Relation.ReflTransGen (Happens path) d d' →
      ∃ f, openAt d' path {} = .ok f ∧ (∀ address, Unmoved d' (.ofPath path) f address) ∧
        Transparent path f d' := by
  obtain ⟨rights, f, kept, current⟩ := kept_of_initAt leads orderly first
  refine ⟨⟨f, openAt_eq_ok_iff.mpr kept.opens, current⟩, fun d' history => ?_⟩
  obtain ⟨f', kept'⟩ := kept.history history
  exact ⟨f', openAt_eq_ok_iff.mpr kept'.opens, kept'.unmoved, kept'.transparent⟩

/-! ## An old file -/

def oldPath : Path := ⟨.here, ["data", "bridge.db"]⟩

/-- A file of the time before versions, with a row in it. -/
def oldFile : File where
  written := true
  table := some [Puppet.toRow { remoteId := ⟨"ada", "remote.example"⟩ }]

def oldDisk : Disk where
  directories := [⟨false, 0, ["data"]⟩]
  files := [(.ofPath oldPath, oldFile)]

/-- The old disk after it has been initialised, and then been given a newer version. -/
def aheadDisk : Disk :=
  (changeAt (.file oldPath {}) (stamped 7) (initAt (.file oldPath {}) oldDisk).2).2

theorem init_is_transparent_ahead :
    (∃ f, openAt (initAt (.file oldPath {}) oldDisk).2 oldPath {} = .ok f ∧
      f.version = Fault.currentSchema) ∧
    ∃ f, f.table = oldFile.table ∧ f.version = 7 ∧ openAt aheadDisk oldPath {} = .ok f ∧
      (initAt (.file oldPath {}) aheadDisk).1 = .error (.schemaTooNew .sqlite 7) ∧
      (initAt (.file oldPath {}) aheadDisk).2.file? (.ofPath oldPath) = some f ∧
      Transparent oldPath f aheadDisk := by
  have made : oldDisk.makeDirectories oldPath.parent 1 = (.ok ⟨false, 0, ["data"]⟩, oldDisk) := rfl
  have orderly (f : File) (there : oldDisk.file? (.ofPath oldPath) = some f) :
      Orderly (.ofPath oldPath) f oldDisk := by
    cases there
    exact .of_unlogged rfl fun _ => rfl
  have first : initAt (.file oldPath {}) oldDisk = (.ok (), (initAt (.file oldPath {}) oldDisk).2) :=
    Prod.ext rfl rfl
  obtain ⟨now, ever⟩ := init_is_transparent (Disk.leads_of_makeDirectories made) orderly first
  obtain ⟨f, opened, unmoved, transparent⟩ := ever aheadDisk
    (.single (.stamp (by decide) (by decide) _))
  have same : openAt aheadDisk oldPath {} =
      .ok { oldFile with version := 7, logged := true } := by rfl
  cases same.symm.trans opened
  have again := unmoved ⟨.file oldPath {}, rfl⟩
  exact ⟨now, { oldFile with version := 7, logged := true }, rfl, rfl, opened,
    again.plain oldPath rfl opened, again.file, transparent⟩

end PuppetRegistry.Sqlite
