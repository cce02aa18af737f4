import PuppetRegistry.Sqlite.Beside

/-!
# SQLite connections

Every statement opens the file of its address, and closes it again. The file is there from then on,
even if the statement fails; memory starts empty and leaves nothing behind. A file cannot be opened
where a directory is, where there is no directory to put it in, or where its path is too long; a
directory can be opened for reading, but not read. The name of a file has to leave room for the name
of a journal beside it, or else nothing can be written. Main statement: where the file of a plain
path can be opened and nothing stands beside it, a connection works on it with all rights.
-/

namespace PuppetRegistry.Sqlite

/-- The largest size in bytes of a file's path from the top of the disk. -/
def pathLimit : Nat := 504

def wayLimit : Nat := 511

/-- Whether these parts can be followed: they lead through no file, and no name or path on the way
is too long. Parts that are missing do no harm if the way leads back again. -/
def isPassable (d : Disk) (l : Location) : List String → Bool
  | [] => true
  | part :: rest =>
    let next := l.step part
    let fits :=
      part.utf8ByteSize ≤ Disk.nameLimit && next.pathSize ≤ wayLimit && (d.file? l).isNone
    (part == ".." || fits) && isPassable d next rest

def openAt (d : Disk) (p : Path) (opening : Opening) : Except SqliteError File :=
  let l := Location.ofPath p
  if !isPassable d (.start p.root) p.parts || pathLimit < l.pathSize then .error .cannotOpen
  else if !(opening.modelled.map d.isThere).getD true then .error .unreadable
  else if !d.hasDirectory l.parent then .error .cannotOpen
  else if d.hasDirectory l then .error (if opening.writes then .cannotOpen else .unreadable)
  else
    match d.file? l with
    | some f => .ok f
    | none => if opening.creates then .ok {} else .error .cannotOpen

/-- Work through a connection, unless it cannot be made. What is done in memory is not kept. -/
def connected {α : Type} (address : Address) (refuse : SqliteError → Fault)
    (inMemory : Rights → File → Except Fault α × File)
    (work : Link → File → Disk → Except Fault α × Disk) (d : Disk) : Except Fault α × Disk :=
  match address with
  | .refused error => (.error (refuse error), d)
  | .memory writes => ((inMemory { writes := writes, shares := false } {}).1, d)
  | .file path opening =>
    match openAt d path opening with
    | .error error => (.error (refuse error), d)
    | .ok f =>
      let l := Location.ofPath path
      work ⟨l, opening⟩ f (d.setFile l f)

/-- Look at the file of a connection, work on it, and close the connection. The result may tell that
something has been written where the file is as it was. -/
def looked {α : Type} (refuse : SqliteError → Fault) (wrote : α → Bool)
    (work : Rights → File → Except Fault α × File) (k : Link) (f : File) (d : Disk) :
    Except Fault α × Disk :=
  match k.reach f d with
  | (.error error, d) => (.error (refuse error), d)
  | (.ok manner, d) =>
    let (result, after) := work (k.rights manner d) f
    (result, k.close manner (after ≠ f || result.toOption.any wrote) after d)

/-- Carry out a statement through a connection. A statement that needs no table does not look at
the file. -/
def carryOut {α : Type} (address : Address) (purpose : Purpose) (s : Statement) (wrote : α → Bool)
    (work : Rights → File → Except Fault α × File) : Disk → Except Fault α × Disk :=
  let refuse (e : SqliteError) : Fault := .storage (.sqlite purpose e)
  connected address refuse work fun k f d =>
    if needsTable s then looked refuse wrote work k f d else ((work {} f).1, d)

def handleAt (address : Address) : Handle Disk where
  rows s := carryOut address .query s (fun _ => false) fun rights => File.rows rights s
  row s := carryOut address .query s (fun _ => false) fun rights => File.row rights s
  execute s := carryOut address .statement s (0 < ·) fun rights => File.execute rights s

/-- Create the schema of a file where it is missing. From when it keeps a log, the file is used
through the log. -/
def initFile (k : Link) (f : File) (d : Disk) : Except Fault Unit × Disk :=
  match k.reach f d with
  | (.error error, d) => (.error (.sqlite error), d)
  | (.ok manner, d) =>
    let finish (manner : Manner) (f : File) (d : Disk) : Except Fault Unit × Disk :=
      let (result, after) := f.createSchema (k.rights manner d)
      (result, k.close manner (after ≠ f) after d)
    match manner with
    | .log _ => finish manner f d
    | .journal =>
      match f.startLog (k.rights manner d) with
      | .error fault => (.error fault, k.close manner false f d)
      | .ok kept =>
        if kept.logged && k.opening.shares then
          match k.openLog kept (k.close manner (kept ≠ f) kept d) with
          | (.error error, d) => (.error (.sqlite error), d)
          | (.ok manner, d) => finish manner kept d
        else finish manner kept d

def initAt (address : Address) : Disk → Except Fault Unit × Disk :=
  connected address .sqlite File.initWith initFile

/-- Change a file behind the handle's back; it stays as it was if that fails. -/
def changeAt {α : Type} (address : Address) (change : Rights → File → Except Fault (α × File)) :
    Disk → Except Fault α × Disk :=
  let work (rights : Rights) (f : File) : Except Fault α × File :=
    match change rights f with
    | .ok (a, f) => (.ok a, f)
    | .error fault => (.error fault, f)
  connected address .sqlite work (looked .sqlite (fun _ => false) work)

/-! ## The lock of another connection -/

/-- Let another connection take the write lock of a file, and stay. It has an empty file's journal
open. -/
def lockFile (k : Link) (f : File) (d : Disk) : Except Fault Unit × Disk :=
  match k.reach f d with
  | (.error error, d) => (.error (.sqlite error), d)
  | (.ok manner, d) =>
    match f.lock (k.rights manner d) with
    | .error fault => (.error fault, k.close manner false f d)
    | .ok locked =>
      let d := d.setFile k.place locked
      (.ok (),
        if manner = .journal && !f.written then d.setFile (k.beside .journal) Link.indexFile else d)

def lockAt (address : Address) : Disk → Except Fault Unit × Disk :=
  connected address .sqlite (fun _ f => (.ok (), f)) lockFile

def unlockAt (l : Location) (d : Disk) : Disk :=
  match d.file? l with
  | none => d
  | some f =>
    if !f.locked then d
    else
      let k : Link := ⟨l, {}⟩
      if k.isLogHeld f d then k.close (.log .own) true f.unlock d
      else
        let d := d.setFile l f.unlock
        if f.written then d else d.removeFile (k.beside .journal)

end PuppetRegistry.Sqlite
