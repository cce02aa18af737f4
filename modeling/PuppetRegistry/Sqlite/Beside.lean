import PuppetRegistry.Disk
import PuppetRegistry.Sqlite.Address

/-!
# What stands beside a file

A file has its changes in a journal while they are made, or in a log with an index from when they
are made until the last connection closes; both are named after it. A connection that looks at the
file clears up what it finds there: a journal is taken for the rest of a broken change and removed,
a log is used. A connection that closes removes its log and index if it may write. Main statement:
with nothing beside a file, a connection that locks and writes leaves nothing beside it.
-/

namespace PuppetRegistry.Sqlite

inductive Companion
  | journal
  | log
  | index
  | marker
  deriving DecidableEq, Repr

def Companion.ending : Companion → String
  | journal => "-journal"
  | log => "-wal"
  | index => "-shm"
  | marker => ".lock"

def Companion.of (c : Companion) (l : Location) : Location :=
  l.beside c.ending

/-- The largest size in bytes of a file's name that leaves room for a journal's. -/
def journalNameLimit : Nat := 247

inductive Index
  /-- It uses the one of the connection that holds the write lock. -/
  | borrowed
  | own
  /-- It keeps one in memory. -/
  | inner
  /-- It cannot write the one that is there. -/
  | fixed
  deriving DecidableEq, Repr

inductive Manner
  | journal
  | log (index : Index)
  deriving DecidableEq, Repr

structure Link where
  place : Location
  opening : Opening
  deriving Repr

namespace Link

def beside (k : Link) (c : Companion) : Location :=
  c.of k.place

/-- Whether there is something at a place: a directory, or a file that is not empty. -/
def isOccupied (d : Disk) (l : Location) : Bool :=
  d.hasDirectory l || ((d.file? l).map File.written).getD false

def isTaken (d : Disk) (l : Location) : Bool :=
  d.hasDirectory l || (d.file? l).isSome

def isLogHeld (k : Link) (f : File) (d : Disk) : Bool :=
  f.locked && (d.file? (k.beside .log)).isSome

def hasLocks (k : Link) : Bool :=
  !k.opening.unlocked && k.opening.layer != .noLocks

/-- Whether it seems that another connection is about to write. Markers do not tell whose they
are. -/
def seesWriter (k : Link) (f : File) (d : Disk) : Bool :=
  match k.opening.layer with
  | .locks | .soleLocks => f.locked && !k.isLogHeld f d
  | .marker => k.hasLocks || isTaken d (k.beside .marker)
  | .noLocks | .memory => false

def mark (k : Link) (d : Disk) : Except SqliteError Unit :=
  if k.opening.layer = .marker && k.hasLocks then
    if isTaken d (k.beside .marker) then .error .locked
    else if Disk.nameLimit < (k.beside .marker).nameSize then .error .unreadable
    else .ok ()
  else .ok ()

/-- Clear up a journal that nobody is writing. With an empty file there is nothing to restore. -/
def clearJournal (k : Link) (f : File) (d : Disk) : Except SqliteError Disk :=
  let journal := k.beside .journal
  if !isOccupied d journal || k.seesWriter f d then .ok d
  else if !f.written then
    .ok (if k.opening.writes || !k.hasLocks then d.removeFile journal else d)
  else if d.hasDirectory journal then .error .unreadable
  else if !k.opening.writes then .error .readOnlyFile
  else if k.opening.shares && k.isLogHeld f d then .error .locked
  else .ok (d.removeFile journal)

/-- What an index holds, which is nothing that could be read as a file of tables. -/
def indexFile : File :=
  { written := true, damaged := true }

def openIndex (k : Link) (held : Bool) (d : Disk) : Except SqliteError Index × Disk :=
  let index := k.beside .index
  if held then (.ok .borrowed, d)
  else if k.opening.layer = .soleLocks && k.opening.writes then (.ok .inner, d)
  else if k.opening.fixedIndex && !isTaken d index then (.error .cannotOpen, d)
  else if k.opening.fixedIndex || d.hasDirectory index then
    if isOccupied d (k.beside .log) then (.error .lockingProtocol, d) else (.ok .fixed, d)
  else (.ok .own, d.setFile index indexFile)

def openLog (k : Link) (f : File) (d : Disk) : Except SqliteError Manner × Disk :=
  let log := k.beside .log
  if !k.opening.shares || d.hasDirectory log then (.error .cannotOpen, d)
  else
    let (index, d) :=
      k.openIndex (k.isLogHeld f d) (if (d.file? log).isSome then d else d.setFile log {})
    (index.map .log, d)

/-- Use the log if the file keeps one, or if there is one that is not empty. An empty file has none,
so what is in its place is removed. -/
def findLog (k : Link) (f : File) (d : Disk) : Except SqliteError Manner × Disk :=
  let log := k.beside .log
  if isOccupied d log && !f.written then
    if d.hasDirectory log then (.error .unreadable, d) else (.ok .journal, d.removeFile log)
  else if isOccupied d log || (f.logged && !f.damaged) then k.openLog f d
  else (.ok .journal, d)

/-- Look at the file for the first time. Nothing beside a frozen file counts. -/
def reach (k : Link) (f : File) (d : Disk) : Except SqliteError Manner × Disk :=
  if k.opening.frozen then (.ok .journal, d)
  else
    match (k.mark d).bind fun () => k.clearJournal f d with
    | .error error => (.error error, d)
    | .ok d => k.findLog f d

def rights (k : Link) (manner : Manner) (d : Disk) : Rights where
  writes := k.opening.writes && !k.opening.frozen && manner != .log .fixed
  shares := k.opening.shares
  staged :=
    manner != .journal ||
      (k.place.nameSize ≤ journalNameLimit && !d.hasDirectory (k.beside .journal))

/-- Put back a file that has been worked on, and close the connection. What has been written may be
what was there before. -/
def close (k : Link) (manner : Manner) (wrote : Bool) (after : File) (d : Disk) : Disk :=
  let d := d.setFile k.place after
  match manner with
  | .journal => if wrote then d.removeFile (k.beside .journal) else d
  | .log index =>
    if !k.opening.writes || index = .borrowed || index = .fixed then d
    else
      let d := d.removeFile (k.beside .log)
      if index = .inner then d else d.removeFile (k.beside .index)

end Link

end PuppetRegistry.Sqlite
