import PuppetRegistry.Cell
import PuppetRegistry.Puppet.Basic

/-!
# Puppets as rows

A row of the puppet table has fifteen cells in a fixed order. `Puppet.toRow` writes a puppet into
one. `Puppet.readCells` reads one into a puppet field by field, in an order of its own, and leaves
the fields read so far in place when a cell cannot be read.
-/

namespace PuppetRegistry

structure Row where
  user : Cell
  avatar : Cell
  avatarUri : Cell
  displayname : Cell
  nameQuality : Cell
  nameSet : Cell
  avatarSet : Cell
  lastSync : Cell
  linkedUser : Cell
  accessToken : Cell
  nextBatch : Cell
  enablePresence : Cell
  enableReceipts : Cell
  firstActivity : Cell
  lastActivity : Cell
  deriving DecidableEq, Repr

namespace Row

def cells (r : Row) : List Cell :=
  [r.user, r.avatar, r.avatarUri, r.displayname, r.nameQuality, r.nameSet, r.avatarSet, r.lastSync,
    r.linkedUser, r.accessToken, r.nextBatch, r.enablePresence, r.enableReceipts, r.firstActivity,
    r.lastActivity]

def width : Nat := 15

def ofCells : List Cell → Except ConversionError Row
  | [user, avatar, avatarUri, displayname, nameQuality, nameSet, avatarSet, lastSync, linkedUser,
      accessToken, nextBatch, enablePresence, enableReceipts, firstActivity, lastActivity] =>
    .ok ⟨user, avatar, avatarUri, displayname, nameQuality, nameSet, avatarSet, lastSync, linkedUser,
      accessToken, nextBatch, enablePresence, enableReceipts, firstActivity, lastActivity⟩
  | cells =>
    .error (if cells.length < width then .tooFewCells cells.length else .tooManyCells)

theorem ofCells_cells (r : Row) : ofCells r.cells = .ok r := rfl

end Row

namespace Puppet

/-! ## Writing -/

/-- The second in which a profile was last passed on, zero for never. -/
def syncSeconds (sync : Option Moment) : Int :=
  match sync with
  | none => 0
  | some m => m.unixSeconds

def toRow (p : Puppet) : Row where
  user := .text p.remoteId.user
  avatar := .text p.avatar
  avatarUri := .text p.avatarUri.text
  displayname := .text p.displayname
  nameQuality := .int (clampQuality p.nameQuality)
  nameSet := .bool p.nameSet
  avatarSet := .bool p.avatarSet
  lastSync := .int (syncSeconds p.lastSync)
  linkedUser := .text p.linkedUser
  accessToken := .text p.accessToken
  nextBatch := .text p.nextBatch
  enablePresence := .bool p.enablePresence
  enableReceipts := .bool p.enableReceipts
  firstActivity := .ofIntOrNull p.firstActivity
  lastActivity := .ofIntOrNull p.lastActivity

/-! ## Reading -/

def readUser (server : String) (user : Cell) : Except ConversionError RemoteId :=
  match user with
  | .null => .error .userMissing
  | user => return ⟨← user.asText, server⟩

def readMoment (second : Cell) : Except ConversionError (Option Moment) := do
  Moment.ofUnix? (← second.asInt)

abbrev Reader := Puppet → Except ConversionError Puppet

/-- The fields of a row in the order in which they are read. -/
def readers (server : String) (r : Row) : List Reader :=
  [fun p => return { p with remoteId := ← readUser server r.user },
    fun p => return { p with displayname := ← r.displayname.asText },
    fun p => return { p with avatar := ← r.avatar.asText },
    fun p => return { p with avatarUri := .parseOrZero (← r.avatarUri.asText) },
    fun p => return { p with nameQuality := clampQuality (← r.nameQuality.asInt) },
    fun p => return { p with nameSet := r.nameSet.asFlag },
    fun p => return { p with avatarSet := r.avatarSet.asFlag },
    fun p => return { p with lastSync := ← readMoment r.lastSync },
    fun p => return { p with linkedUser := ← r.linkedUser.asText },
    fun p => return { p with accessToken := ← r.accessToken.asText },
    fun p => return { p with nextBatch := ← r.nextBatch.asText },
    fun p => return { p with enablePresence := r.enablePresence.asFlag },
    fun p => return { p with enableReceipts := r.enableReceipts.asFlag },
    fun p => return { p with firstActivity := ← r.firstActivity.asInt },
    fun p => return { p with lastActivity := ← r.lastActivity.asInt }]

/-- Run readers one after the other: the puppet as far as it was read, and what stopped the
reading. -/
def runReaders : List Reader → Puppet → Puppet × Option ConversionError
  | [], p => (p, none)
  | reader :: rest, p =>
    match reader p with
    | .ok q => runReaders rest q
    | .error e => (p, some e)

def readCells (server : String) (cells : List Cell) (p : Puppet) : Puppet × Option ConversionError :=
  match Row.ofCells cells with
  | .error e => (p, some e)
  | .ok r => runReaders (readers server r) p

def ofCells (server : String) (cells : List Cell) : Except ConversionError Puppet :=
  match readCells server cells {} with
  | (p, none) => .ok p
  | (_, some e) => .error e

end Puppet

end PuppetRegistry
