import PuppetRegistry.Lookup
import PuppetRegistry.Puppet.Writing
import PuppetRegistry.Text.Blank

/-!
# Access to puppets

What those who handle messages do with puppets. A storage error is reported as an event and
answered by the absence of what was asked for, so that a hiccup of the store never stops the
handling of a message. Any other fault passes.
-/

namespace PuppetRegistry.Access

open Program

variable {μ : Type}

/-! ## Finding puppets -/

/-- The puppet of a user, created if `create` and there is none. Only users of `server` are
created. A created puppet is answered even if it could not be stored. -/
def find (server : String) (id : RemoteId) (create : Bool) : Program μ (Option Puppet) := do
  let found ← (Except.ok <$> Lookup.byId server id).onStoreError fun error =>
    return .error error
  match found with
  | .error error =>
    report (.loadFailed id error)
    return none
  | .ok (some p) => return some p
  | .ok none =>
    if !create then return none
    if id.server ≠ server then
      report (.notCreating id)
      return none
    let p : Puppet := { remoteId := id }
    let _ ← (Puppet.insertRow server p).onStoreError fun error => do
      report (.insertFailed id error)
      return false
    return some p

def findLinkedTo (server : String) (id : Option String) : Program μ (Option Puppet) :=
  match id with
  | none => done none
  | some id =>
    (Lookup.byLink server id).onStoreError fun error => do
      report (.linkLoadFailed id error)
      return none

def all (server : String) : Program μ (List Puppet) :=
  (Lookup.all server).onStoreError fun error => do
    report (.listFailed error)
    return []

def linked (server : String) : Program μ (List Puppet) :=
  (Lookup.linked server).onStoreError fun error => do
    report (.linkedListFailed error)
    return []

/-! ## Changing a puppet -/

def write : Program Puppet Bool :=
  Puppet.update.onStoreError fun error => do
    let p ← record
    report (.updateFailed p.remoteId error)
    return false

/-- Record activity. The window in memory has advanced even when a write failed. -/
def noteActivity (second : Cell) : Program Puppet Bool :=
  (Puppet.recordActivityCell second).onStoreError fun _ => return true

/-- Take over a name of at least the quality of the current one. Whether the name has to be passed
on. -/
def rename (name : Option String) (quality : Int) : Program Puppet Bool := do
  let name := Text.trim (name.getD "")
  let p ← record
  if name.isEmpty || decide (quality < p.nameQuality) then return false
  if name = p.displayname && p.nameSet then
    if p.nameQuality < quality then
      revise fun p => { p with nameQuality := quality }
      let _ ← write
    return false
  revise fun p => { p with displayname := name, nameQuality := quality, nameSet := false }
  let _ ← write
  let p ← record
  report (.renamed p.remoteId name quality)
  return true

def changeAvatar (avatar : String) (uri : ContentUri) : Program Puppet Bool := do
  let p ← record
  if avatar = p.avatar && p.avatarSet then return false
  revise fun p => { p with avatar := avatar, avatarUri := uri, avatarSet := false }
  let _ ← write
  return true

def noteSynced (now : Moment) : Program Puppet Bool := do
  revise fun p => { p with nameSet := true, avatarSet := true, lastSync := some now }
  write

def unlink : Program Puppet Bool := do
  let p ← record
  if !p.isLinked && p.accessToken.isEmpty then return false
  report (.unlinking p.linkedUser p.remoteId)
  revise fun p => { p with linkedUser := "", accessToken := "", nextBatch := "" }
  write

end PuppetRegistry.Access
