import PuppetRegistry.ContentUri
import PuppetRegistry.Moment
import PuppetRegistry.RemoteId

/-!
# Puppets

A puppet is the local stand-in of a user of the remote network: a profile copied from there, the
account of the local user it may be linked to, and the window of seconds in which it was active.
-/

namespace PuppetRegistry

structure Puppet where
  remoteId : RemoteId := {}
  avatar : String := ""
  avatarUri : ContentUri := {}
  avatarSet : Bool := false
  displayname : String := ""
  /-- The rank of the source of the name. -/
  nameQuality : Int := 0
  nameSet : Bool := false
  /-- When the profile was last passed on as a whole. -/
  lastSync : Option Moment := none
  /-- The local user this puppet is linked to; empty means none. -/
  linkedUser : String := ""
  accessToken : String := ""
  nextBatch : String := ""
  enablePresence : Bool := true
  enableReceipts : Bool := true
  /-- The first second of activity; zero means none so far. -/
  firstActivity : Int := 0
  lastActivity : Int := 0
  deriving DecidableEq, Repr

namespace Puppet

def isLinked (p : Puppet) : Bool :=
  !p.linkedUser.isEmpty

def sameSync : Option Moment → Option Moment → Bool
  | none, none => true
  | some a, some b => a.sameInstant b
  | _, _ => false

/-- Equality of all fields, the moment of the last sync taken as an instant. -/
def same (p q : Puppet) : Bool :=
  sameSync p.lastSync q.lastSync &&
    decide ({ p with lastSync := none } = { q with lastSync := none })

def minQuality : Int := -128

def maxQuality : Int := 127

/-- A quality brought into the range of one signed byte. -/
def clampQuality (quality : Int) : Int :=
  max minQuality (min maxQuality quality)

end Puppet

end PuppetRegistry
