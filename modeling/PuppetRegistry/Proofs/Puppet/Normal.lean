import PuppetRegistry.Proofs.ContentUri
import PuppetRegistry.Proofs.Puppet.Reading
import PuppetRegistry.Proofs.Seconds
import PuppetRegistry.Proofs.Sqlite.Meaning

/-!
# The normal form of a puppet

A puppet that is stored and read again comes back in normal form: its quality in range, its avatar
one with a text that is read as it, its last sync a second in UTC. A puppet that has been read is in
normal form already.
-/

namespace PuppetRegistry

namespace Puppet

/-- A puppet as it is read back from its row. -/
def normal (p : Puppet) : Puppet :=
  { p with
    nameQuality := clampQuality p.nameQuality
    avatarUri := p.avatarUri.normal
    lastSync := normalSync p.lastSync }

/-- How a puppet comes back from storage: as it was, except that its quality is brought into the
range of a signed byte, an avatar without a text of its own is dropped, and the last sync is the
whole second that it was written as, in UTC, or none if that is not after 1970 began. -/
structure ComesBackAs (p q : Puppet) : Prop where
  others : q = { p with
    nameQuality := q.nameQuality, avatarUri := q.avatarUri, lastSync := q.lastSync }
  quality : q.nameQuality = max (-128) (min 127 p.nameQuality)
  avatar : p.avatarUri.Valid → q.avatarUri = p.avatarUri
  noAvatar : ¬ p.avatarUri.Valid → q.avatarUri = {}
  synced : ∀ sync ∈ p.lastSync, 0 < sync.unixSeconds → ∃ m, q.lastSync = some m ∧
    m.micros = sync.unixSeconds * microsPerSecond ∧ m.offset = 0
  neverSynced : (∀ sync ∈ p.lastSync, sync.unixSeconds ≤ 0) → q.lastSync = none

theorem comesBackAs_normal {p : Puppet} (bound : ∀ sync ∈ p.lastSync, sync.unixSeconds < endSecond) :
    p.ComesBackAs p.normal where
  others := rfl
  quality := rfl
  avatar := ContentUri.normal_of_valid
  noAvatar := ContentUri.normal_of_not_valid
  synced sync held positive := by
    obtain ⟨m, normal, whole⟩ := normalSync_of_pos (bound sync held) positive
    rw [← Option.mem_def.mp held] at normal
    exact ⟨m, normal, whole⟩
  neverSynced := normalSync_of_nonpos

theorem clampQuality_clampQuality (quality : Int) :
    clampQuality (clampQuality quality) = clampQuality quality := by
  simp only [clampQuality, minQuality, maxQuality]
  omega

theorem clampQuality_bounds (quality : Int) :
    -(2 ^ 63) ≤ clampQuality quality ∧ clampQuality quality < 2 ^ 63 := by
  simp only [clampQuality, minQuality, maxQuality]
  omega

end Puppet

namespace Row.ReadsAs

open Puppet

variable {server : String} {r : Row} {p : Puppet}

theorem sync (reads : r.ReadsAs server p) :
    syncSeconds p.lastSync < endSecond ∧ normalSync p.lastSync = p.lastSync := by
  have read := reads.lastSync
  unfold readMoment at read
  cases second : r.lastSync.asInt with
  | error e =>
    rw [second] at read
    cases read
  | ok s =>
    rw [second] at read
    exact normalSync_of_read read

theorem server_eq (reads : r.ReadsAs server p) : p.remoteId.server = server := by
  have read := reads.user
  unfold readUser at read
  split at read
  · cases read
  · cases text : r.user.asText with
    | error e =>
      rw [text] at read
      cases read
    | ok user =>
      rw [text] at read
      exact congrArg RemoteId.server (Except.ok.inj read).symm

theorem normal_eq (reads : r.ReadsAs server p) : p.normal = p := by
  have quality : clampQuality p.nameQuality = p.nameQuality := by
    obtain ⟨quality, _, clamped⟩ := reads.nameQuality
    rw [← clamped, clampQuality_clampQuality]
  have avatarUri : p.avatarUri.normal = p.avatarUri := by
    obtain ⟨text, _, parsed⟩ := reads.avatarUri
    rw [← parsed, ContentUri.normal_parseOrZero]
  rw [normal, quality, avatarUri, reads.sync.2]

end Row.ReadsAs

/-! ## Rows in storage -/

namespace Sqlite

open Puppet

def storedRow (p : Puppet) : Row :=
  convertRow (bindRow p.toRow)

theorem asFlag_bit (b : Bool) : (Cell.int (if b then 1 else 0)).asFlag = b := by
  cases b <;> rfl

theorem storedRow_eq (p : Puppet) : storedRow p =
    { p.toRow with
      nameSet := .int (if p.nameSet then 1 else 0)
      avatarSet := .int (if p.avatarSet then 1 else 0)
      enablePresence := .int (if p.enablePresence then 1 else 0)
      enableReceipts := .int (if p.enableReceipts then 1 else 0) } := by
  have intOrNull (i : Int) :
      Affinity.integer.convert ((bindCell? (.ofIntOrNull i)).getD (.ofIntOrNull i)) =
        .ofIntOrNull i := by
    unfold Cell.ofIntOrNull
    split
    · rfl
    · rw [bound_int]
      rfl
  simp only [storedRow, toRow, bindRow, convertRow, bound_int, intOrNull]
  rfl

/-- The row of a puppet reads as its normal form. -/
theorem readsAs_storedRow {server : String} {p : Puppet} (own : p.remoteId.server = server)
    (bound : syncSeconds p.lastSync < endSecond) : (storedRow p).ReadsAs server p.normal := by
  have intOrNull (i : Int) : (Cell.ofIntOrNull i).asInt = .ok i := by
    unfold Cell.ofIntOrNull
    split
    · next zero => rw [zero]; rfl
    · rfl
  rw [storedRow_eq]
  constructor
  case user => exact congrArg Except.ok (own ▸ rfl)
  case avatarUri => exact ⟨_, rfl, ContentUri.parseOrZero_text p.avatarUri⟩
  case nameQuality => exact ⟨_, rfl, clampQuality_clampQuality p.nameQuality⟩
  case lastSync => exact readMoment_syncSeconds bound
  case firstActivity | lastActivity => exact intOrNull _
  case avatarSet | nameSet | enablePresence | enableReceipts => exact asFlag_bit _
  case avatar | displayname | linkedUser | accessToken | nextBatch => rfl

/-- A profile that is written over another one is read with the activity that was there. -/
theorem readsAs_withProfile {server : String} {values r : Row} {p : Puppet}
    (reads : values.ReadsAs server p) (user : readUser server r.user = .ok p.remoteId)
    (first : r.firstActivity.asInt = .ok p.firstActivity)
    (last : r.lastActivity.asInt = .ok p.lastActivity) :
    (Table.withProfile values r).ReadsAs server p :=
  { reads with user := user, firstActivity := first, lastActivity := last }

end Sqlite

end PuppetRegistry
