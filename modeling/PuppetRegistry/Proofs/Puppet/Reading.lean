import PuppetRegistry.Puppet.Row

/-!
# What a row reads as

A row is read field by field and the order of the fields does not show in a puppet that has been
read: a row reads as a puppet exactly when each of its cells reads as the field.
-/

namespace PuppetRegistry

open Puppet

/-- Each cell of a row reads as the field of a puppet on a server. -/
structure Row.ReadsAs (server : String) (r : Row) (p : Puppet) : Prop where
  user : readUser server r.user = .ok p.remoteId
  avatar : r.avatar.asText = .ok p.avatar
  avatarUri : ∃ text, r.avatarUri.asText = .ok text ∧ .parseOrZero text = p.avatarUri
  avatarSet : r.avatarSet.asFlag = p.avatarSet
  displayname : r.displayname.asText = .ok p.displayname
  nameQuality : ∃ quality, r.nameQuality.asInt = .ok quality ∧ clampQuality quality = p.nameQuality
  nameSet : r.nameSet.asFlag = p.nameSet
  lastSync : readMoment r.lastSync = .ok p.lastSync
  linkedUser : r.linkedUser.asText = .ok p.linkedUser
  accessToken : r.accessToken.asText = .ok p.accessToken
  nextBatch : r.nextBatch.asText = .ok p.nextBatch
  enablePresence : r.enablePresence.asFlag = p.enablePresence
  enableReceipts : r.enableReceipts.asFlag = p.enableReceipts
  firstActivity : r.firstActivity.asInt = .ok p.firstActivity
  lastActivity : r.lastActivity.asInt = .ok p.lastActivity

namespace Puppet

theorem runReaders_cons {reader : Reader} {rest : List Reader} {p q : Puppet} :
    runReaders (reader :: rest) p = (q, none) ↔
      ∃ p', reader p = .ok p' ∧ runReaders rest p' = (q, none) := by
  rw [runReaders]
  cases reader p <;> simp

theorem runReaders_nil {p q : Puppet} : runReaders [] p = (q, none) ↔ p = q := by
  simp [runReaders]

theorem ofCells_eq_ok {server : String} {r : Row} {p : Puppet} :
    ofCells server r.cells = .ok p ↔ runReaders (readers server r) {} = (p, none) := by
  rw [ofCells, readCells, Row.ofCells_cells]
  simp only
  generalize runReaders (readers server r) {} = done
  obtain ⟨q, none | e⟩ := done <;> simp

/-- A reader of one field passes on what it has read in it. -/
theorem runReaders_set {α : Type} {x : Except ConversionError α} {set : Puppet → α → Puppet}
    {rest : List Reader} {p q : Puppet} :
    runReaders ((fun p => return set p (← x)) :: rest) p = (q, none) ↔
      ∃ a, x = .ok a ∧ runReaders rest (set p a) = (q, none) := by
  rw [runReaders_cons]
  cases x with
  | error e =>
    constructor
    · rintro ⟨_, read, -⟩
      cases read
    · rintro ⟨_, read, -⟩
      cases read
  | ok a =>
    constructor
    · rintro ⟨_, read, others⟩
      cases read
      exact ⟨a, rfl, others⟩
    · rintro ⟨_, read, others⟩
      cases read
      exact ⟨_, rfl, others⟩

theorem runReaders_flag {set : Puppet → Puppet} {rest : List Reader} {p q : Puppet} :
    runReaders ((fun p => return set p) :: rest) p = (q, none) ↔
      runReaders rest (set p) = (q, none) := by
  rw [runReaders_cons]
  constructor
  · rintro ⟨_, read, others⟩
    cases read
    exact others
  · intro others
    exact ⟨_, rfl, others⟩

/-- Whatever puppet a row is read into, nothing of it is left. -/
theorem runReaders_readers_iff {server : String} {r : Row} {q p : Puppet} :
    runReaders (readers server r) q = (p, none) ↔ r.ReadsAs server p := by
  simp only [readers, runReaders_set, runReaders_flag, runReaders_nil]
  constructor
  · rintro ⟨id, hid, name, hname, avatar, havatar, uri, huri, quality, hquality, sync, hsync,
      link, hlink, token, htoken, batch, hbatch, first, hfirst, last, hlast, rfl⟩
    exact ⟨hid, havatar, ⟨uri, huri, rfl⟩, rfl, hname, ⟨quality, hquality, rfl⟩, rfl, hsync, hlink,
      htoken, hbatch, rfl, rfl, hfirst, hlast⟩
  · intro reads
    obtain ⟨uri, huri, hparse⟩ := reads.avatarUri
    obtain ⟨quality, hquality, hclamp⟩ := reads.nameQuality
    refine ⟨_, reads.user, _, reads.displayname, _, reads.avatar, uri, huri, quality, hquality, _,
      reads.lastSync, _, reads.linkedUser, _, reads.accessToken, _, reads.nextBatch, _,
      reads.firstActivity, _, reads.lastActivity, ?_⟩
    simp only [hparse, hclamp, reads.avatarSet, reads.nameSet, reads.enablePresence,
      reads.enableReceipts]

theorem ofCells_eq_ok_iff {server : String} {r : Row} {p : Puppet} :
    ofCells server r.cells = .ok p ↔ r.ReadsAs server p :=
  ofCells_eq_ok.trans runReaders_readers_iff

end Puppet

end PuppetRegistry
