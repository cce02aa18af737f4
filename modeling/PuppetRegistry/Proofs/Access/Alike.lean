import PuppetRegistry.Proofs.Access.Calls
import PuppetRegistry.Proofs.Activity.Stretches
import PuppetRegistry.Proofs.Program.Alike

/-!
# Operations on puppets with other tokens

Looking puppets up, writing one, recording its activity and editing it never show the texts of the
tokens: each of these operations takes the same steps on puppets that are alike. Main statements: a
lookup finds alike puppets; an operation on one puppet draws the same answer, reports the same, and
leaves alike puppets behind.
-/

namespace PuppetRegistry

open Program

variable {μ : Type} {M : μ → μ → Prop} {server : String}

/-! ## Lookups -/

namespace Lookup

theorem agree_decode {cells cells' : List Cell} (server : String)
    (rows : CellsAlike cells cells') :
    Agree Puppet.Alike (decode server cells) (decode server cells') :=
  (Puppet.agree_ofCells server rows).mapError _

theorem alike_first (server : String) (st : Statement) :
    Program.Alike M (Option.Rel Puppet.Alike) (first server st) (first server st) := by
  refine (alike_fetchRow (.same st)).bind fun found found' rows => ?_
  cases rows with
  | none => exact .done .none
  | some rows =>
    refine (Program.Alike.ofExcept (agree_decode server rows)).bind fun p p' alike => ?_
    exact .done (.some alike)

theorem alike_every (server : String) (st : Statement) :
    Program.Alike M (List.Forall₂ Puppet.Alike) (every server st) (every server st) := by
  refine (alike_fetchRows (.same st)).bind fun found found' rows => ?_
  exact .ofExcept (.mapM (fun _ _ => agree_decode server) rows)

theorem alike_byLink (server id : String) :
    Program.Alike M (Option.Rel Puppet.Alike) (byLink server id) (byLink server id) := by
  unfold byLink
  split
  · exact .done .none
  · exact alike_first server _

end Lookup

/-! ## Writing one puppet -/

namespace Puppet

theorem alike_change {f : Puppet → Puppet} (apart : Apart f) :
    Program.Alike Puppet.Alike Eq (revise f) (revise f) :=
  alike_revise fun _ _ (alike : Puppet.Alike _ _) => alike.change apart

theorem alike_insertRow {p p' : Puppet} (alike : p.Alike p') (server : String) :
    Program.Alike M Eq (insertRow server p) (insertRow server p') := by
  unfold insertRow
  rw [alike.remoteId]
  split
  · exact (alike_report _).bind fun _ _ _ => .done rfl
  · exact (alike_perform (.insert alike.toRow)).bind fun _ _ _ => .done rfl

theorem alike_insert (server : String) :
    Program.Alike Puppet.Alike Eq (insert server) (insert server) :=
  alike_record.bind fun _ _ alike => alike_insertRow alike server

theorem alike_update : Program.Alike Puppet.Alike Eq update update := by
  refine alike_record.bind fun p p' alike => ?_
  refine (alike_perform (.update alike.toRow)).bind fun n n' same => ?_
  rw [same]
  exact .done rfl

/-! ## Recording activity -/

theorem alike_failureOf (event : RemoteId → StoreError → Event)
    {program program' : Program Puppet Unit}
    (alike : Program.Alike Puppet.Alike Eq program program') :
    Program.Alike Puppet.Alike Eq (failureOf event program) (failureOf event program') := by
  refine (alike.bind fun _ _ _ => .done rfl).onStoreError fun e => ?_
  refine alike_record.bind fun p p' alike => ?_
  rw [alike.remoteId]
  exact (alike_report _).bind fun _ _ _ => .done rfl

theorem alike_claimFirst (second : Int) :
    Program.Alike Puppet.Alike Eq (claimFirst second) (claimFirst second) := by
  refine alike_record.bind fun p p' alike => ?_
  rw [alike.remoteId]
  refine (alike_perform (.same _)).bind fun n n' same => ?_
  rw [same]
  split
  · exact .done rfl
  refine alike_record.bind fun p p' alike => ?_
  rw [alike.remoteId]
  refine (alike_fetchRow (.same _)).bind fun found found' rows => ?_
  cases rows with
  | none => exact .done rfl
  | some rows =>
    rcases rows.heads with ⟨rfl, rfl⟩ | ⟨cell, rest, rest', rfl, rfl⟩
    · exact .raise _
    cases cell with
    | null => exact .done rfl
    | bool | int | real | text | blob =>
      refine (Program.Alike.ofExcept (.refl (fun _ => rfl) _)).bind fun stored stored' same => ?_
      rw [same]
      exact alike_change fun _ _ _ => rfl

theorem alike_recordActivity (second : Int) :
    Program.Alike Puppet.Alike Eq (recordActivity second) (recordActivity second) := by
  refine alike_record.bind fun p p' alike => ?_
  rw [alike.lastActivity, alike.remoteId]
  split
  · exact .done rfl
  refine (alike_report _).bind fun _ _ _ => ?_
  refine (alike_change fun _ _ _ => rfl).bind fun _ _ _ => ?_
  refine alike_record.bind fun p p' alike => ?_
  rw [alike.remoteId]
  refine (alike_failureOf _ ?advance).bind fun last last' same_last => ?_
  case advance => exact (alike_perform (.same _)).bind fun _ _ _ => .done rfl
  refine alike_record.bind fun p p' alike => ?_
  rw [alike.firstActivity]
  have told (first : Option StoreError) :
      Program.Alike Puppet.Alike Eq (conclude last first) (conclude last first) := by
    unfold conclude
    split
    · exact .done rfl
    · refine .consult fun p p' alike => ?_
      rw [alike.remoteId]
      exact .raise _
  subst same_last
  split
  · refine (alike_change fun _ _ _ => rfl).bind fun _ _ _ => ?_
    refine (alike_failureOf _ (alike_claimFirst second)).bind fun first first' same_first => ?_
    subst same_first
    exact told first
  · exact told none

theorem alike_recordActivityCell (second : Cell) :
    Program.Alike Puppet.Alike Eq (recordActivityCell second) (recordActivityCell second) := by
  refine (Program.Alike.ofExcept (.refl (fun _ => rfl) _)).bind fun i i' same => ?_
  rw [same]
  exact alike_recordActivity i'

end Puppet

/-! ## Access -/

namespace Access

/-- A storage error is reported, and answered by something fixed. -/
theorem alike_onStoreError {α : Type} {A : α → α → Prop} {p p' : Program μ α}
    {event : StoreError → Event} {a : α} (alike : Program.Alike M A p p') (same : A a a) :
    Program.Alike M A
      (p.onStoreError fun error => do
        report (event error)
        return a)
      (p'.onStoreError fun error => do
        report (event error)
        return a) :=
  alike.onStoreError fun _ => (alike_report _).bind fun _ _ _ => .done same

theorem alike_find (server : String) (id : RemoteId) (create : Bool) :
    Program.Alike M (Option.Rel Puppet.Alike) (find server id create) (find server id create) := by
  refine Program.Alike.bind (A := Agree (Option.Rel Puppet.Alike)) ?looked
    fun found found' agree => ?_
  case looked =>
    refine .onStoreError ?_ fun error => .done (.error error)
    exact (Lookup.alike_first server _).bind fun _ _ found => .done (.ok found)
  cases agree with
  | error e => exact (alike_report _).bind fun _ _ _ => .done .none
  | ok related =>
    cases related with
    | some alike => exact .done (.some alike)
    | none =>
      dsimp only
      split
      · exact .done .none
      split
      · exact (alike_report _).bind fun _ _ _ => .done .none
      · have created : Puppet.Alike { remoteId := id } { remoteId := id } := .refl _
        have inserted := Puppet.alike_insertRow (M := M) created server
        refine (alike_onStoreError inserted rfl).bind fun _ _ _ => ?_
        exact .done (.some created)

theorem alike_findLinkedTo (server : String) (id : Option String) :
    Program.Alike M (Option.Rel Puppet.Alike) (findLinkedTo server id)
      (findLinkedTo server id) := by
  cases id with
  | none => exact .done .none
  | some id => exact alike_onStoreError (Lookup.alike_byLink server id) .none

theorem alike_all (server : String) :
    Program.Alike M (List.Forall₂ Puppet.Alike) (all server) (all server) :=
  alike_onStoreError (Lookup.alike_every server _) .nil

theorem alike_linked (server : String) :
    Program.Alike M (List.Forall₂ Puppet.Alike) (linked server) (linked server) :=
  alike_onStoreError (Lookup.alike_every server _) .nil

theorem alike_write : Program.Alike Puppet.Alike Eq write write := by
  refine Puppet.alike_update.onStoreError fun error => ?_
  refine alike_record.bind fun p p' alike => ?_
  rw [alike.remoteId]
  exact (alike_report _).bind fun _ _ _ => .done rfl

theorem alike_noteActivity (second : Cell) :
    Program.Alike Puppet.Alike Eq (noteActivity second) (noteActivity second) :=
  (Puppet.alike_recordActivityCell second).onStoreError fun _ => .done rfl

theorem alike_rename (name : Option String) (quality : Int) :
    Program.Alike Puppet.Alike Eq (rename name quality) (rename name quality) := by
  unfold rename
  refine alike_record.bind fun p p' alike => ?_
  obtain ⟨token, batch, both, rfl⟩ := alike
  dsimp only
  split
  · exact .done rfl
  split
  · split
    · refine (Puppet.alike_change fun _ _ _ => rfl).bind fun _ _ _ => ?_
      exact alike_write.bind fun _ _ _ => .done rfl
    · exact .done rfl
  · refine (Puppet.alike_change fun _ _ _ => rfl).bind fun _ _ _ => ?_
    refine alike_write.bind fun _ _ _ => ?_
    refine alike_record.bind fun p p' alike => ?_
    rw [alike.remoteId]
    exact (alike_report _).bind fun _ _ _ => .done rfl

theorem alike_changeAvatar (avatar : String) (uri : ContentUri) :
    Program.Alike Puppet.Alike Eq (changeAvatar avatar uri) (changeAvatar avatar uri) := by
  refine alike_record.bind fun p p' alike => ?_
  obtain ⟨token, batch, both, rfl⟩ := alike
  dsimp only
  split
  · exact .done rfl
  · refine (Puppet.alike_change fun _ _ _ => rfl).bind fun _ _ _ => ?_
    exact alike_write.bind fun _ _ _ => .done rfl

theorem alike_noteSynced (now : Moment) :
    Program.Alike Puppet.Alike Eq (noteSynced now) (noteSynced now) :=
  (Puppet.alike_change fun _ _ _ => rfl).bind fun _ _ _ => alike_write

theorem alike_unlink : Program.Alike Puppet.Alike Eq unlink unlink := by
  refine alike_record.bind fun p p' alike => ?_
  have unlinked : p'.isLinked = p.isLinked := alike.isLinked
  obtain ⟨token, batch, both, rfl⟩ := alike
  rw [unlinked, ← both]
  split
  · exact .done rfl
  · refine (alike_report _).bind fun _ _ _ => ?_
    refine (alike_revise fun p p' alike => ?_).bind fun _ _ _ => alike_write
    obtain ⟨token, batch, both, rfl⟩ := alike
    exact .refl _

theorem alike_edit (e : Edit) : Program.Alike Puppet.Alike Eq e.program e.program := by
  cases e with
  | write => exact alike_write
  | rename name quality => exact alike_rename name quality
  | changeAvatar avatar uri => exact alike_changeAvatar avatar uri
  | noteSynced now => exact alike_noteSynced now
  | unlink => exact alike_unlink

end Access

end PuppetRegistry
