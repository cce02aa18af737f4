import PuppetRegistry.Access
import PuppetRegistry.Program.Interleaving

/-!
# Calls on a puppet

The calls that those who handle messages make on a puppet they hold, one after the other. An edit
changes the profile in memory and overwrites the stored one, or does neither. Main statement: an
edit is told by the change it makes and by the answer it draws from the success of the write.
-/

namespace PuppetRegistry.Access

open Program

inductive Edit
  | write
  | rename (name : Option String) (quality : Int)
  | changeAvatar (avatar : String) (uri : ContentUri)
  | noteSynced (now : Moment)
  | unlink

inductive Call
  | edit (edit : Edit)
  | noteActivity (second : Int)

def Edit.program : Edit → Program Puppet Bool
  | write => Access.write
  | rename name quality => Access.rename name quality
  | changeAvatar avatar uri => Access.changeAvatar avatar uri
  | noteSynced now => Access.noteSynced now
  | unlink => Access.unlink

def Call.program : Call → Program Puppet Bool
  | edit e => e.program
  | noteActivity second => Access.noteActivity (.int second)

/-- Calls one after the other, with their answers. -/
def Call.inTurn : List Call → Program Puppet (List Bool)
  | [] => done []
  | call :: rest => do
    let answer ← call.program
    let answers ← inTurn rest
    return answer :: answers

/-! ## Edits -/

abbrev offered (name : Option String) : String :=
  Text.trim (name.getD "")

/-- The puppet that an edit writes, if it writes one. -/
def Edit.change? : Edit → Puppet → Option Puppet
  | write, p => some p
  | rename name quality, p =>
    if (offered name).isEmpty || decide (quality < p.nameQuality) then none
    else if offered name = p.displayname && p.nameSet then
      if p.nameQuality < quality then some { p with nameQuality := quality } else none
    else
      some { p with displayname := offered name, nameQuality := quality, nameSet := false }
  | changeAvatar avatar uri, p =>
    if avatar = p.avatar && p.avatarSet then none
    else some { p with avatar := avatar, avatarUri := uri, avatarSet := false }
  | noteSynced now, p => some { p with nameSet := true, avatarSet := true, lastSync := some now }
  | unlink, p =>
    if !p.isLinked && p.accessToken.isEmpty then none
    else some { p with linkedUser := "", accessToken := "", nextBatch := "" }

/-- The answer of an edit that writes, from whether the write succeeds. -/
def Edit.answer : Edit → Puppet → (saved : Bool) → Bool
  | write, _, saved | noteSynced _, _, saved | unlink, _, saved => saved
  | rename name _, p, _ => !(offered name = p.displayname && p.nameSet)
  | changeAvatar _ _, _, _ => true

/-- The answer of an edit in a store that saves whatever is written. -/
def Edit.answerSaved (e : Edit) (p : Puppet) : Bool :=
  match e.change? p with
  | none => false
  | some _ => e.answer p true

/-- An edit leaves identity and activity as they are, and only one kind of edit sets the sync. -/
theorem Edit.kept_of_change? {e : Edit} {p q : Puppet} (new : e.change? p = some q) :
    q.remoteId = p.remoteId ∧ q.firstActivity = p.firstActivity ∧
      q.lastActivity = p.lastActivity ∧
      (q.lastSync = p.lastSync ∨ ∃ now, e = .noteSynced now ∧ q.lastSync = some now) := by
  cases e with
  | write =>
    cases new
    exact ⟨rfl, rfl, rfl, .inl rfl⟩
  | noteSynced now =>
    cases new
    exact ⟨rfl, rfl, rfl, .inr ⟨now, rfl, rfl⟩⟩
  | rename name quality =>
    simp only [change?] at new
    split at new
    · cases new
    · split at new
      · split at new
        · cases new
          exact ⟨rfl, rfl, rfl, .inl rfl⟩
        · cases new
      · cases new
        exact ⟨rfl, rfl, rfl, .inl rfl⟩
  | changeAvatar | unlink =>
    simp only [change?] at new
    split at new
    · cases new
    · cases new
      exact ⟨rfl, rfl, rfl, .inl rfl⟩

section Run

variable {σ : Type} {h : Handle σ} {s s' : σ} {p q : Puppet}

theorem run_update {reply : Except Fault Int} (replied : h.execute (.update p.toRow) s = (reply, s')) :
    Puppet.update.run h s p = ⟨reply.map fun n => decide (0 < n), s', p, []⟩ := by
  change ((Program.ofExcept (h.execute (.update p.toRow) s).1).bind _).run h
    (h.execute (.update p.toRow) s).2 p = _
  rw [replied]
  cases reply <;> rfl

theorem run_write {n : Int} (replied : h.execute (.update p.toRow) s = (.ok n, s')) :
    write.run h s p = ⟨.ok (decide (0 < n)), s', p, []⟩ := by
  rw [write, run_onStoreError, run_update replied]
  rfl

theorem run_write_error {e : StoreError}
    (replied : h.execute (.update p.toRow) s = (.error (.storage e), s')) :
    write.run h s p = ⟨.ok false, s', p, [.updateFailed p.remoteId e]⟩ := by
  rw [write, run_onStoreError, run_update replied]
  rfl

theorem Edit.run_none {e : Edit} (same : e.change? p = none) :
    e.program.run h s p = ⟨.ok false, s, p, []⟩ := by
  cases e with
  | write | noteSynced => cases same
  | rename name quality =>
    simp only [program, Access.rename, bind_eq, record, Program.bind, run, pure_eq, revise, report]
    simp only [change?, offered] at same
    by_cases poor : (Text.trim (name.getD "")).isEmpty || decide (quality < p.nameQuality)
    · rw [if_pos poor]
      rfl
    · rw [if_neg poor] at same ⊢
      by_cases known : decide (Text.trim (name.getD "") = p.displayname) && p.nameSet
      · rw [if_pos known] at same ⊢
        by_cases better : p.nameQuality < quality
        · rw [if_pos better] at same
          cases same
        · rw [if_neg better]
          rfl
      · rw [if_neg known] at same
        cases same
  | changeAvatar avatar uri =>
    simp only [program, Access.changeAvatar, bind_eq, record, Program.bind, run, pure_eq, revise]
    simp only [change?] at same
    by_cases known : decide (avatar = p.avatar) && p.avatarSet
    · rw [if_pos known]
      rfl
    · rw [if_neg known] at same
      cases same
  | unlink =>
    simp only [program, Access.unlink, bind_eq, record, Program.bind, run, pure_eq, revise, report]
    simp only [change?] at same
    by_cases alone : !p.isLinked && p.accessToken.isEmpty
    · rw [if_pos alone]
      rfl
    · rw [if_neg alone] at same
      cases same

/-- An edit that writes is its change, the write, and its answer. -/
theorem Edit.run_some {e : Edit} (new : e.change? p = some q) {saved : Bool} {events : List Event}
    (wrote : Access.write.run h s q = ⟨.ok saved, s', q, events⟩) :
    ∃ events', e.program.run h s p = ⟨.ok (e.answer p saved), s', q, events'⟩ := by
  have after {f : Bool → Program Puppet Bool} :
      (Access.write.bind f).run h s q = ((f saved).run h s' q).after events := by
    rw [run_bind, wrote]
    rfl
  cases e with
  | write =>
    cases new
    exact ⟨events, wrote⟩
  | noteSynced now =>
    cases new
    exact ⟨events, wrote⟩
  | rename name quality =>
    simp only [program, Access.rename, bind_eq, record, Program.bind, run, pure_eq, revise, report]
    simp only [change?, offered] at new
    by_cases poor : (Text.trim (name.getD "")).isEmpty || decide (quality < p.nameQuality)
    · rw [if_pos poor] at new
      cases new
    · rw [if_neg poor] at new ⊢
      by_cases known : decide (Text.trim (name.getD "") = p.displayname) && p.nameSet
      · rw [if_pos known] at new ⊢
        by_cases better : p.nameQuality < quality
        · rw [if_pos better] at new ⊢
          cases new
          simp only [run, after, Run.after, answer, offered, known]
          exact ⟨_, rfl⟩
        · rw [if_neg better] at new
          cases new
      · rw [if_neg known] at new ⊢
        cases new
        simp only [run, after, Run.after, answer, offered, known]
        exact ⟨_, rfl⟩
  | changeAvatar avatar uri =>
    simp only [program, Access.changeAvatar, bind_eq, record, Program.bind, run, pure_eq, revise]
    simp only [change?] at new
    by_cases known : decide (avatar = p.avatar) && p.avatarSet
    · rw [if_pos known] at new
      cases new
    · rw [if_neg known] at new ⊢
      cases new
      simp only [run, after, Run.after, answer]
      exact ⟨_, rfl⟩
  | unlink =>
    simp only [program, Access.unlink, bind_eq, record, Program.bind, run, pure_eq, revise, report]
    simp only [change?] at new
    by_cases alone : !p.isLinked && p.accessToken.isEmpty
    · rw [if_pos alone] at new
      cases new
    · rw [if_neg alone] at new ⊢
      cases new
      simp only [run, wrote, answer]
      exact ⟨_, rfl⟩

theorem Call.run_inTurn_cons {s'' : σ} {p' : Puppet} {call : Call} {rest : List Call} {answer : Bool}
    {answers : List Bool} {events events' : List Event}
    (first : call.program.run h s p = ⟨.ok answer, s', q, events⟩)
    (others : (inTurn rest).run h s' q = ⟨.ok answers, s'', p', events'⟩) :
    (inTurn (call :: rest)).run h s p = ⟨.ok (answer :: answers), s'', p', events ++ events'⟩ := by
  simp only [inTurn, bind_eq, run_bind, first, Run.andThen, others, pure_eq, run, List.append_nil]

end Run

end PuppetRegistry.Access
