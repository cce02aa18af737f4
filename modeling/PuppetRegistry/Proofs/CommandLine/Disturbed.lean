import Mathlib.Data.List.Forall2
import PuppetRegistry.Proofs.CommandLine.Session
import PuppetRegistry.Proofs.Program.Crowd

/-!
# Disturbed sessions

One store simulates another one if both answer every statement alike and stay related. A store is
disturbed if something happens to it before its statements are carried out. Main statements: a
program comes to the same on a store and on one that it simulates, and so do tasks that overlap, and
a session; and a store goes on simulating another one amid disturbances that leave the two related.
-/

namespace PuppetRegistry

open Program

variable {σ τ δ μ α : Type}

/-! ## Simulation -/

/-- From related stores, every statement is answered alike and leaves related stores behind. -/
structure Handle.Simulates (h : Handle σ) (h' : Handle τ) (R : σ → τ → Prop) : Prop where
  rows (st : Statement) {s : σ} {s' : τ} : R s s' →
    (h.rows st s).1 = (h'.rows st s').1 ∧ R (h.rows st s).2 (h'.rows st s').2
  row (st : Statement) {s : σ} {s' : τ} : R s s' →
    (h.row st s).1 = (h'.row st s').1 ∧ R (h.row st s).2 (h'.row st s').2
  execute (st : Statement) {s : σ} {s' : τ} : R s s' →
    (h.execute st s).1 = (h'.execute st s').1 ∧ R (h.execute st s).2 (h'.execute st s').2

/-- Two runs that differ in their stores only, and these are related. -/
structure Program.Run.Matches (R : σ → τ → Prop) (x : Run σ μ α) (y : Run τ μ α) : Prop where
  result : x.result = y.result
  store : R x.store y.store
  record : x.record = y.record
  events : x.events = y.events

/-- Crowds that differ in their stores only, and these are related. -/
structure Program.Crowd.Matches {κ : Type} (R : σ → τ → Prop) (c : Crowd κ σ μ α)
    (c' : Crowd κ τ μ α) : Prop where
  store : R c.store c'.store
  records : c.records = c'.records
  tasks : c.tasks = c'.tasks

section

variable {h : Handle σ} {h' : Handle τ} {R : σ → τ → Prop} {s : σ} {s' : τ}

theorem Handle.Simulates.run (simulates : h.Simulates h' R) (p : Program μ α) (related : R s s')
    (m : μ) : (p.run h s m).Matches R (p.run h' s' m) := by
  induction p generalizing s s' m with
  | done | raise => exact ⟨rfl, related, rfl, rfl⟩
  | note event _ ih =>
    have rest := ih related m
    exact ⟨rest.result, rest.store, rest.record, congrArg (event :: ·) rest.events⟩
  | consult _ ih => exact ih m related m
  | keep m' _ ih => exact ih related m'
  | rows st next ih =>
    obtain ⟨same, stores⟩ := simulates.rows st related
    simp only [Program.run, same]
    exact ih _ stores m
  | row st next ih =>
    obtain ⟨same, stores⟩ := simulates.row st related
    simp only [Program.run, same]
    exact ih _ stores m
  | execute st next ih =>
    obtain ⟨same, stores⟩ := simulates.execute st related
    simp only [Program.run, same]
    exact ih _ stores m

theorem Handle.Simulates.answer? (simulates : h.Simulates h' R) (pause : Pause μ α)
    (related : R s s') :
    Option.Rel (fun x y => x.1 = y.1 ∧ R x.2 y.2) (pause.answer? h s) (pause.answer? h' s') := by
  cases pause with
  | ended => exact .none
  | rows st next =>
    obtain ⟨same, stores⟩ := simulates.rows st related
    exact .some ⟨congrArg next same, stores⟩
  | row st next =>
    obtain ⟨same, stores⟩ := simulates.row st related
    exact .some ⟨congrArg next same, stores⟩
  | execute st next =>
    obtain ⟨same, stores⟩ := simulates.execute st related
    exact .some ⟨congrArg next same, stores⟩

section

variable {κ : Type} [DecidableEq κ] {c : Crowd κ σ μ α} {c' : Crowd κ τ μ α}

theorem Handle.Simulates.stepAt? (simulates : h.Simulates h' R) (i : Nat)
    (same : c.Matches R c') : Option.Rel (Crowd.Matches R) (c.stepAt? h i) (c'.stepAt? h' i) := by
  simp only [Crowd.stepAt?, same.tasks]
  split
  · exact .none
  · next k program _ =>
    simp only [Crowd.advanceAt, same.records, same.tasks]
    exact .some ⟨same.store, rfl, rfl⟩
  · next k pause _ =>
    have answered := simulates.answer? pause same.store
    revert answered
    cases pause.answer? h c.store <;> cases pause.answer? h' c'.store <;> rintro ⟨⟩
    · exact .none
    · next replied =>
      obtain ⟨program, stores⟩ := replied
      simp only [Option.map_some, Crowd.answerAt, program, same.records, same.tasks]
      exact .some ⟨stores, rfl, rfl⟩

/-- Tasks that overlap come to the same in the same order of steps. -/
theorem Handle.Simulates.follow (simulates : h.Simulates h' R) (schedule : List Nat)
    (same : c.Matches R c') : (c.follow h schedule).Matches R (c'.follow h' schedule) := by
  induction schedule generalizing c c' with
  | nil => exact same
  | cons i rest ih =>
    have moved := simulates.stepAt? i same
    rw [Crowd.follow, Crowd.follow]
    revert moved
    cases c.stepAt? h i <;> cases c'.stepAt? h' i <;> rintro ⟨⟩
    · exact ih same
    · next moved => exact ih moved

end

/-- Two stores that simulate a third one simulate each other while they stand for the same state of
it. -/
theorem Handle.Simulates.meet {υ : Type} {first : Handle σ} {second : Handle τ} {third : Handle υ}
    {R : σ → υ → Prop} {Q : τ → υ → Prop} (one : first.Simulates third R)
    (two : second.Simulates third Q) :
    first.Simulates second fun s s' => ∃ t, R s t ∧ Q s' t where
  rows st := fun ⟨_, r, q⟩ =>
    ⟨(one.rows st r).1.trans (two.rows st q).1.symm, _, (one.rows st r).2, (two.rows st q).2⟩
  row st := fun ⟨_, r, q⟩ =>
    ⟨(one.row st r).1.trans (two.row st q).1.symm, _, (one.row st r).2, (two.row st q).2⟩
  execute st := fun ⟨_, r, q⟩ =>
    ⟨(one.execute st r).1.trans (two.execute st q).1.symm, _, (one.execute st r).2,
      (two.execute st q).2⟩

end

/-! ## Disturbances -/

/-- A reply after the next disturbance, if one is left. -/
def replyAmid (strike : δ → σ → σ) (reply : σ → α × σ) (x : List δ × σ) : α × (List δ × σ) :=
  let s := (x.1.head?.map fun e => strike e x.2).getD x.2
  ((reply s).1, x.1.tail, (reply s).2)

/-- A handle whose statements are preceded by disturbances, in the order of a list. -/
def Handle.disturbed (h : Handle σ) (strike : δ → σ → σ) : Handle (List δ × σ) where
  rows st := replyAmid strike (h.rows st)
  row st := replyAmid strike (h.row st)
  execute st := replyAmid strike (h.execute st)

/-- What a disturbance leaves related is simulated amid disturbances. -/
theorem Handle.Simulates.disturbed {h : Handle σ} {h' : Handle τ} {R : σ → τ → Prop}
    {strike : δ → σ → σ} (simulates : h.Simulates h' R)
    (keeps : ∀ e {s s'}, R s s' → R (strike e s) s') :
    (h.disturbed strike).Simulates h' fun x s' => R x.2 s' := by
  have struck (x : List δ × σ) {s' : τ} (related : R x.2 s') :
      R ((x.1.head?.map fun e => strike e x.2).getD x.2) s' := by
    obtain ⟨_ | ⟨e, rest⟩, s⟩ := x
    · exact related
    · exact keeps e related
  exact {
    rows st x _ related := simulates.rows st (struck x related)
    row st x _ related := simulates.row st (struck x related)
    execute st x _ related := simulates.execute st (struck x related) }

/-! ## Sessions -/

def Site.bare (h : Handle σ) : Site σ Empty where
  handle := h
  command := nofun

structure Session.Matches (R : σ → τ → Prop) (x : Session σ) (x' : Session τ) : Prop where
  store : R x.store x'.store
  held : x.held = x'.held

structure Turn.Matches (R : σ → τ → Prop) (t : Turn σ) (t' : Turn τ) : Prop where
  answer : t.answer = t'.answer
  events : t.events = t'.events
  session : t.session.Matches R t'.session

section

variable {h : Handle σ} {h' : Handle τ} {R : σ → τ → Prop} {x : Session σ} {x' : Session τ}

theorem Session.Matches.hold (same : x.Matches R x') (slot : String) (puppet : Option Puppet) :
    (x.hold slot puppet).Matches R (x'.hold slot puppet) :=
  ⟨same.store, by simp only [Session.hold, same.held]⟩

theorem Session.Matches.holdAll (same : x.Matches R x') (slots : List String)
    (puppets : List Puppet) : (x.holdAll slots puppets).Matches R (x'.holdAll slots puppets) := by
  induction slots generalizing x x' puppets with
  | nil => exact same
  | cons slot slots ih =>
    cases puppets with
    | nil => exact same
    | cons p puppets => exact ih (same.hold slot (some p)) puppets

theorem Handle.Simulates.ask (simulates : h.Simulates h' R) (program : Program Unit α)
    (told : α → Answer) {keep : α → Session σ → Session σ} {keep' : α → Session τ → Session τ}
    (keeps : ∀ a {x : Session σ} {x' : Session τ}, x.Matches R x' → (keep a x).Matches R (keep' a x'))
    (same : x.Matches R x') :
    ((Site.bare h).ask program told keep x).Matches R
      ((Site.bare h').ask program told keep' x') := by
  have after := simulates.run program same.store ()
  have sessions : Session.Matches R ⟨_, x.held⟩ ⟨_, x'.held⟩ := ⟨after.store, same.held⟩
  have results : (program.run (Site.bare h).handle x.store ()).result =
      (program.run (Site.bare h').handle x'.store ()).result := after.result
  refine ⟨congrArg (Answer.of told) results, after.events, ?_⟩
  simp only [Site.ask, results]
  cases (program.run (Site.bare h').handle x'.store ()).result with
  | error fault => exact sessions
  | ok a => exact keeps a sessions

theorem Handle.Simulates.step (simulates : h.Simulates h' R) (operation : Operation Empty)
    (same : x.Matches R x') :
    ((Site.bare h).step operation x).Matches R ((Site.bare h').step operation x') := by
  cases operation with
  | new slot => exact ⟨rfl, rfl, same.hold slot _⟩
  | read slot server cells =>
    simp only [Site.step, same.held]
    cases x'.held slot with
    | none => exact ⟨rfl, rfl, same⟩
    | some p =>
      dsimp only
      rcases Puppet.readCells server cells p with ⟨q, none | error⟩
      · exact ⟨rfl, rfl, same.hold slot _⟩
      · exact ⟨rfl, rfl, same.hold slot _⟩
  | act slot act =>
    simp only [Site.step, same.held]
    cases x'.held slot with
    | none => exact ⟨rfl, rfl, same⟩
    | some p =>
      have after := simulates.run act.program same.store p
      have sessions : Session.Matches R ⟨_, x'.held⟩ ⟨_, x'.held⟩ := ⟨after.store, rfl⟩
      have records : (act.program.run (Site.bare h).handle x.store p).record =
          (act.program.run (Site.bare h').handle x'.store p).record := after.record
      refine ⟨congrArg (Answer.of .flag) after.result, after.events, ?_⟩
      dsimp only
      rw [records]
      exact sessions.hold slot _
  | search slot server search =>
    exact simulates.ask _ _ (fun found _ _ same => same.hold slot found) same
  | list slots server listing =>
    exact simulates.ask _ _ (fun found _ _ same => same.holdAll slots found) same
  | command command => exact command.elim

/-- A session takes the same turns on a store and on one that it simulates. -/
theorem Handle.Simulates.course (simulates : h.Simulates h' R) (operations : List (Operation Empty))
    (same : x.Matches R x') :
    List.Forall₂ (Turn.Matches R) ((Site.bare h).course operations x)
      ((Site.bare h').course operations x') := by
  induction operations generalizing x x' with
  | nil => exact .nil
  | cons operation rest ih =>
    have turn := simulates.step operation same
    exact .cons turn (ih turn.session)

end

end PuppetRegistry
