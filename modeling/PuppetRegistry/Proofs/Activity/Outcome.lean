import PuppetRegistry.Proofs.Access.Absence
import PuppetRegistry.Proofs.Program.Inquiries

/-!
# What recording activity comes to

Recording activity asks for one to three statements, each of which may fail by itself, and goes on
all the same. Main statement: what it asks for, what it leaves in memory, whether it fails and with
what, and what it reports are told by the replies; and of the seconds noted in turn, whatever the
replies are, exactly those are answered that are later than all before them.
-/

namespace PuppetRegistry

/-- A handle that fails only with storage errors, and every row of which begins with no value or
with a cell that can be read as a second. -/
structure Handle.Forthcoming {σ : Type} (h : Handle σ) : Prop where
  writes : h.WritesPolitely
  row : ∀ statement s fault, (h.row statement s).1 = .error fault → ∃ e, fault = .storage e
  reads : ∀ statement s found, (h.row statement s).1 = .ok found →
    ∃ stored, Puppet.readBack found = .ok stored

namespace Inquiry

def failure (i : Inquiry) : Option StoreError :=
  match i.fault with
  | some (.storage e) => some e
  | _ => none

/-- What is reported of a statement that has failed while activity was recorded. -/
def warning (who : RemoteId) (i : Inquiry) : Option Event :=
  i.failure.map fun e =>
    match i.statement with
    | .advanceLast .. => .lastActivityFailed who e
    | _ => .firstActivityFailed who e

@[simp] theorem failure_of_storage {α : Type} (statement : Statement) (e : StoreError) :
    (Inquiry.of statement (.error (.storage e) : Except Fault α)).failure = some e := rfl

@[simp] theorem failure_of_ok {α : Type} (statement : Statement) (a : α) :
    (Inquiry.of statement (.ok a)).failure = none := rfl

theorem fault_of {α : Type} {statement : Statement} {reply : Except Fault α}
    (expected : ∀ fault, reply = .error fault → ∃ e, fault = .storage e) :
    (Inquiry.of statement reply).fault = (Inquiry.of statement reply).failure.map .storage := by
  cases reply with
  | ok a => rfl
  | error fault =>
    obtain ⟨e, rfl⟩ := expected fault rfl
    rfl

/-- If storage errors are the only faults, then the first fault is the first of them. -/
theorem findSome?_fault {asked : List Inquiry}
    (expected : ∀ i ∈ asked, i.fault = i.failure.map .storage) :
    asked.findSome? fault = (asked.findSome? failure).map .storage := by
  induction asked with
  | nil => rfl
  | cons i asked ih =>
    obtain ⟨met, others⟩ := List.forall_mem_cons.1 expected
    rw [List.findSome?_cons, List.findSome?_cons, met, ih others]
    cases i.failure <;> rfl

end Inquiry

namespace Puppet

open Program

variable {σ : Type} {h : Handle σ} {s : σ} {p : Puppet} {second : Int}
  {last first : Option StoreError}

/-! ## Stretch by stretch -/

/-- The answer after these failures, of which the first is told. -/
def verdict (who : RemoteId) : Option StoreError → Except Fault Bool
  | none => .ok true
  | some e => .error (.storage (.activity who e))

/-- Where a program that goes on after `last` has failed, if it has, ends up: it asks for `asked`,
leaves `q` in memory, tells the first failure and reports each. -/
structure ComesTo (h : Handle σ) (program : Program Puppet Bool) (s : σ) (p : Puppet)
    (last : Option StoreError) (asked : List Inquiry) (q : Puppet) : Prop where
  asks : program.inquiries h s p = asked
  result : (program.run h s p).result =
    verdict p.remoteId (last <|> asked.findSome? Inquiry.failure)
  record : (program.run h s p).record = q
  events : (program.run h s p).events = asked.filterMap (Inquiry.warning p.remoteId)

theorem run_conclude (h : Handle σ) (s : σ) (p : Puppet) :
    (conclude last first).run h s p = ⟨verdict p.remoteId (last <|> first), s, p, []⟩ := by
  unfold conclude
  cases last <|> first <;> rfl

theorem inquiries_conclude (h : Handle σ) (s : σ) (p : Puppet) :
    (conclude last first).inquiries h s p = [] := by
  unfold conclude
  cases last <|> first <;> rfl

/-- The second that a read-back comes to, if it comes to one. -/
def stored : Except Fault (Option (List Cell)) → Option Int
  | .ok found => (readBack found).toOption.join
  | .error _ => none

/-- A claim finds no row without a first second. -/
def missed : Except Fault Int → Bool
  | .ok n => n == 0
  | .error _ => false

theorem comesTo_readBack (forthcoming : h.Forthcoming) (s : σ) (p : Puppet)
    (last : Option StoreError) :
    ComesTo h (row (.selectFirstActivity p.remoteId.user) (afterReadBack last)) s p last
      [.of (.selectFirstActivity p.remoteId.user)
        (h.row (.selectFirstActivity p.remoteId.user) s).1]
      { p with
        firstActivity :=
          (stored (h.row (.selectFirstActivity p.remoteId.user) s).1).getD p.firstActivity } := by
  obtain ⟨e, s', replied⟩ | ⟨found, s', replied⟩ :=
    storage_or_ok (forthcoming.row (.selectFirstActivity p.remoteId.user) s)
  · constructor <;> simp [inquiries, run, replied, afterReadBack, run_conclude, inquiries_conclude,
      stored, Inquiry.warning]
  · obtain ⟨second?, read⟩ :=
      forthcoming.reads (.selectFirstActivity p.remoteId.user) s found (by rw [replied])
    cases second? <;> constructor <;> simp [inquiries, run, replied, afterReadBack, read,
      run_conclude, inquiries_conclude, stored, Inquiry.warning, Except.toOption]

def claimInquiries (h : Handle σ) (s : σ) (user : String) (second : Int) : List Inquiry :=
  let claimed := h.execute (.claimFirst second user) s
  let back := h.row (.selectFirstActivity user) claimed.2
  .of (.claimFirst second user) claimed.1 ::
    if missed claimed.1 then [.of (.selectFirstActivity user) back.1] else []

/-- The first second after a claim: the one that is read back if the claim has found no row without
one, and else the claimed one. -/
def firstAfterClaim (h : Handle σ) (s : σ) (user : String) (second : Int) : Int :=
  let claimed := h.execute (.claimFirst second user) s
  let back := h.row (.selectFirstActivity user) claimed.2
  if missed claimed.1 then (stored back.1).getD second else second

-- The second that is claimed has been taken over already, so the record tells it.
theorem comesTo_claim (forthcoming : h.Forthcoming) (s : σ) (p : Puppet)
    (last : Option StoreError) :
    ComesTo h (execute (.claimFirst p.firstActivity p.remoteId.user) (afterClaim last)) s p last
      (claimInquiries h s p.remoteId.user p.firstActivity)
      { p with firstActivity := firstAfterClaim h s p.remoteId.user p.firstActivity } := by
  obtain ⟨e, s', claimed⟩ | ⟨n, s', claimed⟩ :=
    storage_or_ok (forthcoming.writes (.claimFirst p.firstActivity p.remoteId.user) s)
  · constructor <;> simp [inquiries, run, claimed, afterClaim, run_conclude, inquiries_conclude,
      claimInquiries, firstAfterClaim, missed, Inquiry.warning]
  · by_cases lost : n = 0
    · subst lost
      obtain ⟨asks, result, record, events⟩ := comesTo_readBack forthcoming s' p last
      simp only [inquiries, run] at asks result record events
      constructor <;> simp [inquiries, run, claimed, afterClaim, claimInquiries, firstAfterClaim,
        missed, asks, result, record, events, Inquiry.warning, List.findSome?_cons]
    · constructor <;> simp [inquiries, run, claimed, lost, afterClaim, run_conclude,
        inquiries_conclude, claimInquiries, firstAfterClaim, missed, Inquiry.warning]

theorem comesTo_claimUnlessKnown (forthcoming : h.Forthcoming) (s : σ) (p : Puppet) (second : Int)
    (last : Option StoreError) :
    ComesTo h (claimUnlessKnown second last) s p last
      (if p.firstActivity = 0 then claimInquiries h s p.remoteId.user second else [])
      { p with
        firstActivity :=
          if p.firstActivity = 0 then firstAfterClaim h s p.remoteId.user second
          else p.firstActivity } := by
  by_cases unknown : p.firstActivity = 0
  · obtain ⟨asks, result, record, events⟩ :=
      comesTo_claim forthcoming s { p with firstActivity := second } last
    simp only [if_pos unknown]
    constructor
    · simpa only [claimUnlessKnown, inquiries, if_pos unknown] using asks
    · simpa only [claimUnlessKnown, run, if_pos unknown] using result
    · simpa only [claimUnlessKnown, run, if_pos unknown] using record
    · simpa only [claimUnlessKnown, run, if_pos unknown] using events
  · simp only [if_neg unknown]
    constructor <;> simp [claimUnlessKnown, inquiries, run, unknown, run_conclude,
      inquiries_conclude]

def recordInquiries (h : Handle σ) (s : σ) (p : Puppet) (second : Int) : List Inquiry :=
  let written := h.execute (.advanceLast second p.remoteId.user) s
  .of (.advanceLast second p.remoteId.user) written.1 ::
    if p.firstActivity = 0 then claimInquiries h written.2 p.remoteId.user second else []

def recorded (h : Handle σ) (s : σ) (p : Puppet) (second : Int) : Puppet :=
  let written := h.execute (.advanceLast second p.remoteId.user) s
  { p with
    lastActivity := second
    firstActivity :=
      if p.firstActivity = 0 then firstAfterClaim h written.2 p.remoteId.user second
      else p.firstActivity }

theorem comesTo_advanceLast (forthcoming : h.Forthcoming) (s : σ) (p : Puppet) (second : Int) :
    ComesTo h (execute (.advanceLast second p.remoteId.user) (afterLast second)) s
      { p with lastActivity := second } none (recordInquiries h s p second)
      (recorded h s p second) := by
  obtain ⟨e, s', written⟩ | ⟨n, s', written⟩ :=
    storage_or_ok (forthcoming.writes (.advanceLast second p.remoteId.user) s)
  · obtain ⟨asks, result, record, events⟩ :=
      comesTo_claimUnlessKnown forthcoming s' { p with lastActivity := second } second (some e)
    constructor <;> simp [inquiries, run, written, afterLast, recordInquiries, recorded, asks,
      result, record, events, Inquiry.warning, List.findSome?_cons]
  · obtain ⟨asks, result, record, events⟩ :=
      comesTo_claimUnlessKnown forthcoming s' { p with lastActivity := second } second none
    constructor <;> simp [inquiries, run, written, afterLast, recordInquiries, recorded, asks,
      result, record, events, Inquiry.warning, List.findSome?_cons]

/-- Every statement that recording activity asks for fails with a storage error or not at all. -/
theorem fault_of_mem (forthcoming : h.Forthcoming) {i : Inquiry}
    (asked : i ∈ recordInquiries h s p second) : i.fault = i.failure.map .storage := by
  simp only [recordInquiries, claimInquiries, List.mem_cons] at asked
  obtain rfl | asked := asked
  · exact Inquiry.fault_of (forthcoming.writes _ _)
  · split at asked
    · obtain rfl | asked := List.mem_cons.1 asked
      · exact Inquiry.fault_of (forthcoming.writes _ _)
      · split at asked
        · obtain rfl := List.mem_singleton.1 asked
          exact Inquiry.fault_of (forthcoming.row _ _)
        · cases asked
    · cases asked

theorem recordActivityCell_int (second : Int) :
    recordActivityCell (.int second) = recordActivity second := rfl

theorem recordActivity_old (old : second ≤ p.lastActivity) (h : Handle σ) (s : σ) :
    (recordActivityCell (.int second)).run h s p = ⟨.ok false, s, p, []⟩ ∧
      (recordActivityCell (.int second)).inquiries h s p = [] := by
  rw [recordActivityCell_int, recordActivity_eq]
  simp only [run, inquiries, if_pos old, and_self]

theorem recordActivity_later (forthcoming : h.Forthcoming) (later : p.lastActivity < second)
    (s : σ) :
    let ran := (recordActivityCell (.int second)).run h s p
    let asked := recordInquiries h s p second
    (recordActivityCell (.int second)).inquiries h s p = asked ∧
      ran.result = verdict p.remoteId (asked.findSome? Inquiry.failure) ∧
      ran.record = recorded h s p second ∧
      ran.events =
        .advancing p.remoteId second :: asked.filterMap (Inquiry.warning p.remoteId) := by
  have reached := comesTo_advanceLast forthcoming s p second
  have asks : (recordActivityCell (.int second)).inquiries h s p = recordInquiries h s p second := by
    rw [recordActivityCell_int, recordActivity_eq]
    simp only [inquiries, if_neg (Int.not_le.2 later)]
    exact reached.asks
  have cut : (recordActivityCell (.int second)).run h s p =
      ((execute (.advanceLast second p.remoteId.user) (afterLast second)).run h s
        { p with lastActivity := second }).after [.advancing p.remoteId second] := by
    rw [recordActivityCell_int, recordActivity_eq]
    simp only [run, if_neg (Int.not_le.2 later)]
    rfl
  rw [cut]
  exact ⟨asks, reached.result, reached.record, congrArg (List.cons _) reached.events⟩

end Puppet

namespace Access

open Program

variable {σ : Type} {h : Handle σ} {s : σ} {p : Puppet} {second : Int}

/-! ## Seconds noted in turn -/

/-- Which seconds are later than the latest one and than all before them. -/
def rising (latest : Int) : List Int → List Bool
  | [] => []
  | second :: rest => decide (latest < second) :: rising (max latest second) rest

theorem length_rising (latest : Int) (seconds : List Int) :
    (rising latest seconds).length = seconds.length := by
  induction seconds generalizing latest with
  | nil => rfl
  | cons second rest ih => exact congrArg Nat.succ (ih _)

theorem getElem?_rising (latest : Int) (earlier : List Int) (second : Int) (rest : List Int) :
    (rising latest (earlier ++ second :: rest))[earlier.length]? =
      some (decide (latest < second ∧ ∀ before ∈ earlier, before < second)) := by
  induction earlier generalizing latest with
  | nil => simp [rising]
  | cons before earlier ih =>
    rw [List.cons_append, rising, List.length_cons, List.getElem?_cons_succ, ih]
    simp only [Int.max_lt, List.forall_mem_cons, and_assoc]

theorem run_noteActivity (forthcoming : h.Forthcoming) (s : σ) (p : Puppet) (second : Int) :
    ∃ s' q events, (noteActivity (.int second)).run h s p =
        ⟨.ok (decide (p.lastActivity < second)), s', q, events⟩ ∧
      q.lastActivity = max p.lastActivity second := by
  by_cases later : p.lastActivity < second
  · obtain ⟨-, result, record, -⟩ := Puppet.recordActivity_later forthcoming later s
    rw [noteActivity, run_onStoreError]
    rcases ran : (Puppet.recordActivityCell (.int second)).run h s p with ⟨answer, s', q, events⟩
    rw [ran] at result record
    have moved : q.lastActivity = max p.lastActivity second :=
      (congrArg Puppet.lastActivity record).trans (Int.max_eq_right (Int.le_of_lt later)).symm
    rw [decide_eq_true later]
    subst result
    cases (Puppet.recordInquiries h s p second).findSome? Inquiry.failure with
    | none => exact ⟨s', q, events, rfl, moved⟩
    | some e => exact ⟨s', q, _, rfl, moved⟩
  · rw [decide_eq_false later, Int.max_eq_left (Int.not_lt.1 later)]
    exact ⟨s, p, [], run_noteActivity_old (Int.not_lt.1 later), rfl⟩

theorem run_inTurn_noteActivity (forthcoming : h.Forthcoming) (seconds : List Int) (s : σ)
    (p : Puppet) :
    ∃ s' q events, (Call.inTurn (seconds.map .noteActivity)).run h s p =
      ⟨.ok (rising p.lastActivity seconds), s', q, events⟩ := by
  induction seconds generalizing s p with
  | nil => exact ⟨s, p, [], rfl⟩
  | cons second rest ih =>
    obtain ⟨s', q, events, noted, moved⟩ := run_noteActivity forthcoming s p second
    obtain ⟨s'', r, events', others⟩ := ih s' q
    rw [moved] at others
    refine ⟨s'', r, events ++ events', ?_⟩
    exact Call.run_inTurn_cons noted others

/-- A second that is not after the latest one is answered without a statement, a report or a change.
A later one is taken over, and its write is asked for; so is the claim of the first second if none
is known, whether that write has failed or not, and then the read-back, exactly if the claim has
changed no row. The first second becomes the one that is read back, and else the claimed one; one
that is known stays. The first failure is told, and nothing else stops the answer. Whatever the
replies, of the seconds noted in turn those are answered that are later than the latest one and than
all before them. -/
theorem activity_outcome (forthcoming : h.Forthcoming) (s : σ) (p : Puppet) :
    (∀ second ≤ p.lastActivity,
      (Puppet.recordActivityCell (.int second)).run h s p = ⟨.ok false, s, p, []⟩ ∧
      (Puppet.recordActivityCell (.int second)).inquiries h s p = []) ∧
    (∀ second > p.lastActivity,
      let user := p.remoteId.user
      let written := h.execute (.advanceLast second user) s
      let claimed := h.execute (.claimFirst second user) written.2
      let back := h.row (.selectFirstActivity user) claimed.2
      let ran := (Puppet.recordActivityCell (.int second)).run h s p
      let asked := (Puppet.recordActivityCell (.int second)).inquiries h s p
      asked = .of (.advanceLast second user) written.1 ::
        (if p.firstActivity = 0 then
          .of (.claimFirst second user) claimed.1 ::
            if Puppet.missed claimed.1 then [.of (.selectFirstActivity user) back.1] else []
        else []) ∧
      ran.record = { p with
        lastActivity := second
        firstActivity :=
          if p.firstActivity = 0 then
            if Puppet.missed claimed.1 then (Puppet.stored back.1).getD second else second
          else p.firstActivity } ∧
      (ran.result = .ok true ↔ ∀ i ∈ asked, i.fault = none) ∧
      (∀ fault, asked.findSome? Inquiry.fault = some fault →
        ∃ e, fault = .storage e ∧
          ran.result = .error (.storage (.activity p.remoteId e))) ∧
      ran.events = .advancing p.remoteId second ::
        asked.filterMap (Inquiry.warning p.remoteId)) ∧
    ∀ seconds : List Int, ∃ answers : List Bool,
      ((Call.inTurn (seconds.map .noteActivity)).run h s p).result = .ok answers ∧
      answers.length = seconds.length ∧
      ∀ earlier second rest, seconds = earlier ++ second :: rest →
        answers[earlier.length]? =
          some (decide (p.lastActivity < second ∧ ∀ before ∈ earlier, before < second)) := by
  refine ⟨?_, ?_, ?_⟩
  · intro second old
    exact Puppet.recordActivity_old old h s
  · intro second later
    obtain ⟨asks, result, record, events⟩ := Puppet.recordActivity_later forthcoming later s
    have first : (Puppet.recordInquiries h s p second).findSome? Inquiry.fault =
        ((Puppet.recordInquiries h s p second).findSome? Inquiry.failure).map .storage :=
      Inquiry.findSome?_fault fun _ => Puppet.fault_of_mem forthcoming
    simp only [asks]
    refine ⟨rfl, record, ?_, ?_, events⟩
    · rw [← List.findSome?_eq_none_iff, first, result]
      cases (Puppet.recordInquiries h s p second).findSome? Inquiry.failure with
      | none => exact iff_of_true rfl rfl
      | some e => exact iff_of_false nofun nofun
    · intro fault met
      rw [first] at met
      obtain ⟨e, failed, rfl⟩ := Option.map_eq_some_iff.1 met
      exact ⟨e, rfl, result.trans (congrArg (Puppet.verdict _) failed)⟩
  · intro seconds
    obtain ⟨s', q, events, noted⟩ := run_inTurn_noteActivity forthcoming seconds s p
    refine ⟨rising p.lastActivity seconds, ?_, length_rising _ _, ?_⟩
    · rw [noted]
    · rintro earlier second rest rfl
      exact getElem?_rising _ earlier second rest

/-- A store that loses the latest second and knows a first one. -/
def halfway : Handle Unit where
  rows _ s := (.ok [], s)
  row _ s := (.ok (some [.int 7]), s)
  execute statement s :=
    match statement with
    | .advanceLast .. => (.error unreachable, s)
    | _ => (.ok 0, s)

theorem halfway_forthcoming : halfway.Forthcoming where
  writes statement _ := by
    cases statement with
    | advanceLast => exact polite_unreachable
    | _ => exact polite_ok
  row _ _ := polite_ok
  reads _ _ _ found := by
    cases found
    exact ⟨some 7, rfl⟩

theorem activity_outcome_halfway :
    let p : Puppet := { remoteId := ⟨"42", "remote.example"⟩, lastActivity := 3 }
    let lost := StoreError.reported "connection refused"
    let ran := (Puppet.recordActivityCell (.int 9)).run halfway () p
    ran.record = { p with lastActivity := 9, firstActivity := 7 } ∧
    ran.result = .error (.storage (.activity p.remoteId lost)) ∧
    ran.events = [.advancing p.remoteId 9, .lastActivityFailed p.remoteId lost] ∧
    ((Puppet.recordActivityCell (.int 3)).inquiries halfway () p).length = 0 ∧
    ∃ answers,
      ((Call.inTurn ([9, 8, 12].map .noteActivity)).run halfway () p).result = .ok answers ∧
      answers[1]? = some false ∧ answers[2]? = some true := by
  intro p lost ran
  obtain ⟨old, later, inTurn⟩ := activity_outcome halfway_forthcoming () p
  obtain ⟨-, record, -, failed, events⟩ := later 9 (by decide)
  obtain ⟨e, met, result⟩ := failed (.storage lost) rfl
  cases met
  obtain ⟨answers, answered, -, told⟩ := inTurn [9, 8, 12]
  exact ⟨record, result, events, congrArg List.length (old 3 (by decide)).2,
    answers, answered, told [9] 8 [12] rfl, told [9, 8] 12 [] rfl⟩

end Access

end PuppetRegistry
