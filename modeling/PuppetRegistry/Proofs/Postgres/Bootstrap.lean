import PuppetRegistry.Postgres

/-!
# Attempts to prepare the schema

What passes between a handle and its server, told for each thing the handle does. Main statement: an
attempt to prepare the schema asks for a pool if none is held, and then begins a transaction, puts
its statements and ends it, by committing exactly if every statement succeeds and the version read
is one that is supported; it marks the handle exactly if it commits.
-/

namespace PuppetRegistry

namespace Exchange

def statement? : Exchange → Option Statement
  | statement _ st _ => some st
  | createPool .. | closePool | begin | commit | rollback => none

def Creates (e : Exchange) : Prop :=
  ∃ dsn minSize maxSize, e = .createPool dsn minSize maxSize none

def AsksForPool (e : Exchange) : Prop :=
  ∃ dsn minSize maxSize failure, e = .createPool dsn minSize maxSize failure

theorem Creates.asksForPool {e : Exchange} (creates : e.Creates) : e.AsksForPool := by
  obtain ⟨dsn, minSize, maxSize, rfl⟩ := creates
  exact ⟨dsn, minSize, maxSize, none, rfl⟩

/-- A statement that has not been answered with an error. -/
def Succeeds (e : Exchange) : Prop :=
  ∃ method st payload, e = .statement method st (.ok payload)

end Exchange

open Exchange

def Created (exchanges : List Exchange) : Prop :=
  ∃ e ∈ exchanges, e.Creates

theorem created_append {first second : List Exchange} :
    Created (first ++ second) ↔ Created first ∨ Created second := by
  simp only [Created, List.mem_append, or_and_right, exists_or]

namespace Server

variable {s s' : Server}

end Server

namespace Postgres

variable {p p' p'' : Postgres} {s : Server} {exchanges later : List Exchange}

/-! ## Statements of a transaction -/

/-- What passes when statements are put until one fails, and what that comes to. -/
inductive Answered : List Statement → List Exchange → Except Fault Unit → Prop
  | all : Answered [] [] (.ok ())
  | next {st rest exchanges result} (payload : Payload) : Answered rest exchanges result →
    Answered (st :: rest) (.statement .execute st (.ok payload) :: exchanges) result
  | failed {st rest} (report : Report) :
    Answered (st :: rest) [.statement .execute st (.error report)]
      (.error (.ofPostgres .schema report))

theorem Answered.executed {statements : List Statement} {result : Except Fault Unit}
    (answered : Answered statements exchanges result) :
    ∀ e ∈ exchanges, ∃ st reply, e = .statement .execute st reply := by
  induction answered with
  | all => exact List.forall_mem_nil _
  | next payload _ ih => exact List.forall_mem_cons.mpr ⟨⟨_, _, rfl⟩, ih⟩
  | failed report => exact List.forall_mem_singleton.mpr ⟨_, _, rfl⟩

theorem Answered.ok_iff {statements : List Statement} {result : Except Fault Unit}
    (answered : Answered statements exchanges result) :
    result = .ok () ↔ ∀ e ∈ exchanges, e.Succeeds := by
  induction answered with
  | all => exact iff_of_true rfl (List.forall_mem_nil _)
  | next payload _ ih =>
    rw [ih, List.forall_mem_cons]
    exact ⟨fun rest => ⟨⟨_, _, _, rfl⟩, rest⟩, fun both => both.2⟩
  | failed report =>
    refine iff_of_false nofun fun succeeds => ?_
    obtain ⟨_, _, _, same⟩ := succeeds _ List.mem_cons_self
    cases same

/-- The version that has been read in a transaction, if it is a number. -/
def ReadsVersion (exchanges : List Exchange) (version : Int) : Prop :=
  ∃ payload, .statement .fetchValue readVersion (.ok payload) ∈ exchanges ∧
    versionOf payload.toCell = .ok version

/-- What passes in a transaction that prepares the schema, and what that comes to. -/
structure Prepares (body : List Exchange) (result : Except Fault Unit) : Prop where
  statements : ∀ e ∈ body, ∃ method st reply, e = .statement method st reply
  ok_iff : result = .ok () ↔
    (∀ e ∈ body, e.Succeeds) ∧
      ∃ version, ReadsVersion body version ∧ version ≤ Fault.currentSchema
  /-- The version is stored anew exactly if it is not the present one. -/
  whole : result = .ok () → ∀ version, ReadsVersion body version →
    body.map statement? =
      ([createVersionTable, readVersion, createPuppetTable] ++
        if version = 1 then [] else [deleteVersion, insertVersion]).map some

def Executed (e : Exchange) : Prop :=
  ∃ st reply, e = .statement .execute st reply

theorem Executed.statement {l : List Exchange} (executed : ∀ e ∈ l, Executed e) :
    ∀ e ∈ l, ∃ method st reply, e = .statement method st reply := by
  intro e mem
  obtain ⟨st, reply, rfl⟩ := executed e mem
  exact ⟨.execute, st, reply, rfl⟩

/-- What passes while a handle is not closed, told by what it holds before and afterwards. -/
structure Passing (p : Postgres) (exchanges : List Exchange) (p' : Postgres) : Prop where
  trace : p'.server.trace = p.server.trace ++ exchanges
  pooled : p'.pooled = true ↔ p.pooled = true ∨ Created exchanges
  initialized : p'.initialized = true ↔ p.initialized = true ∨ .commit ∈ exchanges
  /-- A pool is asked for only if there is none. -/
  unheld : ∀ before e after, exchanges = before ++ e :: after → e.AsksForPool →
    p.pooled = false ∧ ¬ Created before

theorem Passing.refl (p : Postgres) : Passing p [] p where
  trace := (List.append_nil _).symm
  pooled := by simp [Created]
  initialized := by simp
  unheld := by simp

theorem Passing.trans (first : Passing p exchanges p') (second : Passing p' later p'') :
    Passing p (exchanges ++ later) p'' where
  trace := by rw [second.trace, first.trace, List.append_assoc]
  pooled := by rw [second.pooled, first.pooled, created_append, or_assoc]
  initialized := by rw [second.initialized, first.initialized, List.mem_append, or_assoc]
  unheld := by
    intro before e after split asks
    rcases List.append_eq_append_iff.mp split with ⟨between, rfl, rest⟩ | ⟨between, start, rest⟩
    · have none_held := second.unheld between e after rest asks
      have none_before : ¬ (p.pooled = true ∨ Created exchanges) := by
        rw [← first.pooled, none_held.1]
        nofun
      simp only [not_or, Bool.not_eq_true] at none_before
      exact ⟨none_before.1, fun created =>
        (created_append.mp created).elim none_before.2 none_held.2⟩
    · cases between with
      | nil =>
        have none_held := second.unheld [] e after rest.symm asks
        have none_before : ¬ (p.pooled = true ∨ Created exchanges) := by
          rw [← first.pooled, none_held.1]
          nofun
        simp only [not_or, Bool.not_eq_true] at none_before
        rw [List.append_nil] at start
        exact ⟨none_before.1, start ▸ none_before.2⟩
      | cons e' between =>
        obtain ⟨rfl, -⟩ := List.cons.inj rest
        exact first.unheld before e between start asks

theorem Passing.quiet (trace : p'.server.trace = p.server.trace ++ exchanges)
    (pooled : p'.pooled = p.pooled)
    (initialized : p'.initialized = true ↔ p.initialized = true ∨ .commit ∈ exchanges)
    (quiet : ∀ e ∈ exchanges, ¬ e.AsksForPool) : Passing p exchanges p' where
  trace := trace
  pooled := by
    have none_created : ¬ Created exchanges := by
      rintro ⟨e, mem, creates⟩
      exact quiet e mem creates.asksForPool
    rw [pooled, or_iff_left none_created]
  initialized := initialized
  unheld := by
    intro before e after split asks
    exact absurd asks (quiet e (split ▸ List.mem_append_right _ List.mem_cons_self))

/-- What passes before a pool is used: nothing, or the creation of one. -/
def Opening (exchanges : List Exchange) : Prop :=
  exchanges = [] ∨ ∃ e, e.Creates ∧ exchanges = [e]

/-- What passes where there is no pool to use. -/
def Unconnected (exchanges : List Exchange) : Prop :=
  ∃ e, e.AsksForPool ∧ ¬ e.Creates ∧ exchanges = [e]

def ending : Except Fault Unit → Exchange
  | .ok () => .commit
  | .error _ => .rollback

/-- What passes in one attempt to prepare the schema. -/
inductive Attempt : List Exchange → Prop
  | idle : Attempt []
  | unconnected {exchanges : List Exchange} : Unconnected exchanges → Attempt exchanges
  | transaction {opening body : List Exchange} {result : Except Fault Unit} :
    Opening opening → Prepares body result →
      Attempt (opening ++ (.begin :: body ++ [ending result]))

end Postgres

end PuppetRegistry
