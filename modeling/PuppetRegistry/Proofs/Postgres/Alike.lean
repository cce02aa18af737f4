import PuppetRegistry.Postgres
import PuppetRegistry.Proofs.Program.Alike

/-!
# Rehearsed servers with other tokens

Two rehearsed servers are alike if they will give alike replies, and alike statements have passed.
Main statements: put to alike servers, alike statements draw alike replies, through a bare handle
and through a pool; the schema is prepared with the same result, and the pool is closed in both or
in neither.
-/

namespace PuppetRegistry

inductive Payload.Alike : Payload → Payload → Prop
  | same (p : Payload) : Alike p p
  | row {cells cells' : List Cell} (alike : CellsAlike cells cells') :
    Alike (.row cells) (.row cells')
  | rows {found found' : List (List Cell)} (alike : RowsAlike found found') :
    Alike (.rows found) (.rows found')

abbrev Reply.Alike : Reply → Reply → Prop :=
  Agree Payload.Alike

theorem RowsAlike.refl (found : List (List Cell)) : RowsAlike found found :=
  List.forall₂_same.mpr fun cells _ => .same cells

theorem FoundAlike.refl (found : Option (List Cell)) : FoundAlike found found := by
  cases found with
  | none => exact .none
  | some cells => exact .some (.same cells)

namespace Payload.Alike

variable {p p' : Payload}

theorem toRows (alike : p.Alike p') : RowsAlike p.toRows p'.toRows := by
  cases alike with
  | same => exact .refl _
  | row => exact .nil
  | rows alike => exact alike

theorem toRow? (alike : p.Alike p') : FoundAlike p.toRow? p'.toRow? := by
  cases alike with
  | same => exact .refl _
  | row alike => exact .some alike
  | rows => exact .none

theorem toCell (alike : p.Alike p') : p.toCell = p'.toCell := by
  cases alike <;> rfl

theorem toCount (alike : p.Alike p') : p.toCount = p'.toCount := by
  cases alike with
  | same => rfl
  | row alike => exact congrArg Int.ofNat alike.length_eq
  | rows alike => exact congrArg Int.ofNat alike.length_eq

end Payload.Alike

/-- One exchange, or alike statements with alike replies. -/
inductive Exchange.Alike : Exchange → Exchange → Prop
  | same (e : Exchange) : Alike e e
  | statement (method : Method) {st st' : Statement} (asks : st.Alike st') {reply reply' : Reply}
    (replies : reply.Alike reply') :
    Alike (.statement method st reply) (.statement method st' reply')

namespace Server

structure Alike (s s' : Server) : Prop where
  replies : List.Forall₂ Reply.Alike s.replies s'.replies
  pools : s.pools = s'.pools
  passed : List.Forall₂ Exchange.Alike s.passed s'.passed

variable {s s' : Server} {st st' : Statement} {α : Type}

theorem Alike.note (alike : s.Alike s') (e : Exchange) : (s.note e).Alike (s'.note e) :=
  ⟨alike.replies, alike.pools, .cons (.same e) alike.passed⟩

theorem Alike.ask (alike : s.Alike s') (asks : st.Alike st') (method : Method) (idle : Payload) :
    Twins Reply.Alike Alike (s.ask method idle st) (s'.ask method idle st') := by
  obtain ⟨replies, pools, passed⟩ := alike
  unfold Server.ask Server.note
  generalize s.replies = left at replies ⊢
  generalize s'.replies = right at replies ⊢
  cases replies with
  | nil =>
    have silent : Reply.Alike (.ok idle) (.ok idle) := .ok (.same idle)
    exact ⟨silent, .nil, pools, .cons (.statement method asks silent) passed⟩
  | cons first rest => exact ⟨first, rest, pools, .cons (.statement method asks first) passed⟩

theorem Alike.connect (alike : s.Alike s') (dsn : String) (minSize maxSize : Int) :
    Twins Eq Alike (s.connect dsn minSize maxSize) (s'.connect dsn minSize maxSize) := by
  unfold Server.connect
  rw [← alike.pools]
  exact ⟨rfl, alike.replies, rfl, .cons (.same _) alike.passed⟩

theorem Alike.answer {A : α → α → Prop} {read : Payload → α} (alike : s.Alike s')
    (asks : st.Alike st') (reads : ∀ p p', p.Alike p' → A (read p) (read p')) (method : Method)
    (idle : Payload) :
    Twins (Agree A) Alike (answer method idle read st s) (answer method idle read st' s') := by
  obtain ⟨_, t, _, t', eq, eq', replies, rest⟩ := (alike.ask asks method idle).pairs
  rw [Server.answer, Server.answer, eq, eq']
  cases replies with
  | error report => exact ⟨.error _, rest⟩
  | ok payloads => exact ⟨.ok (reads _ _ payloads), rest⟩

theorem respects : handle.Respects Alike where
  rows asks alike := alike.answer asks (fun _ _ payloads => payloads.toRows) _ _
  row asks alike := alike.answer asks (fun _ _ payloads => payloads.toRow?) _ _
  execute asks alike := (alike.answer asks (fun _ _ payloads => payloads.toCount) _ _).eq

end Server

namespace Postgres

/-- The same pool and the same state of the schema, on alike servers. -/
def Alike (p p' : Postgres) : Prop :=
  ∃ server, p.server.Alike server ∧ p' = { p with server := server }

variable {p p' : Postgres} {s s' : Server} {st st' : Statement} {α : Type}

theorem Alike.holdPool (alike : p.Alike p') : Twins Eq Alike p.holdPool p'.holdPool := by
  obtain ⟨server, servers, rfl⟩ := alike
  rw [Postgres.holdPool, Postgres.holdPool]
  split
  · exact ⟨rfl, server, servers, rfl⟩
  obtain ⟨failure, t, _, t', eq, eq', rfl, rest⟩ :=
    (servers.connect p.address.dsn p.address.minSize p.address.maxSize).pairs
  rw [eq, eq']
  cases failure with
  | none => exact ⟨rfl, t', rest, rfl⟩
  | some report => exact ⟨rfl, t', rest, rfl⟩

theorem Alike.close (alike : p.Alike p') : p.close.Alike p'.close := by
  obtain ⟨server, servers, rfl⟩ := alike
  rw [Postgres.close, Postgres.close]
  split
  · exact ⟨_, servers.note .closePool, rfl⟩
  · exact ⟨server, servers, rfl⟩

theorem Alike.answer {A : α → α → Prop} {read : Payload → Except Fault α} (alike : p.Alike p')
    (asks : st.Alike st') (reads : ∀ x y, x.Alike y → Agree A (read x) (read y)) (purpose : Purpose)
    (method : Method) (idle : Payload) :
    Twins (Agree A) Alike (answer purpose method idle read st p)
      (answer purpose method idle read st' p') := by
  obtain ⟨result, q, _, q', held, held', rfl, server, servers, rfl⟩ := alike.holdPool.pairs
  rw [Postgres.answer, Postgres.answer, held, held']
  cases result with
  | error fault => exact ⟨.error fault, server, servers, rfl⟩
  | ok =>
    obtain ⟨_, t, _, t', eq, eq', replies, rest⟩ := (servers.ask asks method idle).pairs
    dsimp only
    rw [eq, eq']
    cases replies with
    | error report => exact ⟨.error _, t', rest, rfl⟩
    | ok payloads => exact ⟨reads _ _ payloads, t', rest, rfl⟩

theorem agree_rowsOf {x y : Payload} (alike : x.Alike y) :
    Agree RowsAlike (rowsOf x) (rowsOf y) := by
  cases alike with
  | same => exact .refl .refl _
  | row => exact .ok .nil
  | rows alike => exact .ok alike

theorem respects : handle.Respects Alike where
  rows asks alike := alike.answer asks (fun _ _ => agree_rowsOf) _ _ _
  row asks alike := alike.answer asks (fun _ _ payloads => .ok payloads.toRow?) _ _ _
  execute asks alike := by
    have reads (x y : Payload) (payloads : x.Alike y) :
        Agree Eq (.ok (changedRows (tagOf x)) : Except Fault Int)
          (.ok (changedRows (tagOf y))) := by
      rw [tagOf, payloads.toCell]
      exact .ok rfl
    exact (alike.answer asks reads _ _ _).eq

/-! ## The schema -/

theorem alike_askAll (statements : List Statement) (alike : s.Alike s') :
    Twins Eq Server.Alike (askAll statements s) (askAll statements s') := by
  induction statements generalizing s s' with
  | nil => exact ⟨rfl, alike⟩
  | cons st rest ih =>
    obtain ⟨_, t, _, t', eq, eq', replies, after⟩ :=
      (alike.ask (.same st) .execute (.cell (.text ""))).pairs
    rw [askAll, askAll, eq, eq']
    cases replies with
    | error report => exact ⟨rfl, after⟩
    | ok => exact ih after

theorem alike_prepare (alike : s.Alike s') : Twins Eq Server.Alike (prepare s) (prepare s') := by
  obtain ⟨result, t, _, t', eq, eq', rfl, created⟩ :=
    (alike_askAll [createVersionTable] alike).pairs
  rw [prepare, prepare, eq, eq']
  cases result with
  | error fault => exact ⟨rfl, created⟩
  | ok =>
    obtain ⟨_, u, _, u', eq, eq', replies, asked⟩ :=
      (created.ask (.same readVersion) .fetchValue (.cell .null)).pairs
    dsimp only
    rw [eq, eq']
    cases replies with
    | error report => exact ⟨rfl, asked⟩
    | ok payloads =>
      dsimp only
      rw [payloads.toCell]
      split
      · exact ⟨rfl, asked⟩
      split
      · exact ⟨rfl, asked⟩
      · exact alike_askAll _ asked

theorem alike_transaction (alike : s.Alike s') :
    Twins Eq Server.Alike (transaction prepare s) (transaction prepare s') := by
  obtain ⟨result, t, _, t', eq, eq', rfl, after⟩ := (alike_prepare (alike.note .begin)).pairs
  rw [transaction, transaction, eq, eq']
  cases result with
  | error => exact ⟨rfl, after.note .rollback⟩
  | ok => exact ⟨rfl, after.note .commit⟩

theorem Alike.init (alike : p.Alike p') :
    Twins Eq (Twins Eq Alike) p.init p'.init := by
  have ready : p'.initialized = p.initialized := by
    obtain ⟨server, _, rfl⟩ := alike
    rfl
  rw [Postgres.init, Postgres.init, ready]
  split
  · exact ⟨rfl, rfl, alike⟩
  obtain ⟨result, q, _, q', eq, eq', rfl, server, servers, rfl⟩ := alike.holdPool.pairs
  rw [eq, eq']
  cases result with
  | error fault => exact ⟨rfl, rfl, server, servers, rfl⟩
  | ok =>
    obtain ⟨result, t, _, t', eq, eq', rfl, after⟩ := (alike_transaction servers).pairs
    dsimp only
    rw [eq, eq']
    cases result with
    | error => exact ⟨rfl, rfl, t', after, rfl⟩
    | ok => exact ⟨rfl, rfl, t', after, rfl⟩

end Postgres

end PuppetRegistry
