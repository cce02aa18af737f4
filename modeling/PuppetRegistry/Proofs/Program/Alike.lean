import PuppetRegistry.Program.Basic
import PuppetRegistry.Proofs.Puppet.Alike

/-!
# Programs side by side

Two programs are alike if they take the same steps, from records that are related and with replies
that are alike to statements that are alike: the same statements, but for the tokens in the rows
that they write. A handle respects a relation of its states if it gives alike replies from related
states, and leaves related states behind. Main statement: alike programs, run from related states
and related records of a handle that respects the relation, report the same events, come to related
results or the same fault, and leave related states and records behind.
-/

namespace PuppetRegistry

/-- One statement, or two that write rows which are alike. -/
inductive Statement.Alike : Statement → Statement → Prop
  | same (st : Statement) : Alike st st
  | insert {r r' : Row} (alike : r.Alike r') : Alike (.insert r) (.insert r')
  | update {r r' : Row} (alike : r.Alike r') : Alike (.update r) (.update r')

abbrev RowsAlike : List (List Cell) → List (List Cell) → Prop :=
  List.Forall₂ CellsAlike

abbrev FoundAlike : Option (List Cell) → Option (List Cell) → Prop :=
  Option.Rel CellsAlike

theorem RowsAlike.head? {rows rows' : List (List Cell)} (alike : RowsAlike rows rows') :
    FoundAlike rows.head? rows'.head? := by
  cases alike with
  | nil => exact .none
  | cons first _ => exact .some first

/-- From related states and for alike statements, a handle gives alike replies and comes to related
states. -/
structure Handle.Respects {σ : Type} (h : Handle σ) (S : σ → σ → Prop) : Prop where
  rows {st st' : Statement} {s s' : σ} : st.Alike st' → S s s' →
    Twins (Agree RowsAlike) S (h.rows st s) (h.rows st' s')
  row {st st' : Statement} {s s' : σ} : st.Alike st' → S s s' →
    Twins (Agree FoundAlike) S (h.row st s) (h.row st' s')
  execute {st st' : Statement} {s s' : σ} : st.Alike st' → S s s' →
    Twins Eq S (h.execute st s) (h.execute st' s')

namespace Program

variable {σ μ α β γ δ : Type}

/-- Programs that take the same steps: from records in `M` and with alike replies, to values in
`A`. -/
inductive Alike (M : μ → μ → Prop) (A : α → β → Prop) : Program μ α → Program μ β → Prop
  | done {a : α} {b : β} (related : A a b) : Alike M A (done a) (done b)
  | raise (fault : Fault) : Alike M A (raise fault) (raise fault)
  | note (event : Event) {rest : Program μ α} {rest' : Program μ β} (alike : Alike M A rest rest') :
    Alike M A (note event rest) (note event rest')
  | consult {next : μ → Program μ α} {next' : μ → Program μ β}
    (alike : ∀ m m', M m m' → Alike M A (next m) (next' m')) :
    Alike M A (consult next) (consult next')
  | keep {m m' : μ} (related : M m m') {rest : Program μ α} {rest' : Program μ β}
    (alike : Alike M A rest rest') : Alike M A (keep m rest) (keep m' rest')
  | rows {st st' : Statement} (asks : st.Alike st')
    {next : Except Fault (List (List Cell)) → Program μ α}
    {next' : Except Fault (List (List Cell)) → Program μ β}
    (alike : ∀ reply reply', Agree RowsAlike reply reply' →
      Alike M A (next reply) (next' reply')) :
    Alike M A (rows st next) (rows st' next')
  | row {st st' : Statement} (asks : st.Alike st')
    {next : Except Fault (Option (List Cell)) → Program μ α}
    {next' : Except Fault (Option (List Cell)) → Program μ β}
    (alike : ∀ reply reply', Agree FoundAlike reply reply' →
      Alike M A (next reply) (next' reply')) :
    Alike M A (row st next) (row st' next')
  | execute {st st' : Statement} (asks : st.Alike st')
    {next : Except Fault Int → Program μ α} {next' : Except Fault Int → Program μ β}
    (alike : ∀ reply, Alike M A (next reply) (next' reply)) :
    Alike M A (execute st next) (execute st' next')

namespace Alike

variable {M : μ → μ → Prop} {A : α → β → Prop} {B : γ → δ → Prop} {p : Program μ α}
  {p' : Program μ β}

theorem bind {f : α → Program μ γ} {g : β → Program μ δ} (alike : Alike M A p p')
    (next : ∀ a b, A a b → Alike M B (f a) (g b)) : Alike M B (p.bind f) (p'.bind g) := by
  induction alike with
  | done related => exact next _ _ related
  | raise fault => exact .raise fault
  | note event _ ih => exact .note event ih
  | consult _ ih => exact .consult ih
  | keep related _ ih => exact .keep related ih
  | rows asks _ ih => exact .rows asks ih
  | row asks _ ih => exact .row asks ih
  | execute asks _ ih => exact .execute asks ih

theorem onStoreError {f : StoreError → Program μ α} {g : StoreError → Program μ β}
    (alike : Alike M A p p') (handled : ∀ e, Alike M A (f e) (g e)) :
    Alike M A (p.onStoreError f) (p'.onStoreError g) := by
  induction alike with
  | done related => exact .done related
  | note event _ ih => exact .note event ih
  | consult _ ih => exact .consult ih
  | keep related _ ih => exact .keep related ih
  | rows asks _ ih => exact .rows asks ih
  | row asks _ ih => exact .row asks ih
  | execute asks _ ih => exact .execute asks ih
  | raise fault =>
    cases fault with
    | storage e => exact handled e
    | conversion | integerTooLarge | sqlite | schemaTooNew | reported => exact .raise _

theorem ofExcept {x : Except Fault α} {y : Except Fault β} (agree : Agree A x y) :
    Alike M A (ofExcept x) (ofExcept y) := by
  cases agree with
  | error fault => exact .raise fault
  | ok related => exact .done related

end Alike

section

variable {M : μ → μ → Prop} {st st' : Statement}

theorem alike_record : Alike M M record record :=
  .consult fun _ _ related => .done related

theorem alike_revise {f g : μ → μ} (kept : ∀ m m', M m m' → M (f m) (g m')) :
    Alike M Eq (revise f) (revise g) :=
  .consult fun _ _ related => .keep (kept _ _ related) (.done rfl)

theorem alike_report (event : Event) : Alike M Eq (report event) (report event) :=
  .note event (.done rfl)

theorem alike_fetchRows (asks : st.Alike st') : Alike M RowsAlike (fetchRows st) (fetchRows st') :=
  .rows asks fun _ _ agree => .ofExcept agree

theorem alike_fetchRow (asks : st.Alike st') : Alike M FoundAlike (fetchRow st) (fetchRow st') :=
  .row asks fun _ _ agree => .ofExcept agree

theorem alike_perform (asks : st.Alike st') : Alike M Eq (perform st) (perform st') :=
  .execute asks fun reply => .ofExcept (.refl (fun _ => rfl) reply)

end

/-! ## Runs -/

structure Run.Alike (S : σ → σ → Prop) (M : μ → μ → Prop) (A : α → β → Prop) (x : Run σ μ α)
    (y : Run σ μ β) : Prop where
  result : Agree A x.result y.result
  store : S x.store y.store
  record : M x.record y.record
  events : x.events = y.events

theorem Alike.run {M : μ → μ → Prop} {A : α → β → Prop} {S : σ → σ → Prop} {h : Handle σ}
    {p : Program μ α} {p' : Program μ β} (alike : Alike M A p p') (respects : h.Respects S)
    {s s' : σ} {m m' : μ} (store : S s s') (record : M m m') :
    Run.Alike S M A (p.run h s m) (p'.run h s' m') := by
  induction alike generalizing s s' m m' with
  | done related => exact ⟨.ok related, store, record, rfl⟩
  | raise fault => exact ⟨.error fault, store, record, rfl⟩
  | note event _ ih =>
    have rest := ih store record
    exact ⟨rest.result, rest.store, rest.record, congrArg (event :: ·) rest.events⟩
  | consult _ ih => exact ih m m' record store record
  | keep related _ ih => exact ih store related
  | rows asks _ ih =>
    obtain ⟨replies, stores⟩ := respects.rows asks store
    exact ih _ _ replies stores record
  | row asks _ ih =>
    obtain ⟨replies, stores⟩ := respects.row asks store
    exact ih _ _ replies stores record
  | execute asks _ ih =>
    obtain ⟨reply, t, _, t', eq, eq', rfl, stores⟩ := (respects.execute asks store).pairs
    rw [Program.run, Program.run, eq, eq']
    exact ih reply stores record

end Program

end PuppetRegistry
