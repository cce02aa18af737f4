import PuppetRegistry.Program.Basic

/-!
# Programs that overlap

Several programs may run at once over one store and some shared records. A program runs on silently
up to its next statement; the statement takes effect in the store later, as one step; and the reply
reaches the program later still. Other programs may move in between. Main statement: a program that
runs alone does what `run` says.
-/

namespace PuppetRegistry.Program

variable {σ μ α : Type}

/-- Where a program stops by itself: at its end or at a statement. -/
inductive Pause (μ α : Type)
  | ended (result : Except Fault α)
  | rows (statement : Statement) (next : Except Fault (List (List Cell)) → Program μ α)
  | row (statement : Statement) (next : Except Fault (Option (List Cell)) → Program μ α)
  | execute (statement : Statement) (next : Except Fault Int → Program μ α)

/-- Run on silently: where the program pauses, the record then, and the events on the way. -/
def advance : Program μ α → μ → Pause μ α × μ × List Event
  | done a, m => (.ended (.ok a), m, [])
  | raise fault, m => (.ended (.error fault), m, [])
  | note event rest, m =>
    let (pause, m, events) := rest.advance m
    (pause, m, event :: events)
  | consult next, m => (next m).advance m
  | keep m rest, _ => rest.advance m
  | rows s next, m => (.rows s next, m, [])
  | row s next, m => (.row s next, m, [])
  | execute s next, m => (.execute s next, m, [])

/-- Let the statement at which a program pauses take effect, if there is one: the program with the
reply, and the store afterwards. -/
def Pause.answer? (h : Handle σ) : Pause μ α → σ → Option (Program μ α × σ)
  | ended _, _ => none
  | rows statement next, s =>
    let (reply, s) := h.rows statement s
    some (next reply, s)
  | row statement next, s =>
    let (reply, s) := h.row statement s
    some (next reply, s)
  | execute statement next, s =>
    let (reply, s) := h.execute statement s
    some (next reply, s)

inductive Task (μ α : Type)
  | running (program : Program μ α)
  | paused (pause : Pause μ α)

/-- Tasks over one store and shared records. Each task works on the record of its key. -/
structure Crowd (κ σ μ α : Type) where
  store : σ
  records : κ → μ
  tasks : List (κ × Task μ α)

def replace {κ : Type} [DecidableEq κ] (records : κ → μ) (k : κ) (m : μ) : κ → μ :=
  fun i => if i = k then m else records i

/-- One step of one task. -/
inductive Crowd.Step {κ : Type} [DecidableEq κ] (h : Handle σ) :
    Crowd κ σ μ α → Crowd κ σ μ α → Prop
  | advance {s records before k program after pause m events} :
    program.advance (records k) = (pause, m, events) →
    Step h ⟨s, records, before ++ (k, .running program) :: after⟩
      ⟨s, replace records k m, before ++ (k, .paused pause) :: after⟩
  | answer {s s' records before k pause after program} :
    pause.answer? h s = some (program, s') →
    Step h ⟨s, records, before ++ (k, .paused pause) :: after⟩
      ⟨s', records, before ++ (k, .running program) :: after⟩

def Run.after (events : List Event) (r : Run σ μ α) : Run σ μ α :=
  { r with events := events ++ r.events }

def Pause.run (h : Handle σ) : Pause μ α → σ → μ → Run σ μ α
  | ended result, s, m => ⟨result, s, m, []⟩
  | rows statement next, s, m => (Program.rows statement next).run h s m
  | row statement next, s, m => (Program.row statement next).run h s m
  | execute statement next, s, m => (Program.execute statement next).run h s m

theorem run_eq_advance (h : Handle σ) (p : Program μ α) (s : σ) (m : μ) :
    p.run h s m = ((p.advance m).1.run h s (p.advance m).2.1).after (p.advance m).2.2 := by
  induction p generalizing m with
  | note event rest ih => simp [Program.run, advance, ih, Run.after]
  | consult next ih => simp [Program.run, advance, ih]
  | keep m' rest ih => simp [Program.run, advance, ih]
  | _ => simp [Program.run, advance, Pause.run, Run.after]

end PuppetRegistry.Program
