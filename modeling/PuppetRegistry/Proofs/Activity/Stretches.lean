import PuppetRegistry.Puppet.Writing

/-!
# Recording activity, stretch by stretch

Recording activity is cut at its statements. Each stretch goes on from the reply to one statement,
runs silently to the next one or to the end, and has a name, so that an operation under way can be
told by the stretch it is in. Main statement: recording activity is its first stretch, and the
others follow.
-/

namespace PuppetRegistry.Puppet

open Program

/-- The second to take over from the row that was read back, if it holds one. -/
def readBack : Option (List Cell) → Except ConversionError (Option Int)
  | none => .ok none
  | some [] => .error .emptyRow
  | some (.null :: _) => .ok none
  | some (cell :: _) => cell.toInt.map some

def conclude (last first : Option StoreError) : Program Puppet Bool :=
  match last <|> first with
  | none => done true
  | some error => consult fun p => raise (.storage (.activity p.remoteId error))

/-- Going on from the reply to the read-back. -/
def afterReadBack (last : Option StoreError) :
    Except Fault (Option (List Cell)) → Program Puppet Bool
  | .error (.storage error) =>
    consult fun p => note (.firstActivityFailed p.remoteId error) (conclude last (some error))
  | .error fault => raise fault
  | .ok found =>
    match readBack found with
    | .error error => raise (.conversion error)
    | .ok none => conclude last none
    | .ok (some stored) =>
      consult fun p => keep { p with firstActivity := stored } (conclude last none)

def afterClaim (last : Option StoreError) : Except Fault Int → Program Puppet Bool
  | .error (.storage error) =>
    consult fun p => note (.firstActivityFailed p.remoteId error) (conclude last (some error))
  | .error fault => raise fault
  | .ok changed =>
    if changed ≠ 0 then conclude last none
    else consult fun p => row (.selectFirstActivity p.remoteId.user) (afterReadBack last)

def claimUnlessKnown (second : Int) (last : Option StoreError) : Program Puppet Bool :=
  consult fun p =>
    if p.firstActivity = 0 then
      consult fun p => keep { p with firstActivity := second } <|
        consult fun p => execute (.claimFirst second p.remoteId.user) (afterClaim last)
    else conclude last none

def afterLast (second : Int) : Except Fault Int → Program Puppet Bool
  | .error (.storage error) =>
    consult fun p => note (.lastActivityFailed p.remoteId error) (claimUnlessKnown second (some error))
  | .error fault => raise fault
  | .ok _ => claimUnlessKnown second none

private theorem claimUnlessKnown_eq (second : Int) (last : Option StoreError) :
    claimUnlessKnown second last = (do
      let p ← record
      let first ←
        if p.firstActivity = 0 then do
          revise fun p => { p with firstActivity := second }
          failureOf .firstActivityFailed (claimFirst second)
        else pure none
      match last <|> first with
      | none => return true
      | some error =>
        let p ← record
        raise (.storage (.activity p.remoteId error))) := by
  simp only [claimUnlessKnown, bind_eq, record, Program.bind]
  congr 1
  funext p
  split
  · simp only [revise, failureOf, claimFirst, Program.bind, bind_eq, record, perform, onStoreError]
    congr 1
    funext p
    congr 2
    funext p
    congr 1
    funext reply
    cases reply with
    | error fault => cases fault <;> rfl
    | ok changed =>
      by_cases h : changed = 0
      · subst h
        change consult _ = consult _
        congr 1
        funext p
        change row _ _ = row _ _
        congr 1
        funext reply
        rcases reply with (fault | found)
        · cases fault <;> rfl
        · rcases found with (_ | (_ | ⟨cell, rest⟩))
          · rfl
          · rfl
          · cases cell with
            | null => rfl
            | bool _ | int _ => rfl
            | real _ | text _ | blob _ =>
              simp only [afterReadBack, readBack, Program.ofExcept, Program.bind]
              generalize Cell.toInt _ = second
              cases second <;> rfl
      · simp only [afterClaim, Program.ofExcept, Program.bind, ne_eq, h, not_false_eq_true, if_true]
        rfl
  · rfl

theorem recordActivity_eq (second : Int) :
    recordActivity second = consult fun p =>
      if second ≤ p.lastActivity then done false
      else note (.advancing p.remoteId second) <| consult fun p =>
        keep { p with lastActivity := second } <| consult fun p =>
          execute (.advanceLast second p.remoteId.user) (afterLast second) := by
  unfold recordActivity
  simp only [bind_eq, record, Program.bind, pure_eq, report, revise]
  congr 1
  funext p
  split
  · rfl
  · simp only [Program.bind, failureOf, perform, onStoreError]
    congr 2
    funext p
    congr 2
    funext p
    congr 1
    funext reply
    cases reply with
    | error fault =>
      cases fault <;> simp only [afterLast, claimUnlessKnown_eq] <;> rfl
    | ok changed =>
      simp only [afterLast, claimUnlessKnown_eq]
      rfl

end PuppetRegistry.Puppet
