import PuppetRegistry.Sqlite.Form
import PuppetRegistry.Text.Blank

/-!
# Statements on the table

A statement either echoes its arguments, or reads the table, or changes it. Free text is understood
where it is one of the few forms that the store is asked for; anything else is a syntax error near
its first word.
-/

namespace PuppetRegistry.Sqlite

inductive Term
  | literal (value : Int)
  | place (number : Nat)
  deriving DecidableEq, Repr

/-- What a statement does, its arguments apart. -/
inductive Command
  | echo (terms : List Term)
  | read
  | write
  deriving DecidableEq, Repr

def term? (word : List Char) : Option Term :=
  match word with
  | [] => none
  | c :: cs =>
    if c = '?' then
      if cs.isEmpty || !cs.all Char.isDigit then none
      else (Numeral.readChars cs).toOption.map fun n => .place n.toNat
    else if (c :: cs).all Char.isDigit then
      (Numeral.readChars (c :: cs)).toOption.map .literal
    else none

/-- The values that words write, each but the last followed by a comma. -/
def terms? : List (List Char) → Option (List Term)
  | [] => none
  | [last] => (term? last).map fun t => [t]
  | word :: rest =>
    if word.getLast? = some ',' then do
      let first ← term? word.dropLast
      let others ← terms? rest
      return first :: others
    else none

def Command.ofText (sql : String) : Except SqliteError Command :=
  if (freeWrite? sql).isSome then .ok .write
  else
    match Text.wordsFrom [] (placeholders sql).toList with
    | [] => .ok (.echo [])
    | first :: rest =>
      let refused := SqliteError.nearToken (String.ofList first)
      if String.ofList first = "SELECT" then
        match terms? rest with
        | some terms => .ok (.echo terms)
        | none => .error refused
      else .error refused

def Command.ofStatement : Statement → Except SqliteError Command
  | .selectAll | .selectUser _ | .selectLinkedTo _ | .selectLinked | .selectFirstActivity _ =>
    .ok .read
  | .insert _ | .update _ | .advanceLast _ _ | .claimFirst _ _ => .ok .write
  | .free sql _ => Command.ofText sql

def needsTable (s : Statement) : Bool :=
  match Command.ofStatement s with
  | .ok .read | .ok .write => true
  | .ok (.echo _) | .error _ => false

def placesOf (terms : List Term) : Nat :=
  terms.foldl (fun n t => match t with | .literal _ => n | .place k => max n k) 0

def places (s : Statement) : Command → Nat
  | .echo terms => placesOf terms
  | .read | .write => ((Form.ofStatement? s).map Form.places).getD 0

/-- An argument as it is stored, unless it is an integer out of range. -/
def bindCell? : Cell → Option Cell
  | .bool b => some (.int (if b then 1 else 0))
  | .int i => if fitsInteger i then some (.int i) else none
  | .real .nan => some .null
  | c => some c

def echoRow (arguments : List Cell) (terms : List Term) : List Cell :=
  terms.map fun
    | .literal i => .int i
    | .place k => argumentAt arguments k

def answerRows (s : Statement) (arguments : List Cell) (t : Table) : List (List Cell) :=
  ((Form.ofStatement? s).map fun form => form.read arguments t).getD []

/-- What a writing statement does to the table with its arguments, and how many rows it changes. -/
def changeRows (s : Statement) (arguments : List Cell) (t : Table) :
    Except SqliteError (Table × Nat) :=
  ((Form.ofStatement? s).map fun form => form.write arguments t).getD (.ok (t, 0))

end PuppetRegistry.Sqlite
