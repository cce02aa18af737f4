import PuppetRegistry.Proofs.Twins
import PuppetRegistry.Puppet.Row
import PuppetRegistry.Puppet.Summary

/-!
# Puppets with other tokens

Two puppets are alike if they differ at most in the texts of their access tokens and of their batch
tokens, and both or neither have an access token. Two rows are alike if they differ so in their
cells. Main statements: alike puppets are written into alike rows, and shown on the same line; alike
rows are read into alike puppets, or refused for the same reason.
-/

namespace PuppetRegistry

/-! ## Rows -/

/-- One cell, or two texts. -/
inductive Cell.Alike : Cell → Cell → Prop
  | same (c : Cell) : Alike c c
  | texts (s t : String) : Alike (.text s) (.text t)

/-- Two rows that differ at most in their tokens. -/
def Row.Alike (r r' : Row) : Prop :=
  ∃ token batch, r.accessToken.Alike token ∧ r.accessToken.asFlag = token.asFlag ∧
    r.nextBatch.Alike batch ∧ r' = { r with accessToken := token, nextBatch := batch }

theorem Row.Alike.refl (r : Row) : r.Alike r :=
  ⟨_, _, .same _, rfl, .same _, rfl⟩

/-- One list of cells, or the cells of two rows that are alike. -/
inductive CellsAlike : List Cell → List Cell → Prop
  | same (cells : List Cell) : CellsAlike cells cells
  | rows {r r' : Row} (alike : r.Alike r') : CellsAlike r.cells r'.cells

theorem CellsAlike.length_eq {cells cells' : List Cell} (alike : CellsAlike cells cells') :
    cells.length = cells'.length := by
  cases alike <;> rfl

/-- The first cell of a row is no token. -/
theorem CellsAlike.heads {cells cells' : List Cell} (alike : CellsAlike cells cells') :
    (cells = [] ∧ cells' = []) ∨ ∃ c rest rest', cells = c :: rest ∧ cells' = c :: rest' := by
  cases alike with
  | same cells =>
    cases cells with
    | nil => exact .inl ⟨rfl, rfl⟩
    | cons c rest => exact .inr ⟨c, rest, rest, rfl, rfl⟩
  | @rows r r' alike =>
    obtain ⟨token, batch, _, _, _, rfl⟩ := alike
    exact .inr ⟨r.user, _, _, rfl, rfl⟩

theorem Cell.Alike.asText {c d : Cell} (alike : c.Alike d) (flags : c.asFlag = d.asFlag) :
    Agree (fun s t => s.isEmpty = t.isEmpty) c.asText d.asText := by
  cases alike with
  | texts s t => exact .ok (Bool.not_inj flags)
  | same =>
    have reflexive (s : String) : s.isEmpty = s.isEmpty := rfl
    exact .refl reflexive _

theorem Cell.Alike.asText_any {c d : Cell} (alike : c.Alike d) :
    Agree (fun _ _ => True) c.asText d.asText := by
  cases alike with
  | texts s t => exact .ok trivial
  | same => exact .refl (fun _ => trivial) _

namespace Puppet

/-- Two puppets that differ at most in their tokens. -/
def Alike (p p' : Puppet) : Prop :=
  ∃ token batch, p.accessToken.isEmpty = token.isEmpty ∧
    p' = { p with accessToken := token, nextBatch := batch }

variable {p p' : Puppet} {r r' : Row} {server : String}

theorem Alike.refl (p : Puppet) : p.Alike p :=
  ⟨_, _, rfl, rfl⟩

/-! ## Writing -/

theorem Alike.toRow (alike : p.Alike p') : p.toRow.Alike p'.toRow := by
  obtain ⟨token, batch, both, rfl⟩ := alike
  exact ⟨_, _, .texts _ _, congrArg (!·) both, .texts _ _, rfl⟩

theorem Alike.remoteId (alike : p.Alike p') : p'.remoteId = p.remoteId := by
  obtain ⟨token, batch, both, rfl⟩ := alike
  rfl

theorem Alike.lastActivity (alike : p.Alike p') : p'.lastActivity = p.lastActivity := by
  obtain ⟨token, batch, both, rfl⟩ := alike
  rfl

theorem Alike.firstActivity (alike : p.Alike p') : p'.firstActivity = p.firstActivity := by
  obtain ⟨token, batch, both, rfl⟩ := alike
  rfl

/-- A change that neither looks at the tokens nor touches them. -/
def Apart (f : Puppet → Puppet) : Prop :=
  ∀ p token batch, f { p with accessToken := token, nextBatch := batch } =
    { f p with accessToken := token, nextBatch := batch }

theorem Alike.change {f : Puppet → Puppet} (alike : p.Alike p') (apart : Apart f) :
    (f p).Alike (f p') := by
  obtain ⟨token, batch, both, rfl⟩ := alike
  have kept := congrArg accessToken (apart p p.accessToken p.nextBatch)
  exact ⟨token, batch, (congrArg String.isEmpty kept).trans both, apart p token batch⟩

theorem Alike.isLinked (alike : p.Alike p') : p'.isLinked = p.isLinked := by
  obtain ⟨token, batch, both, rfl⟩ := alike
  rfl

theorem Alike.summary (alike : p.Alike p') : p.summary = p'.summary := by
  obtain ⟨token, batch, both, rfl⟩ := alike
  rfl

/-! ## Reading -/

/-- Readers that read alike puppets into alike ones. -/
def Reader.Alike (read read' : Reader) : Prop :=
  ∀ p p' : Puppet, p.Alike p' → Agree Puppet.Alike (read p) (read' p')

theorem Reader.alike_of_field {α : Type} (value : Except ConversionError α)
    {set : α → Puppet → Puppet} (apart : ∀ a, Apart (set a)) :
    Reader.Alike (fun p => return set (← value) p) (fun p => return set (← value) p) := by
  intro p p' alike
  cases value with
  | error e => exact .error e
  | ok a => exact .ok (alike.change (apart a))

theorem Reader.alike_of_flag {set : Puppet → Puppet} (apart : Apart set) :
    Reader.Alike (fun p => return set p) (fun p => return set p) :=
  fun _ _ alike => .ok (alike.change apart)

theorem alike_readers (server : String) (alike : r.Alike r') :
    List.Forall₂ Reader.Alike (readers server r) (readers server r') := by
  obtain ⟨token, batch, tokens, both, batches, rfl⟩ := alike
  refine .cons ?user <| .cons ?displayname <| .cons ?avatar <| .cons ?avatarUri <|
    .cons ?nameQuality <| .cons ?nameSet <| .cons ?avatarSet <| .cons ?lastSync <|
    .cons ?linkedUser <| .cons ?accessToken <| .cons ?nextBatch <| .cons ?enablePresence <|
    .cons ?enableReceipts <| .cons ?firstActivity <| .cons ?lastActivity .nil
  case accessToken =>
    intro p p' ⟨_, batch, _, same⟩
    subst same
    exact (tokens.asText both).bind fun s t both => .ok ⟨t, batch, both, rfl⟩
  case nextBatch =>
    intro p p' ⟨token, _, both, same⟩
    subst same
    exact batches.asText_any.bind fun s t _ => .ok ⟨token, t, both, rfl⟩
  case nameSet | avatarSet | enablePresence | enableReceipts =>
    exact Reader.alike_of_flag fun _ _ _ => rfl
  all_goals exact Reader.alike_of_field _ fun _ _ _ _ => rfl

theorem Alike.runReaders {reads reads' : List Reader}
    (each : List.Forall₂ Reader.Alike reads reads') (alike : p.Alike p') :
    Twins Alike Eq (runReaders reads p) (runReaders reads' p') := by
  induction each generalizing p p' with
  | nil => exact ⟨alike, rfl⟩
  | @cons read read' _ _ first _ ih =>
    rw [Puppet.runReaders, Puppet.runReaders]
    rcases (first p p' alike).split with ⟨e, stops, stops'⟩ | ⟨q, q', reads, reads', next⟩
    · rw [stops, stops']
      exact ⟨alike, rfl⟩
    · rw [reads, reads']
      exact ih next

theorem Alike.readCells {cells cells' : List Cell} (server : String)
    (rows : CellsAlike cells cells') (alike : p.Alike p') :
    Twins Alike Eq (readCells server cells p) (readCells server cells' p') := by
  cases rows with
  | rows rows => exact alike.runReaders (alike_readers server rows)
  | same cells =>
    unfold Puppet.readCells
    cases Row.ofCells cells with
    | error e => exact ⟨alike, rfl⟩
    | ok r => exact alike.runReaders (alike_readers server (.refl r))

theorem agree_ofCells {cells cells' : List Cell} (server : String)
    (rows : CellsAlike cells cells') :
    Agree Alike (ofCells server cells) (ofCells server cells') := by
  obtain ⟨p, e, p', _, reads, reads', alike, rfl⟩ :=
    ((Alike.refl {}).readCells server rows).pairs
  rw [ofCells, ofCells, reads, reads']
  cases e with
  | none => exact .ok alike
  | some e => exact .error e

end Puppet

end PuppetRegistry
