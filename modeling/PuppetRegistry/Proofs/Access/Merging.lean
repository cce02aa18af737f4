import Mathlib.Logic.Basic
import PuppetRegistry.Proofs.Access.Absence
import PuppetRegistry.Proofs.Program.Inquiries

/-!
# Names merged

Names are offered to a puppet among other edits, over a store that may refuse any of the writes. The
name in memory is then a fold over the offers. Main statement: an offer is taken over if it is not
blank and of no lower quality than the name at hand; it is answered that the name has to be passed
on unless it is the one that has been; and it is written exactly when something has changed or has
to be passed on.
-/

namespace PuppetRegistry.Access

open Program

variable {σ : Type} {h : Handle σ} {s : σ} {p : Puppet}

/-! ## What an edit asks for -/

theorem inquiries_write (h : Handle σ) (s : σ) (p : Puppet) :
    write.inquiries h s p = [.of (.update p.toRow) (h.execute (.update p.toRow) s).1] := by
  have asked : Puppet.update.inquiries h s p =
      [.of (.update p.toRow) (h.execute (.update p.toRow) s).1] := by
    change Inquiry.of _ _ :: (Program.bind _ _).inquiries h _ p = _
    rw [inquiries_bind_of_silent fun _ _ _ => rfl]
    cases (h.execute (.update p.toRow) s).1 <;> rfl
  rw [write, inquiries_onStoreError, asked]
  split <;> rfl

/-- An edit asks for the write of what it changes, and for nothing if it changes nothing. -/
theorem Edit.inquiries_program (e : Edit) (h : Handle σ) (s : σ) (p : Puppet) :
    e.program.inquiries h s p = match e.change? p with
      | none => []
      | some q => [.of (.update q.toRow) (h.execute (.update q.toRow) s).1] := by
  cases e with
  | write => exact inquiries_write h s p
  | noteSynced now => exact inquiries_write h s _
  | rename name quality =>
    simp only [program, Access.rename, bind_eq, record, Program.bind, inquiries, pure_eq, revise,
      report, change?, offered]
    by_cases poor : (Text.trim (name.getD "")).isEmpty || decide (quality < p.nameQuality)
    · rw [if_pos poor, if_pos poor]
      rfl
    · rw [if_neg poor, if_neg poor]
      by_cases known : decide (Text.trim (name.getD "") = p.displayname) && p.nameSet
      · rw [if_pos known, if_pos known]
        by_cases better : p.nameQuality < quality
        · rw [if_pos better, if_pos better]
          exact (inquiries_bind_of_silent (fun _ _ _ => rfl) _ _ _).trans (inquiries_write h s _)
        · rw [if_neg better, if_neg better]
          rfl
      · rw [if_neg known, if_neg known]
        exact (inquiries_bind_of_silent (fun _ _ _ => rfl) _ _ _).trans (inquiries_write h s _)
  | changeAvatar avatar uri =>
    simp only [program, Access.changeAvatar, bind_eq, record, Program.bind, inquiries, pure_eq,
      revise, change?]
    by_cases known : decide (avatar = p.avatar) && p.avatarSet
    · rw [if_pos known, if_pos known]
      rfl
    · rw [if_neg known, if_neg known]
      exact (inquiries_bind_of_silent (fun _ _ _ => rfl) _ _ _).trans (inquiries_write h s _)
  | unlink =>
    simp only [program, Access.unlink, bind_eq, record, Program.bind, inquiries, pure_eq, revise,
      report, change?]
    by_cases alone : !p.isLinked && p.accessToken.isEmpty
    · rw [if_pos alone, if_pos alone]
      rfl
    · rw [if_neg alone, if_neg alone]
      exact inquiries_write h s _

/-! ## Edits in turn -/

/-- The puppet in memory after an edit, whatever becomes of the write. -/
def Edit.after (p : Puppet) (e : Edit) : Puppet :=
  (e.change? p).getD p

/-- Edits in turn are all answered, and leave what they make of the puppet in memory. -/
theorem run_edits (writes : h.WritesPolitely) (s : σ) (p : Puppet) (edits : List Edit) :
    ((Call.inTurn (edits.map .edit)).run h s p).record = edits.foldl Edit.after p ∧
      ∃ answers, ((Call.inTurn (edits.map .edit)).run h s p).result = .ok answers ∧
        answers.length = edits.length := by
  induction edits generalizing s p with
  | nil => exact ⟨rfl, [], rfl, rfl⟩
  | cons e rest ih =>
    obtain ⟨changed, answered⟩ := run_edit_of_writes writes s p e
    rcases first : e.program.run h s p with ⟨result, s', q, events⟩
    rw [first] at changed answered
    cases answered
    cases changed
    obtain ⟨later, answers, replied, same⟩ := ih s' (e.after p)
    rcases others : (Call.inTurn (rest.map .edit)).run h s' (e.after p) with
      ⟨result', s'', q', events'⟩
    rw [others] at later replied
    cases later
    cases replied
    have both : (Call.inTurn (.edit e :: rest.map .edit)).run h s p = _ :=
      Call.run_inTurn_cons first others
    rw [List.map_cons, both]
    exact ⟨rfl, _, rfl, by rw [List.length_cons, List.length_cons, same]⟩

/-! ## The name as a fold -/

def nameOf (p : Puppet) : String × Int :=
  (p.displayname, p.nameQuality)

/-- A name is offered that is not blank and of no lower quality than one at hand. -/
def Takes (held : String × Int) (name : Option String) (quality : Int) : Prop :=
  Text.trim (name.getD "") ≠ "" ∧ held.2 ≤ quality

instance (held : String × Int) (name : Option String) (quality : Int) :
    Decidable (Takes held name quality) :=
  inferInstanceAs (Decidable (_ ∧ _))

/-- A name in the place of the one at hand, if an edit offers one that is taken over. -/
def Edit.merge (held : String × Int) : Edit → String × Int
  | rename name quality =>
    if Takes held name quality then (Text.trim (name.getD ""), quality) else held
  | write | changeAvatar _ _ | noteSynced _ | unlink => held

theorem refuses_iff {name : Option String} {quality : Int} :
    ((offered name).isEmpty || decide (quality < p.nameQuality)) = true ↔
      ¬ Takes (nameOf p) name quality := by
  simp only [Takes, nameOf, Bool.or_eq_true, String.isEmpty_iff, decide_eq_true_eq, ne_eq,
    not_and_or, not_not, Int.not_le]

/-- The name at hand is offered, and has been passed on. -/
def Known (p : Puppet) (name : Option String) : Prop :=
  Text.trim (name.getD "") = p.displayname ∧ p.nameSet = true

instance (p : Puppet) (name : Option String) : Decidable (Known p name) :=
  inferInstanceAs (Decidable (_ ∧ _))

theorem known_iff {name : Option String} :
    (decide (offered name = p.displayname) && p.nameSet) = true ↔ Known p name := by
  simp only [Known, Bool.and_eq_true, decide_eq_true_eq]

theorem change_rename (p : Puppet) (name : Option String) (quality : Int) :
    (Edit.rename name quality).change? p =
      if ¬ Takes (nameOf p) name quality then none
      else if Known p name then
        if p.nameQuality < quality then some { p with nameQuality := quality } else none
      else some { p with displayname := offered name, nameQuality := quality, nameSet := false } := by
  simp only [Edit.change?, refuses_iff, known_iff]

theorem nameOf_after (e : Edit) (p : Puppet) : nameOf (e.after p) = e.merge (nameOf p) := by
  cases e with
  | write | noteSynced => rfl
  | changeAvatar | unlink =>
    simp only [Edit.after, Edit.change?, Edit.merge]
    split <;> rfl
  | rename name quality =>
    rw [Edit.after, change_rename, Edit.merge]
    by_cases takes : Takes (nameOf p) name quality
    · rw [if_neg (not_not_intro takes), if_pos takes]
      by_cases known : Known p name
      · rw [if_pos known, known.1]
        by_cases better : p.nameQuality < quality
        · rw [if_pos better]
          rfl
        · have same : quality = p.nameQuality := Int.le_antisymm (Int.not_lt.mp better) takes.2
          rw [if_neg better, same]
          rfl
      · rw [if_neg known]
        rfl
    · rw [if_pos takes, if_neg takes]
      rfl

theorem le_merge (held : String × Int) (e : Edit) : held.2 ≤ (e.merge held).2 := by
  cases e with
  | rename name quality =>
    rw [Edit.merge]
    split
    · rename_i takes
      exact takes.2
    · exact Int.le_refl _
  | write | changeAvatar | noteSynced | unlink => exact Int.le_refl _

theorem nameOf_foldl (edits : List Edit) (p : Puppet) :
    nameOf (edits.foldl Edit.after p) = edits.foldl Edit.merge (nameOf p) := by
  induction edits generalizing p with
  | nil => rfl
  | cons e rest ih => rw [List.foldl_cons, List.foldl_cons, ih, nameOf_after]

theorem le_foldl_merge (edits : List Edit) (held : String × Int) :
    held.2 ≤ (edits.foldl Edit.merge held).2 := by
  induction edits generalizing held with
  | nil => exact Int.le_refl _
  | cons e rest ih => exact Int.le_trans (le_merge held e) (ih _)

/-! ## One offer -/

theorem offer_comes_to (writes : h.WritesPolitely) (s : σ) (p : Puppet) (name : Option String)
    (quality : Int) :
    ((rename name quality).run h s p).result =
        .ok (decide (Takes (nameOf p) name quality ∧ ¬ Known p name)) ∧
      ((rename name quality).run h s p).record.nameSet =
        (if Takes (nameOf p) name quality ∧ ¬ Known p name then false else p.nameSet) ∧
      ((rename name quality).inquiries h s p).map Inquiry.statement =
        if ¬ Takes (nameOf p) name quality ∨ (Known p name ∧ quality = p.nameQuality) then []
        else [.update ((rename name quality).run h s p).record.toRow] := by
  obtain ⟨changed, answered⟩ := run_edit_of_writes writes s p (.rename name quality)
  have asked := (Edit.rename name quality).inquiries_program h s p
  have known_answer : ∀ saved,
      (Edit.rename name quality).answer p saved = decide (¬ Known p name) := by
    intro saved
    simp only [Edit.answer, ← known_iff, decide_not, Bool.decide_eq_true]
  change _ = _ at changed answered asked
  rw [change_rename] at changed answered asked
  simp only [Edit.program] at changed answered asked
  rw [changed, answered, asked]
  by_cases takes : Takes (nameOf p) name quality
  · simp only [takes, not_true_eq_false, if_false, true_and, false_or]
    by_cases known : Known p name
    · by_cases better : p.nameQuality < quality
      · have other : quality ≠ p.nameQuality := by omega
        simp [known, better, other, known_answer]
      · have same : quality = p.nameQuality := Int.le_antisymm (Int.not_lt.mp better) takes.2
        simp [known, same]
    · simp [known, known_answer]
  · simp [takes]

/-- Whatever writes are refused, edits leave the fold over the offers among them as the name in
memory, so that its quality does not fall. An offer that comes next is answered that the name has to
be passed on exactly if it is taken over and not known already, and only then the flag of the name
falls; and it asks for one write, unless it is refused or offers what is known at the same
quality. -/
theorem names_merged (writes : h.WritesPolitely) (s : σ) (p : Puppet) (edits : List Edit) :
    let done := (Call.inTurn (edits.map .edit)).run h s p
    let q := done.record
    (∃ answers, done.result = .ok answers ∧ answers.length = edits.length) ∧
    nameOf q = edits.foldl Edit.merge (nameOf p) ∧
    p.nameQuality ≤ q.nameQuality ∧
    ∀ name quality,
      let offer := (rename name quality).run h done.store q
      offer.result = .ok (decide (Takes (nameOf q) name quality ∧ ¬ Known q name)) ∧
      offer.record.nameSet =
        (if Takes (nameOf q) name quality ∧ ¬ Known q name then false else q.nameSet) ∧
      ((rename name quality).inquiries h done.store q).map Inquiry.statement =
        if ¬ Takes (nameOf q) name quality ∨ (Known q name ∧ quality = q.nameQuality) then []
        else [.update offer.record.toRow] := by
  intro done q
  obtain ⟨record, answered⟩ := run_edits writes s p edits
  have named : nameOf q = edits.foldl Edit.merge (nameOf p) :=
    (congrArg nameOf record).trans (nameOf_foldl edits p)
  have rises : p.nameQuality ≤ (nameOf q).2 := by
    rw [named]
    exact le_foldl_merge edits (nameOf p)
  refine ⟨answered, named, rises, ?_⟩
  intro name quality
  exact offer_comes_to writes done.store q name quality

/-- A handle of which every other write fails. -/
def grudging : Handle Nat where
  rows _ n := (.ok [], n)
  row _ n := (.ok none, n)
  execute _ n := (if n % 2 = 0 then .error unreachable else .ok 1, n + 1)

theorem grudging_writes : grudging.WritesPolitely := by
  intro statement n fault failed
  simp only [grudging] at failed
  split at failed
  · exact polite_unreachable fault failed
  · cases failed

/-- The first second of 2022, read an hour behind UTC. -/
def syncBetween : Moment :=
  ⟨1640995200000000, -3600000000, by decide, by decide⟩

def offersAmongEdits : List Edit :=
  [.rename (some " Ada\t") 1, .noteSynced syncBetween, .rename (some "Eve") 0]

theorem names_merged_grudging :
    let done := (Call.inTurn (offersAmongEdits.map .edit)).run grudging 0 {}
    nameOf done.record = ("Ada", 1) ∧
      ((rename (some "Ada") 5).run grudging done.store done.record).result = .ok false ∧
      ((rename (some "Ada") 5).inquiries grudging done.store done.record).map Inquiry.statement =
        [.update ((rename (some "Ada") 5).run grudging done.store done.record).record.toRow] := by
  intro done
  obtain ⟨-, named, -, offers⟩ := names_merged grudging_writes 0 {} offersAmongEdits
  obtain ⟨answer, -, asked⟩ := offers (some "Ada") 5
  refine ⟨named.trans (by decide), answer.trans (congrArg Except.ok ?_), asked.trans (if_neg ?_)⟩
  · decide +kernel
  · decide +kernel

end PuppetRegistry.Access
