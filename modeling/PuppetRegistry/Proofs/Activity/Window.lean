import PuppetRegistry.Proofs.Puppet.Reading
import PuppetRegistry.Proofs.Sqlite.Ready

/-!
# The stored window of activity

The two activity cells of a row hold a second or null. On a ready file the statements that record
activity see and change nothing else, so what they do is told on the window alone.
-/

namespace PuppetRegistry

def Cell.ofInt? : Option Int → Cell
  | none => .null
  | some i => .int i

@[simp] theorem Cell.ofInt?_eq_null {i : Option Int} : Cell.ofInt? i = .null ↔ i = none := by
  cases i <;> simp [Cell.ofInt?]

@[simp] theorem Cell.asInt_ofInt? (i : Option Int) : (Cell.ofInt? i).asInt = .ok (i.getD 0) := by
  cases i <;> rfl

structure Window where
  first : Option Int
  last : Option Int

namespace Window

def raise (second : Int) (w : Window) : Window :=
  { w with last := some (w.last.elim second (max second)) }

def claim (second : Int) (w : Window) : Window :=
  { w with first := some (w.first.getD second) }

/-- A window without gaps is widened only: the latest second does not fall, and the first one is
kept once it is there. -/
structure Widens (w w' : Window) : Prop where
  first : ∀ f, w.first = some f → w'.first = some f
  last : ∀ l, w.last = some l → ∃ l', w'.last = some l' ∧ l ≤ l'

theorem Widens.refl (w : Window) : w.Widens w :=
  ⟨fun _ h => h, fun l h => ⟨l, h, Int.le_refl l⟩⟩

theorem Widens.trans {w w' w'' : Window} (one : w.Widens w') (two : w'.Widens w'') :
    w.Widens w'' := by
  refine ⟨fun f hf => two.first f (one.first f hf), fun l hl => ?_⟩
  obtain ⟨l', hl', le⟩ := one.last l hl
  obtain ⟨l'', hl'', le'⟩ := two.last l' hl'
  exact ⟨l'', hl'', Int.le_trans le le'⟩

theorem widens_raise (second : Int) (w : Window) : w.Widens (w.raise second) := by
  refine ⟨fun _ h => h, fun l hl => ⟨max second l, ?_, by omega⟩⟩
  simp [raise, hl]

theorem widens_claim (second : Int) (w : Window) : w.Widens (w.claim second) := by
  refine ⟨fun f hf => ?_, fun l hl => ⟨l, hl, Int.le_refl l⟩⟩
  simp [claim, hf]

theorem last_raise (second : Int) (w : Window) : ∃ l, (w.raise second).last = some l ∧ second ≤ l := by
  cases h : w.last with
  | none => exact ⟨second, by simp [raise, h], Int.le_refl _⟩
  | some l => exact ⟨max second l, by simp [raise, h], by omega⟩

theorem of_last_raise {second l : Int} {w : Window} (held : (w.raise second).last = some l) :
    l = second ∨ w.last = some l := by
  cases h : w.last with
  | none =>
    left
    simpa [raise, h] using held.symm
  | some l₀ =>
    have top : l = max second l₀ := by simpa [raise, h] using held.symm
    rcases Int.le_total second l₀ with le | le
    · right
      rw [top, Int.max_eq_right le]
    · left
      rw [top, Int.max_eq_left le]

theorem of_first_claim {second f : Int} {w : Window} (held : (w.claim second).first = some f) :
    f = second ∨ w.first = some f := by
  cases h : w.first with
  | none =>
    left
    simpa [claim, h] using held.symm
  | some f₀ =>
    right
    simpa [claim, h] using held

end Window

namespace Sqlite

/-- A row with this window. -/
structure Row.Shows (r : Row) (w : Window) : Prop where
  first : r.firstActivity = .ofInt? w.first
  last : r.lastActivity = .ofInt? w.last

/-- A puppet that is read from a row has the window of the row. -/
theorem Row.Shows.window_eq {server : String} {r : Row} {p : Puppet} {w : Window}
    (shows : Row.Shows r w) (reads : r.ReadsAs server p) :
    p.firstActivity = w.first.getD 0 ∧ p.lastActivity = w.last.getD 0 := by
  have first := reads.firstActivity
  have last := reads.lastActivity
  rw [shows.first, Cell.asInt_ofInt?] at first
  rw [shows.last, Cell.asInt_ofInt?] at last
  exact ⟨(Except.ok.inj first).symm, (Except.ok.inj last).symm⟩

/-- A ready file in which the one row of a user has this window. -/
def File.Holds (f : File) (user : String) (w : Window) : Prop :=
  ∃ t r, f.Ready t ∧ t.rowsOf user = [r] ∧ Row.Shows r w

namespace File.Holds

variable {f : File} {user : String} {w : Window} {second : Int}

theorem advanceLast (holds : f.Holds user w) (fits : fitsInteger second = true) :
    ∃ n f', handle.execute (.advanceLast second user) f = (.ok n, f') ∧
      f'.Holds user (w.raise second) := by
  obtain ⟨t, r, ready, only, shows⟩ := holds
  obtain ⟨t', done, ready', only'⟩ := ready.advanceLast only fits
  refine ⟨_, _, done, t', _, ready', only', ?_⟩
  cases hlast : w.last with
  | none =>
    have news : Table.isNews second r = true := by
      simp [Table.isNews, shows.last, hlast, Cell.ofInt?]
    rw [if_pos news]
    exact ⟨shows.first, by simp [Window.raise, hlast, Cell.ofInt?]⟩
  | some l =>
    have held : r.lastActivity = .int l := by rw [shows.last, hlast]; rfl
    by_cases later : l < second
    · have news : Table.isNews second r = true := by
        simp [Table.isNews, Table.ltInt, held, later]
      rw [if_pos news]
      refine ⟨shows.first, ?_⟩
      have top : max second l = second := by omega
      simp [Window.raise, hlast, Cell.ofInt?, top]
    · have stale : ¬ Table.isNews second r = true := by
        simp [Table.isNews, Table.ltInt, held, later]
      rw [if_neg stale]
      refine ⟨shows.first, ?_⟩
      have top : max second l = l := by omega
      simp [Window.raise, hlast, held, Cell.ofInt?, top]

theorem claimFirst (holds : f.Holds user w) (fits : fitsInteger second = true) :
    ∃ f', handle.execute (.claimFirst second user) f =
        (.ok (if w.first.isNone then 1 else 0), f') ∧ f'.Holds user (w.claim second) := by
  obtain ⟨t, r, ready, only, shows⟩ := holds
  obtain ⟨t', done, ready', only'⟩ := ready.claimFirst only fits
  cases hfirst : w.first with
  | none =>
    have free : r.firstActivity = .null := by rw [shows.first, hfirst]; rfl
    rw [if_pos free] at done only'
    exact ⟨_, done, t', _, ready', only', by simp [Window.claim, hfirst, Cell.ofInt?], shows.last⟩
  | some first =>
    have taken : r.firstActivity ≠ .null := by simp [shows.first, hfirst]
    rw [if_neg taken] at done only'
    refine ⟨_, done, t', _, ready', only', ?_, shows.last⟩
    simp [Window.claim, hfirst, shows.first]

theorem selectFirstActivity (holds : f.Holds user w) :
    handle.row (.selectFirstActivity user) f = (.ok (some [.ofInt? w.first]), f) := by
  obtain ⟨t, r, ready, only, shows⟩ := holds
  rw [ready.selectFirstActivity, only]
  simp [shows.first]

theorem selectUser (holds : f.Holds user w) :
    ∃ r : Row, handle.row (.selectUser user) f = (.ok (some r.cells), f) ∧
      r.user = .text user ∧ Row.Shows r w := by
  obtain ⟨t, r, ready, only, shows⟩ := holds
  refine ⟨r, ?_, Table.user_of_rowsOf only, shows⟩
  rw [ready.selectUser, only]
  rfl

end File.Holds

end Sqlite

end PuppetRegistry
