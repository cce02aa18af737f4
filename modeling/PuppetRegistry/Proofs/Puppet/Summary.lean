import PuppetRegistry.Proofs.Text.Quoted
import PuppetRegistry.Puppet.Summary

/-!
# The line of a puppet

A name is chosen by its remote user, and an operator reads it among the other fields. Main
statement: whatever the name, it is set off from these fields, it ends no line, and the line tells
it from every other name.
-/

namespace PuppetRegistry

open Text

/-! ## Where no line ends -/

namespace Text

def Unbroken (cs : List Char) : Prop :=
  ∀ c ∈ cs, isLineBreak c = false

instance (cs : List Char) : Decidable (Unbroken cs) :=
  decidable_of_iff (cs.all fun c => !isLineBreak c) (by simp [Unbroken])

theorem unbroken_cons {c : Char} {cs : List Char} :
    Unbroken (c :: cs) ↔ isLineBreak c = false ∧ Unbroken cs :=
  List.forall_mem_cons

theorem unbroken_append {cs ds : List Char} : Unbroken (cs ++ ds) ↔ Unbroken cs ∧ Unbroken ds :=
  List.forall_mem_append

theorem unbroken_quote (s : String) : Unbroken (quote s).toList :=
  fun c mem => not_isLineBreak_of_isPrintable ((setOff_quote s).shows c mem)

end Text

namespace Numeral

theorem unbroken_digits (n : Nat) : Unbroken (digits n) := by
  intro c mem
  have digit := Nat.isDigit_of_mem_toDigits (by decide) (by decide) mem
  simp only [Char.isDigit, ge_iff_le, Bool.and_eq_true, decide_eq_true_eq,
    UInt32.le_iff_toNat_le] at digit
  have bounds : 0x30 ≤ c.toNat ∧ c.toNat ≤ 0x39 := digit
  simp only [isLineBreak, Bool.or_eq_false_iff, Bool.and_eq_false_iff, decide_eq_false_iff_not,
    beq_eq_false_iff_ne]
  omega

theorem unbroken_padded (width n : Nat) : Unbroken (padded width n) := by
  rw [padded, unbroken_append]
  refine ⟨?_, unbroken_digits n⟩
  intro c mem
  rw [List.eq_of_mem_replicate mem]
  decide

theorem unbroken_write (i : Int) : Unbroken (write i).toList := by
  rw [write, String.toList_ofList]
  split
  · exact unbroken_cons.mpr ⟨by decide, unbroken_digits _⟩
  · exact unbroken_digits _

end Numeral

namespace Moment

open Numeral

theorem unbroken_clockChars (full : Bool) (micros : Nat) : Unbroken (clockChars full micros) := by
  have part (n : Nat) : Unbroken (':' :: padded 2 n) :=
    unbroken_cons.mpr ⟨by decide, unbroken_padded 2 n⟩
  unfold clockChars
  dsimp only
  rw [unbroken_append, unbroken_append]
  refine ⟨⟨unbroken_padded 2 _, part _⟩, ?seconds⟩
  case seconds =>
    split
    · rw [unbroken_append]
      refine ⟨part _, ?_⟩
      split
      · nofun
      · exact unbroken_cons.mpr ⟨by decide, unbroken_padded 6 _⟩
    · nofun

theorem unbroken_text (m : Moment) : Unbroken m.text.toList := by
  unfold text
  dsimp only
  rw [String.toList_ofList, unbroken_append]
  refine ⟨?date, ?offset⟩
  case date =>
    simp only [unbroken_append, unbroken_cons, unbroken_padded, unbroken_clockChars, and_true,
      true_and]
    decide
  case offset =>
    refine unbroken_cons.mpr ⟨?_, unbroken_clockChars false _⟩
    split <;> decide

end Moment

namespace Puppet

/-! ## The parts of the line -/

theorem unbroken_orDash {s : String} (unbroken : Unbroken s.toList) :
    Unbroken (orDash s).toList := by
  unfold orDash
  split
  · decide
  · exact unbroken

def syncText : Option Moment → String
  | none => "never"
  | some m => m.text

theorem unbroken_syncText (sync : Option Moment) : Unbroken (syncText sync).toList := by
  cases sync with
  | none => decide
  | some m => exact m.unbroken_text

def details (p : Puppet) : String :=
  Numeral.write p.nameQuality ++
    " avatar=" ++ orDash p.avatarUri.text ++
    " linked=" ++ orDash p.linkedUser ++
    " last_sync=" ++ syncText p.lastSync ++
    " activity=" ++ Numeral.write p.firstActivity ++ ".." ++ Numeral.write p.lastActivity

theorem summary_eq (p : Puppet) :
    p.summary =
      p.remoteId.text ++ "\tname=" ++ Text.quote p.displayname ++ " quality=" ++ p.details := by
  simp only [details, ← String.append_assoc]
  rfl

/-- Only the quoted name changes with the name. -/
theorem summary_named (p : Puppet) (name : String) :
    { p with displayname := name }.summary =
      p.remoteId.text ++ "\tname=" ++ Text.quote name ++ " quality=" ++ p.details :=
  summary_eq { p with displayname := name }

/-- No line ends within the fields that are written as they are. -/
structure PlainFields (p : Puppet) : Prop where
  user : Unbroken p.remoteId.user.toList
  server : Unbroken p.remoteId.server.toList
  linkedUser : Unbroken p.linkedUser.toList
  avatarUri : Unbroken p.avatarUri.text.toList

theorem PlainFields.details {p : Puppet} (plain : p.PlainFields) : Unbroken p.details.toList := by
  simp only [Puppet.details, String.toList_append, unbroken_append, Numeral.unbroken_write,
    unbroken_orDash plain.avatarUri, unbroken_orDash plain.linkedUser, unbroken_syncText, and_true,
    true_and]
  decide

theorem PlainFields.remoteId {p : Puppet} (plain : p.PlainFields) :
    Unbroken p.remoteId.text.toList := by
  unfold RemoteId.text
  split
  · exact plain.server
  · simp only [String.toList_append, unbroken_append]
    exact ⟨⟨plain.user, by decide⟩, plain.server⟩

theorem PlainFields.summary {p : Puppet} (plain : p.PlainFields) : Unbroken p.summary.toList := by
  rw [summary_eq]
  simp only [String.toList_append, unbroken_append, plain.remoteId, unbroken_quote, plain.details,
    and_true, true_and]
  decide

theorem summary_ne_empty (p : Puppet) : p.summary ≠ "" := by
  rw [summary_eq, ne_eq, String.append_eq_empty_iff, String.append_eq_empty_iff]
  rintro ⟨⟨-, quality⟩, -⟩
  exact absurd quality (by decide)

theorem displayname_of_summary_eq {p : Puppet} {name other : String}
    (same : { p with displayname := name }.summary = { p with displayname := other }.summary) :
    name = other := by
  rw [summary_named, summary_named, String.append_left_inj, String.append_left_inj,
    String.append_right_inj] at same
  exact quote_injective same

/-- Whatever name is given to a puppet, its line has the same parts before and behind the name, and
the name is set off from them by marks of its own. If no line ends within the fields that are
written as they are, the whole text is one line. Two names are never shown by the same text. -/
theorem names_are_set_off :
    (∀ p : Puppet, ∃ details, ∀ name, ∃ part, SetOff part.toList ∧
      { p with displayname := name }.summary =
        p.remoteId.text ++ "\tname=" ++ part ++ " quality=" ++ details) ∧
    (∀ p : Puppet, p.PlainFields → lines p.summary = [p.summary]) ∧
    ∀ (p : Puppet) (name other : String), name ≠ other →
      { p with displayname := name }.summary ≠ { p with displayname := other }.summary := by
  refine ⟨?_, ?_, ?_⟩
  · intro p
    exact ⟨p.details, fun name => ⟨quote name, setOff_quote name, p.summary_named name⟩⟩
  · intro p plain
    exact lines_of_unbroken plain.summary p.summary_ne_empty
  · intro p name other different same
    exact different (displayname_of_summary_eq same)

/-- A name that goes on as its line would, over line ends, with marks of both kinds and a backslash
at its end. -/
def forgedName : String :=
  "Eve\x27 quality=9\n\u2028\u0000\x22\\"

def forger : Puppet where
  remoteId := ⟨"eve", RemoteId.usualServer⟩
  avatarUri := ⟨"example.org", "AbCdEf"⟩
  displayname := forgedName
  linkedUser := "@eve:local.example"

theorem names_are_set_off_forged :
    (∃ details part, SetOff part.toList ∧
      forger.summary = "eve@s.whatsapp.net" ++ "\tname=" ++ part ++ " quality=" ++ details) ∧
    (forger.PlainFields ∧ lines forger.summary = [forger.summary]) ∧
    forgedName ≠ "Eve" ∧ forger.summary ≠ { forger with displayname := "Eve" }.summary := by
  obtain ⟨parts, whole, apart⟩ := names_are_set_off
  obtain ⟨details, named⟩ := parts forger
  obtain ⟨part, setOff, line⟩ := named forgedName
  have plain : forger.PlainFields := by
    constructor <;> decide
  have different : forgedName ≠ "Eve" := by decide
  exact ⟨⟨details, part, setOff, line⟩, ⟨plain, whole forger plain⟩, different,
    apart forger _ _ different⟩

example : quote forgedName = "\x27Eve\\\x27 quality=9\\n\\u2028\\x00\x22\\\\\x27" := by
  decide +kernel

end Puppet

end PuppetRegistry
