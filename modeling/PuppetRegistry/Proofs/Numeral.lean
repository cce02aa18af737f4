import Mathlib.Data.List.TakeWhile
import PuppetRegistry.Numeral

/-!
# What writes a whole number

The texts that are read as whole numbers, told without reading them: padding, at most one sign,
digits with at most one underscore between two of them, and padding. Main statement: a text is read
as a number exactly when it writes this number in no more digits than are converted.
-/

namespace PuppetRegistry

theorem Text.not_isBlank_of_digit {c : Char} {d : Nat} (digit : digitValue? c = some d) :
    isBlank c = false := by
  have apart : ∀ start ∈ digitZeros, 0x20 < start ∧ start + 10 ≤ 0x85 ∨
      0xa0 < start ∧ start + 10 ≤ 0x1680 ∨ 0x1680 < start ∧ start + 10 ≤ 0x2000 ∨
      0x3000 < start := by decide
  obtain ⟨start, found, -⟩ := Option.map_eq_some_iff.mp digit
  have within := List.find?_some found
  have away := apart start (List.mem_of_find?_eq_some found)
  simp only [Bool.and_eq_true, decide_eq_true_eq] at within
  simp only [isBlank, Bool.or_eq_false_iff, Bool.and_eq_false_iff, decide_eq_false_iff_not,
    beq_eq_false_iff_ne]
  omega

namespace Numeral

open Text

/-- The characters write a number in so many digits. -/
inductive Digits : List Char → (value count : Nat) → Prop
  | first {c : Char} {d : Nat} (digit : digitValue? c = some d) : Digits [c] d 1
  | next {cs : List Char} {value count : Nat} {c : Char} {d : Nat} (before : Digits cs value count)
    (digit : digitValue? c = some d) : Digits (cs ++ [c]) (10 * value + d) (count + 1)
  | apart {cs : List Char} {value count : Nat} {c : Char} {d : Nat} (before : Digits cs value count)
    (digit : digitValue? c = some d) : Digits (cs ++ ['_', c]) (10 * value + d) (count + 1)

inductive Sign : List Char → (negative : Bool) → Prop
  | none : Sign [] false
  | plus : Sign ['+'] false
  | minus : Sign ['-'] true

/-- The number with this sign and this absolute value. -/
def signed (negative : Bool) (value : Nat) : Int :=
  if negative then -(value : Int) else value

/-- The characters write a whole number that is converted. -/
inductive Writes : List Char → Int → Prop
  | intro {before sign body after : List Char} {negative : Bool} {value count : Nat}
    (padded : ∀ c ∈ before, isPadding c = true) (sign_ok : Sign sign negative)
    (digits : Digits body value count) (short : count ≤ maxDigits)
    (ended : ∀ c ∈ after, isPadding c = true) :
    Writes (before ++ sign ++ body ++ after) (signed negative value)

/-- The character of a byte. Beyond ASCII it is none that a number is written with. -/
def charOfByte (b : UInt8) : Char :=
  if b.toNat < 0x80 then Char.ofNat b.toNat else '\ufffd'

/-! ## Digits -/

theorem Digits.head {cs : List Char} {value count : Nat} (digits : Digits cs value count) :
    ∃ c d rest, cs = c :: rest ∧ digitValue? c = some d := by
  induction digits with
  | @first c d digit => exact ⟨c, d, [], rfl, digit⟩
  | @next _ _ _ c _ _ _ ih =>
    obtain ⟨first, d, rest, rfl, digit⟩ := ih
    exact ⟨first, d, rest ++ [c], rfl, digit⟩
  | @apart _ _ _ c _ _ _ ih =>
    obtain ⟨first, d, rest, rfl, digit⟩ := ih
    exact ⟨first, d, rest ++ ['_', c], rfl, digit⟩

/-- What has been read when the next digits are: digits, and at an edge either nothing yet or an
underscore behind them. -/
inductive Begun : List Char → (value count : Nat) → (edge : Bool) → Prop
  | start : Begun [] 0 0 true
  | digits {cs : List Char} {value count : Nat} (digits : Digits cs value count) :
    Begun cs value count false
  | underscore {cs : List Char} {value count : Nat} (digits : Digits cs value count) :
    Begun (cs ++ ['_']) value count true

theorem Begun.digit {cs : List Char} {value count : Nat} {edge : Bool} {c : Char} {d : Nat}
    (begun : Begun cs value count edge) (digit : digitValue? c = some d) :
    Digits (cs ++ [c]) (10 * value + d) (count + 1) := by
  cases begun with
  | start => simpa using Digits.first digit
  | digits before => exact before.next digit
  | underscore before =>
    rw [List.append_assoc]
    exact before.apart digit

theorem digits_of_digitRun {cs before : List Char} {value count : Nat} {edge : Bool}
    {run : DigitRun} (begun : Begun before value count edge)
    (read : digitRun value count edge cs = some run) :
    ∃ body, cs = body ++ run.rest ∧ Digits (before ++ body) run.value run.digits := by
  induction cs generalizing before value count edge with
  | nil =>
    cases begun with
    | digits digits =>
      cases read
      exact ⟨[], rfl, by simpa using digits⟩
    | start | underscore => cases read
  | cons c cs ih =>
    rw [digitRun] at read
    cases value? : digitValue? c with
    | some d =>
      rw [value?] at read
      obtain ⟨body, rfl, digits⟩ := ih (.digits (begun.digit value?)) read
      exact ⟨c :: body, rfl, by simpa using digits⟩
    | none =>
      rw [value?] at read
      cases begun with
      | start | underscore => cases read
      | digits before =>
        simp only [Bool.false_eq_true, if_false] at read
        split at read
        · rename_i underscore
          obtain rfl := eq_of_beq underscore
          obtain ⟨body, rfl, digits⟩ := ih (.underscore before) read
          exact ⟨'_' :: body, rfl, by simpa using digits⟩
        · cases read
          exact ⟨[], rfl, by simpa using before⟩

theorem digitRun_append {body : List Char} {value count : Nat} (digits : Digits body value count)
    (rest : List Char) : digitRun 0 0 true (body ++ rest) = digitRun value count false rest := by
  induction digits generalizing rest with
  | @first c d digit => simp [digitRun, digit]
  | @next cs value count c d _ digit ih =>
    rw [List.append_assoc, ih, List.singleton_append, digitRun, digit]
  | @apart cs value count c d _ digit ih =>
    have noDigit : digitValue? '_' = none := by decide
    rw [List.append_assoc, ih, List.cons_append, List.singleton_append, digitRun, noDigit]
    simp [digitRun, digit]

/-! ## Signs and padding -/

theorem not_isPadding_of_digit {c : Char} {d : Nat} (digit : digitValue? c = some d) :
    isPadding c = false := by
  rw [isPadding, not_isBlank_of_digit digit, Bool.false_and]

theorem digitRun_of_padding {rest : List Char} {value count : Nat}
    (ended : ∀ c ∈ rest, isPadding c = true) :
    digitRun value count false rest = some ⟨value, count, rest⟩ := by
  cases rest with
  | nil => rfl
  | cons c rest =>
    have padding := ended c List.mem_cons_self
    have noDigit : digitValue? c = none := by
      cases value? : digitValue? c with
      | none => rfl
      | some d => exact absurd padding (Bool.eq_false_iff.mp (not_isPadding_of_digit value?))
    have other : (c == '_') = false := by
      rw [beq_eq_false_iff_ne]
      rintro rfl
      exact absurd padding (by decide)
    simp [digitRun, noDigit, other]

theorem sign_of_splitSign {cs body : List Char} {negative : Bool}
    (split : splitSign cs = (negative, body)) : ∃ sign, cs = sign ++ body ∧ Sign sign negative := by
  cases cs with
  | nil =>
    cases split
    exact ⟨[], rfl, .none⟩
  | cons c cs =>
    rw [splitSign] at split
    split at split
    · rename_i minus
      cases split
      exact ⟨['-'], by rw [eq_of_beq minus]; rfl, .minus⟩
    · split at split
      · rename_i plus
        cases split
        exact ⟨['+'], by rw [eq_of_beq plus]; rfl, .plus⟩
      · cases split
        exact ⟨[], rfl, .none⟩

theorem splitSign_append {sign body rest : List Char} {negative : Bool} {value count : Nat}
    (sign_ok : Sign sign negative) (digits : Digits body value count) :
    splitSign (sign ++ (body ++ rest)) = (negative, body ++ rest) := by
  cases sign_ok with
  | plus | minus => rfl
  | none =>
    obtain ⟨c, d, tail, rfl, digit⟩ := digits.head
    have noMinus : (c == '-') = false := by
      rw [beq_eq_false_iff_ne]
      rintro rfl
      exact Option.some_ne_none d (digit.symm.trans (by decide))
    have noPlus : (c == '+') = false := by
      rw [beq_eq_false_iff_ne]
      rintro rfl
      exact Option.some_ne_none d (digit.symm.trans (by decide))
    simp [splitSign, noMinus, noPlus]

theorem dropWhile_isPadding_append {sign body rest : List Char} {negative : Bool}
    {value count : Nat} (sign_ok : Sign sign negative) (digits : Digits body value count) :
    (sign ++ (body ++ rest)).dropWhile isPadding = sign ++ (body ++ rest) := by
  cases sign_ok with
  | plus | minus => rfl
  | none =>
    obtain ⟨c, d, tail, rfl, digit⟩ := digits.head
    simp [not_isPadding_of_digit digit]

/-! ## Numbers -/

theorem writes_of_readChars {cs : List Char} {i : Int} (read : readChars cs = .ok i) :
    Writes cs i := by
  rcases parts : splitSign (cs.dropWhile isPadding) with ⟨negative, body⟩
  obtain ⟨sign, unpadded, sign_ok⟩ := sign_of_splitSign parts
  rw [readChars, parts] at read
  simp only at read
  cases run? : digitRun 0 0 true body with
  | none =>
    rw [run?] at read
    cases read
  | some run =>
    obtain ⟨digits, rfl, reads⟩ := digits_of_digitRun .start run?
    rw [run?] at read
    simp only at read
    split at read
    · cases read
    · rename_i short
      split at read
      · rename_i ended
        cases read
        have whole : cs = cs.takeWhile isPadding ++ sign ++ digits ++ run.rest := by
          rw [List.append_assoc, List.append_assoc, ← unpadded, List.takeWhile_append_dropWhile]
        rw [whole]
        exact .intro (fun c mem => List.mem_takeWhile_imp mem) sign_ok reads
          (Nat.le_of_not_lt short) (List.all_eq_true.mp ended)
      · cases read

theorem readChars_of_writes {cs : List Char} {i : Int} (writes : Writes cs i) :
    readChars cs = .ok i := by
  obtain ⟨padded, sign_ok, digits, short, ended⟩ := writes
  rename_i before sign body after negative value count
  have unpadded : (before ++ sign ++ body ++ after).dropWhile isPadding =
      sign ++ (body ++ after) := by
    rw [List.append_assoc, List.append_assoc, List.dropWhile_append_of_pos padded,
      dropWhile_isPadding_append sign_ok digits]
  have run : digitRun 0 0 true (body ++ after) = some ⟨value, count, after⟩ := by
    rw [digitRun_append digits, digitRun_of_padding ended]
  rw [readChars, unpadded, splitSign_append sign_ok digits]
  simp only [run]
  rw [if_neg (Nat.not_lt.mpr short), if_pos (List.all_eq_true.mpr ended), signed]

theorem readChars_eq_ok_iff {cs : List Char} {i : Int} : readChars cs = .ok i ↔ Writes cs i :=
  ⟨writes_of_readChars, readChars_of_writes⟩

end Numeral

end PuppetRegistry
