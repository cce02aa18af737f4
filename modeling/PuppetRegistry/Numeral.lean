import PuppetRegistry.Text.Blank
import PuppetRegistry.Text.Digit

/-!
# Whole numbers in decimal

Reading is tolerant: blanks around the number, one sign, the digits of any script, and a single
underscore between two digits. It refuses more than `maxDigits` digits, leading zeros included, so
that no text can make it work for long. Writing is plain: a minus sign and ASCII digits.
-/

namespace PuppetRegistry.Numeral

/-- The largest number of digits that is converted, in either direction. -/
def maxDigits : Nat := 4300

inductive Refusal
  | malformed
  | tooLong (digits : Nat)
  deriving DecidableEq, Repr

/-- The blanks that may stand around a number: all but the four information separators. -/
def isPadding (c : Char) : Bool :=
  Text.isBlank c && !(0x1c ≤ c.toNat && c.toNat ≤ 0x1f)

/-- A stretch of digits: its value, the number of its digits, and what follows it. -/
structure DigitRun where
  value : Nat
  digits : Nat
  rest : List Char
  deriving DecidableEq, Repr

/-- Read digits and underscores after a stretch with this value and number of digits. An underscore
is refused at `edge`, that is where no digit stands directly before, and so is the end. -/
def digitRun (value digits : Nat) (edge : Bool) : List Char → Option DigitRun
  | [] => if edge then none else some ⟨value, digits, []⟩
  | c :: cs =>
    match Text.digitValue? c with
    | some d => digitRun (10 * value + d) (digits + 1) false cs
    | none =>
      if edge then none
      else if c == '_' then digitRun value digits true cs
      else some ⟨value, digits, c :: cs⟩

def splitSign : List Char → Bool × List Char
  | [] => (false, [])
  | c :: cs => if c == '-' then (true, cs) else if c == '+' then (false, cs) else (false, c :: cs)

def readChars (cs : List Char) : Except Refusal Int :=
  let (negative, body) := splitSign (cs.dropWhile isPadding)
  match digitRun 0 0 true body with
  | none => .error .malformed
  | some run =>
    if maxDigits < run.digits then .error (.tooLong run.digits)
    else if run.rest.all isPadding then
      .ok (if negative then -(run.value : Int) else run.value)
    else .error .malformed

def read (s : String) : Except Refusal Int :=
  readChars s.toList

/-- The whole number that bytes write. Beyond ASCII no byte is a digit or a blank. -/
def readBytes (bytes : List UInt8) : Except Refusal Int :=
  readChars (bytes.map fun b => if b.toNat < 0x80 then Char.ofNat b.toNat else '\ufffd')

def digits (n : Nat) : List Char :=
  Nat.toDigits 10 n

def write (i : Int) : String :=
  String.ofList (if i < 0 then '-' :: digits i.natAbs else digits i.natAbs)

def padded (width n : Nat) : List Char :=
  let ds := digits n
  List.replicate (width - ds.length) '0' ++ ds

end PuppetRegistry.Numeral
