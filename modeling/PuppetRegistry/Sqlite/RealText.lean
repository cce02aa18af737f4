import PuppetRegistry.Extended

/-!
# Real numbers as text

SQLite converts between texts and real numbers in extended precision, and rounds at every step. So
the fifteenth digit of a written number, and the last bit of a number that is read, may be one off
the nearest.

A number is written after it has been brought between one and ten: half a unit of the fifteenth
digit is added, and fifteen digits are taken off one after another. A text is read by its first
digits, those that fit 63 bits, and one power of ten that they are multiplied with or divided by.
-/

namespace PuppetRegistry.Sqlite

/-! ## Writing -/

/-- How a text column lays a number out: positional from 0.0001 to below 10^15, always with a point,
and no minus sign on zero. -/
def columnLayout : Binary64.Layout := ⟨-4, 14, true, false, "Inf"⟩

/-- A number from one to ten, or on its way there, and the power of ten to multiply it with. -/
structure Scaled where
  value : Extended
  exponent : Int
  deriving Repr

/-- A scale multiplied by `step`, which is 10 to the given power, as long as `x` divided by the
result stays at one or more, and at most so often. -/
def scaleFrom (x step : Extended) (power : Nat) (scale : Scaled) : (tries : Nat) → Scaled
  | 0 => scale
  | tries + 1 =>
    if x.lt (step * scale.value) then scale
    else scaleFrom x step power ⟨scale.value * step, scale.exponent + power⟩ tries

def scaleDown (x : Extended) : Scaled :=
  let scale := scaleFrom x (.ofDecimal 1 100) 100 ⟨.ofNat 1, 0⟩ 4
  let scale := scaleFrom x (.ofDecimal 1 10) 10 scale 10
  let scale := scaleFrom x (.ofNat 10) 1 scale 10
  ⟨x / scale.value, scale.exponent⟩

/-- Bring a number up to `low` or more: it is multiplied by `step`, 10 to the given power, at most
so often. -/
def scaleUp (low step : Extended) (power : Nat) (x : Scaled) : (tries : Nat) → Scaled
  | 0 => x
  | tries + 1 =>
    if x.value.lt low then
      scaleUp low step power ⟨x.value * step, x.exponent - power⟩ tries
    else x

/-- Half a unit of the fifteenth digit: the product of the numbers that 0.00005 and 10^-10 are
rounded to, rounded again. -/
def halfUnit : Extended := ⟨0x16849b86a12b9c, -100⟩

/-- Bring a number that is not zero between one and ten, and add half a unit of its fifteenth
digit. -/
def scaleRounded (x : Extended) : Scaled :=
  let x := scaleDown x
  let x := scaleUp (.ofDecimal 1 (-8)) (.ofDecimal 1 8) 8 x 41
  let x := scaleUp (.ofNat 1) (.ofNat 10) 1 x 8
  let value := x.value + halfUnit
  if value.lt (.ofNat 10) then ⟨value, x.exponent⟩
  else ⟨value * .ofDecimal 1 (-1), x.exponent + 1⟩

def takeDigits (x : Extended) (taken : Nat) : (count : Nat) → Nat
  | 0 => taken
  | count + 1 =>
    let digit := x.floor
    takeDigits ((x - .ofNat digit) * .ofNat 10) (10 * taken + digit) count

/-- `m * 2^e` to fifteen digits. -/
def fifteenDigits (m : Nat) (e : Int) : Binary64.Decimal :=
  if m = 0 then ⟨0, 0⟩
  else
    let x := scaleRounded ⟨m, e⟩
    ⟨takeDigits x.value 0 15, x.exponent - 14⟩

def columnText (x : Binary64) : String :=
  columnLayout.write fifteenDigits x

/-! ## Reading -/

def exponentValue (ds : List Char) : Nat :=
  let n := Nat.ofDigitChars 10 ds 0
  if n < 10 ^ 5 then n else 10 ^ 4

def exponent? : List Char → Option Int
  | [] => some 0
  | c :: cs =>
    let (negative, ds) := Numeral.splitSign cs
    if (c == 'e' || c == 'E') && !ds.isEmpty && ds.all Char.isDigit then
      some (if negative then -(exponentValue ds : Int) else exponentValue ds)
    else none

/-- The decimal that a numeral without a sign writes: digits with a point among them or not, and an
exponent or none. -/
def decimal? (cs : List Char) : Option Binary64.Decimal :=
  let whole := cs.takeWhile Char.isDigit
  let rest := cs.dropWhile Char.isDigit
  let behind := if rest.head? == some '.' then rest.tail else []
  let fraction := behind.takeWhile Char.isDigit
  let rest := if rest.head? == some '.' then behind.dropWhile Char.isDigit else rest
  if whole.isEmpty && fraction.isEmpty then none
  else
    (exponent? rest).map fun exponent =>
      ⟨Nat.ofDigitChars 10 (whole ++ fraction) 0, exponent - fraction.length⟩

/-- Digits are read until the number that they make is this large. -/
def significantLimit : Nat := (2 ^ 63 - 10) / 10

def readDigits (decimal : Binary64.Decimal) : Binary64.Decimal :=
  if significantLimit ≤ decimal.digits / 10 then
    readDigits ⟨decimal.digits / 10, decimal.exponent + 1⟩
  else decimal
termination_by decimal.digits
decreasing_by
  have : 0 < significantLimit := by decide
  omega

/-- The same decimal with an exponent nearer to zero, as far as the digits stay within 63 bits. -/
def settle (digits : Nat) (up : Bool) : (exponent : Nat) → Nat × Nat
  | 0 => (digits, 0)
  | exponent + 1 =>
    if up then
      if (2 ^ 63 - 1) / 10 ≤ digits then (digits, exponent + 1)
      else settle (digits * 10) up exponent
    else if digits % 10 ≠ 0 then (digits, exponent + 1)
    else settle (digits / 10) up exponent

def timesTenPow (digits : Nat) (up : Bool) (exponent : Nat) : Extended :=
  if up then .ofNat digits * .tenPow exponent else .ofNat digits / .tenPow exponent

def topPower : Nat := 308

/-- The exponent from which on every number of 63 bits times, or divided by, the power of ten is out
of range. -/
def beyondPower : Nat := 342

/-- A number times or divided by the largest power of ten. -/
def timesTopPower (negative : Bool) (x : Extended) (up : Bool) : Binary64 :=
  let top := (Extended.ofDecimal 1 topPower).ratio
  let (num, den) := x.ratio
  if up then .ofRatio negative (num * top.1) (den * top.2)
  else .ofRatio negative (num * top.2) (den * top.1)

/-- The real number that a decimal is read as. Beyond all powers of ten it is infinite or zero. -/
def readReal (negative : Bool) (decimal : Binary64.Decimal) : Binary64 :=
  let decimal := readDigits decimal
  if decimal.digits = 0 then .ofRatio negative 0 1
  else
    let up := 0 < decimal.exponent
    let (digits, exponent) := settle decimal.digits up decimal.exponent.natAbs
    if exponent < topPower then
      (timesTenPow digits up exponent).toBinary64 negative
    else if exponent < beyondPower then
      match (timesTenPow digits up (exponent - topPower)).toBinary64 negative with
      | .finite _ m e => timesTopPower negative ⟨m, e⟩ up
      | beyond => beyond
    else if up then .infinity negative
    else .ofRatio negative 0 1

end PuppetRegistry.Sqlite
