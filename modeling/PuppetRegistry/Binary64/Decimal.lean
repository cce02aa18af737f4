import PuppetRegistry.Binary64.Basic
import PuppetRegistry.Numeral

/-!
# Floating-point numbers in decimal

Writing goes in two steps: choose the digits, then lay them out. `shortest` chooses the fewest
digits that read back as the same number, and of those the nearest, a tie to the even one. A
`Layout` says which exponents of ten are written positionally and whether a scientific significand
always has a point. Reading takes a decimal with an optional exponent and rounds it once.
-/

namespace PuppetRegistry.Binary64

structure Decimal where
  digits : Nat
  exponent : Int
  deriving DecidableEq, Repr

/-- How a decimal is laid out. The exponent in question is that of the first digit. -/
structure Layout where
  firstPositional : Int
  lastPositional : Int
  alwaysPoint : Bool
  signedZero : Bool
  infinityText : String
  deriving DecidableEq, Repr

/-- Reads back as written: positional from 0.0001 to below 10^16. -/
def Layout.exact : Layout := ⟨-4, 15, false, true, "inf"⟩

/-! ## Choosing the digits -/

/-- The smallest `k` from `guess` on with `num / den < 10^k`, looking `steps` further at most. -/
def magnitudeFrom (num den : Nat) (guess : Int) : (steps : Nat) → Int
  | 0 => guess
  | steps + 1 =>
    let below :=
      if 0 ≤ guess then num < den * 10 ^ guess.toNat else num * 10 ^ (-guess).toNat < den
    if below then guess else magnitudeFrom num den (guess + 1) steps

/-- The `k` with `10^(k-1) ≤ num / den < 10^k`, for a fraction that is not zero. -/
def magnitude (num den : Nat) : Int :=
  let bits : Int := (num.log2 : Int) - (den.log2 : Int) - 1
  magnitudeFrom num den (bits * 30103 / 100000 - 1) 4

def scaleTen (num den : Nat) (e : Int) : Nat × Nat :=
  if 0 ≤ e then (num, den * 10 ^ e.toNat) else (num * 10 ^ (-e).toNat, den)

/-- Four times the number `m * 2^e`, over the returned denominator, with the two ends of the
interval of numbers that round to it: low end, number, high end, denominator. -/
def interval (m : Nat) (e : Int) : Nat × Nat × Nat × Nat :=
  let low := if m == 2 ^ (precision - 1) && minExponent < e then 4 * m - 1 else 4 * m - 2
  let factor := if 0 ≤ e then 2 ^ e.toNat else 1
  (low * factor, 4 * m * factor, (4 * m + 2) * factor,
    if 0 ≤ e then 4 else 4 * 2 ^ (-e).toNat)

/-- Of the two neighbours of the number on the grid of the multiples of `10^unit`, the nearer one
among those that round to the number, the even one if both are as near. -/
def gridHit? (m : Nat) (e : Int) (unit : Int) : Option Nat :=
  let (low, value, high, den) := interval m e
  let closed := m % 2 == 0
  let (v, d) := scaleTen value den unit
  let inside (c : Nat) : Bool :=
    let (l, dl) := scaleTen low den unit
    let (h, dh) := scaleTen high den unit
    if closed then l ≤ c * dl && c * dh ≤ h else l < c * dl && c * dh < h
  let below := v / d
  match inside below, inside (below + 1) with
  | true, true => some (roundHalfEven v d)
  | true, false => some below
  | false, true => some (below + 1)
  | false, false => none

/-- The first hit on a grid with `count` or more digits, the last grid being taken as it is. -/
def shortestFrom (m : Nat) (e : Int) (size : Int) (count : Nat) : (more : Nat) → Decimal
  | 0 =>
    let (_, value, _, den) := interval m e
    let (v, d) := scaleTen value den (size - count)
    ⟨roundHalfEven v d, size - count⟩
  | more + 1 =>
    match gridHit? m e (size - count) with
    | some digits => ⟨digits, size - count⟩
    | none => shortestFrom m e size (count + 1) more

def shortest (m : Nat) (e : Int) : Decimal :=
  if m = 0 then ⟨0, 0⟩
  else
    let (_, value, _, den) := interval m e
    shortestFrom m e (magnitude value den) 1 17

/-! ## Laying them out -/

def trimZeros (ds : List Char) : List Char :=
  Text.dropTail (· == '0') ds

def orZero (ds : List Char) : List Char :=
  if ds.isEmpty then ['0'] else ds

def Layout.writeDecimal (layout : Layout) (decimal : Decimal) : List Char :=
  if decimal.digits = 0 then ['0', '.', '0']
  else
    let written := Numeral.digits decimal.digits
    let ds := trimZeros written
    let first : Int := decimal.exponent + written.length - 1
    if layout.firstPositional ≤ first ∧ first ≤ layout.lastPositional then
      if 0 ≤ first then
        let whole := first.toNat + 1
        ds.take whole ++ List.replicate (whole - ds.length) '0' ++ '.' :: orZero (ds.drop whole)
      else
        '0' :: '.' :: List.replicate ((-first).toNat - 1) '0' ++ ds
    else
      let fraction := ds.drop 1
      let pointed := if layout.alwaysPoint || !fraction.isEmpty then '.' :: orZero fraction else []
      ds.take 1 ++ pointed ++
        'e' :: (if first < 0 then '-' else '+') :: Numeral.padded 2 first.natAbs

/-- A number with chosen digits, laid out. -/
def Layout.write (layout : Layout) (choose : Nat → Int → Decimal) : Binary64 → String
  | .nan => "nan"
  | .infinity negative => (if negative then "-" else "") ++ layout.infinityText
  | .finite negative m e =>
    let sign := negative && (layout.signedZero || m != 0)
    String.ofList ((if sign then ['-'] else []) ++ layout.writeDecimal (choose m e))

def text : Binary64 → String :=
  Layout.exact.write shortest

/-! ## Reading -/

/-- The number nearest to `digits * 10^exponent`. A number of digits beyond every range is not
multiplied out. -/
def ofDecimal (negative : Bool) (decimal : Decimal) : Binary64 :=
  let size : Int := (Numeral.digits decimal.digits).length + decimal.exponent
  if decimal.digits = 0 ∨ size < -400 then ofRatio negative 0 1
  else if 400 < size then .infinity negative
  else if 0 ≤ decimal.exponent then
    ofRatio negative (decimal.digits * 10 ^ decimal.exponent.toNat) 1
  else ofRatio negative decimal.digits (10 ^ (-decimal.exponent).toNat)

def optionalRun (cs : List Char) : Option Numeral.DigitRun :=
  match cs with
  | [] => some ⟨0, 0, []⟩
  | c :: _ =>
    if Text.isDecimalDigit c then Numeral.digitRun 0 0 true cs else some ⟨0, 0, cs⟩

def splitExponent (cs : List Char) : Option (Int × List Char) :=
  match cs with
  | c :: body =>
    if c == 'e' || c == 'E' then
      let (negative, body) := Numeral.splitSign body
      (Numeral.digitRun 0 0 true body).map fun run =>
        (if negative then -(run.value : Int) else run.value, run.rest)
    else some (0, cs)
  | [] => some (0, [])

def splitDecimal (cs : List Char) : Option (Decimal × List Char) := do
  let whole ← optionalRun cs
  let fraction ←
    match whole.rest with
    | c :: rest => if c == '.' then optionalRun rest else some ⟨0, 0, whole.rest⟩
    | [] => some ⟨0, 0, []⟩
  if whole.digits + fraction.digits = 0 then none
  let (exponent, rest) ← splitExponent fraction.rest
  return (⟨whole.value * 10 ^ fraction.digits + fraction.value, exponent - fraction.digits⟩, rest)

def ofText? (s : String) : Option Binary64 :=
  let padded := (s.toList.dropWhile Numeral.isPadding).reverse.dropWhile Numeral.isPadding
  let (negative, body) := Numeral.splitSign padded.reverse
  match String.ofList (body.map Char.toLower) with
  | "nan" => some .nan
  | "inf" | "infinity" => some (.infinity negative)
  | _ =>
    match splitDecimal body with
    | some (decimal, []) => some (ofDecimal negative decimal)
    | _ => none

end PuppetRegistry.Binary64
