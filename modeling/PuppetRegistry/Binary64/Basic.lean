/-!
# Binary floating point

A number of 64 bits in floating point: not a number, an infinity, or a sign with a significand below
2^53 and an exponent of two from -1074 on. `ofRatio` is the one place where a number of this kind is
rounded: to the nearest one, a tie to the even significand.
-/

namespace PuppetRegistry

-- Named here, so that a power is the same one beside any other structure on these numbers.
@[default_instance high]
instance powNat {α : Type} [NatPow α] : Pow α Nat := instPowNat

/-- A floating-point number. `finite negative m e` is `m * 2^e`, negated if `negative`. -/
inductive Binary64
  | nan
  | infinity (negative : Bool)
  | finite (negative : Bool) (significand : Nat) (exponent : Int)
  deriving DecidableEq, Repr

namespace Binary64

def precision : Nat := 53

def minExponent : Int := -1074

def maxExponent : Int := 971

/-- The whole number nearest to `num / den`, a tie to the even one. -/
def roundHalfEven (num den : Nat) : Nat :=
  let q := num / den
  let r := num % den
  if 2 * r < den then q
  else if den < 2 * r then q + 1
  else q + q % 2

/-- The fraction `num / den` divided by `2^e`. -/
def scale (num den : Nat) (e : Int) : Nat × Nat :=
  if 0 ≤ e then (num, den * 2 ^ e.toNat) else (num * 2 ^ (-e).toNat, den)

def fraction (m : Nat) (e : Int) : Nat × Nat :=
  if 0 ≤ e then (m * 2 ^ e.toNat, 1) else (m, 2 ^ (-e).toNat)

/-- The exponent at which `num / den`, which is not zero, has a significand of so many bits. -/
def fullExponent (bits num den : Nat) : Int :=
  let e : Int := (num.log2 : Int) - (den.log2 : Int) - bits
  let (n, d) := scale num den e
  if n < d * 2 ^ bits then e else e + 1

/-- The number with this significand and exponent, a significand of one bit too much carried over
and a number out of range made infinite. -/
def carry (negative : Bool) (significand : Nat) (exponent : Int) : Binary64 :=
  let (m, e) :=
    if significand < 2 ^ precision then (significand, exponent)
    else (significand / 2, exponent + 1)
  if maxExponent < e then .infinity negative else .finite negative m e

def ofRatio (negative : Bool) (num den : Nat) : Binary64 :=
  if num = 0 then .finite negative 0 minExponent
  else
    let e := max minExponent (fullExponent precision num den)
    let (n, d) := scale num den e
    carry negative (roundHalfEven n d) e

def wholePart (m : Nat) (e : Int) : Nat :=
  if 0 ≤ e then m * 2 ^ e.toNat else m / 2 ^ (-e).toNat

def truncate? : Binary64 → Option Int
  | .finite negative m e =>
    some (if negative then -(wholePart m e : Int) else wholePart m e)
  | _ => none

def isZero : Binary64 → Bool
  | .finite _ m _ => m == 0
  | _ => false

/-- The whole number that a number is, if it is one. -/
def exactInt? : Binary64 → Option Int
  | .finite negative m e =>
    if 0 ≤ e || m % 2 ^ (-e).toNat == 0 then
      some (if negative then -(wholePart m e : Int) else wholePart m e)
    else none
  | _ => none

/-- Whether a number is less than a whole number. Nothing is less than, or has less than, no
number. -/
def ltInt : Binary64 → Int → Bool
  | .nan, _ => false
  | .infinity negative, _ => negative
  | .finite negative m e, i =>
    let signed : Int := if negative then -(m : Int) else m
    if 0 ≤ e then signed * 2 ^ e.toNat < i else signed < i * 2 ^ (-e).toNat

end Binary64

end PuppetRegistry
