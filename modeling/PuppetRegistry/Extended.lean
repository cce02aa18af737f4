import PuppetRegistry.Binary64.Decimal

/-!
# Extended precision

Numbers that are not negative, with a significand of at most 64 bits and an exponent of two without
bounds. Every operation rounds its exact result once: to the nearest such number, a tie to the even
significand. Every `Binary64` that is not negative is one of them.
-/

namespace PuppetRegistry

/-- The number `significand * 2^exponent`. -/
structure Extended where
  significand : Nat
  exponent : Int
  deriving DecidableEq, Repr

namespace Extended

def precision : Nat := 64

def ratio (x : Extended) : Nat × Nat :=
  Binary64.fraction x.significand x.exponent

/-- The number nearest to `num / den`. -/
def ofRatio (num den : Nat) : Extended :=
  if num = 0 then ⟨0, 0⟩
  else
    let e := Binary64.fullExponent precision num den
    let (n, d) := Binary64.scale num den e
    let m := Binary64.roundHalfEven n d
    if m < 2 ^ precision then ⟨m, e⟩ else ⟨m / 2, e + 1⟩

def ofNat (n : Nat) : Extended :=
  ofRatio n 1

def ofDecimal (digits : Nat) (exponent : Int) : Extended :=
  match Binary64.ofDecimal false ⟨digits, exponent⟩ with
  | .finite _ m e => ⟨m, e⟩
  | .infinity _ | .nan => ⟨0, 0⟩

def toBinary64 (negative : Bool) (x : Extended) : Binary64 :=
  Binary64.ofRatio negative x.ratio.1 x.ratio.2

instance : Add Extended where
  add x y := ofRatio (x.ratio.1 * y.ratio.2 + y.ratio.1 * x.ratio.2) (x.ratio.2 * y.ratio.2)

instance : Sub Extended where
  sub x y := ofRatio (x.ratio.1 * y.ratio.2 - y.ratio.1 * x.ratio.2) (x.ratio.2 * y.ratio.2)

instance : Mul Extended where
  mul x y := ofRatio (x.ratio.1 * y.ratio.1) (x.ratio.2 * y.ratio.2)

instance : Div Extended where
  div x y := ofRatio (x.ratio.1 * y.ratio.2) (x.ratio.2 * y.ratio.1)

def lt (x y : Extended) : Bool :=
  x.ratio.1 * y.ratio.2 < y.ratio.1 * x.ratio.2

def floor (x : Extended) : Nat :=
  Binary64.wholePart x.significand x.exponent

/-- `result` times the power of `square` with this exponent of so many bits, by squaring. -/
def powFrom (square result : Extended) (exponent : Nat) : (bits : Nat) → Extended
  | 0 => result
  | bits + 1 =>
    let result := if exponent % 2 = 1 then result * square else result
    powFrom (square * square) result (exponent / 2) bits

def tenPow (exponent : Nat) : Extended :=
  powFrom (ofNat 10) (ofNat 1) exponent (exponent.log2 + 1)

end Extended

end PuppetRegistry
