/-! # Binary64 values as exact numbers

A double-precision value is either NaN, an infinity, or a finite number `± m · 2 ^ e` with a
natural significand `m`. This module reads a `Float` as such a triple through its bits and
builds the `Float` nearest to a nonnegative fraction `num / den`, ties to an even
significand, which is the rounding of every conversion and every correctly rounded operation
of the format. An overflowing fraction gives an infinity, which callers that must refuse
such values test with `Float.isInf`. The modulus `√(x² + y²)` follows the platform's math
library: a rounded root with one correction step. -/

namespace FieldRules.Number

/-- What a binary64 value denotes: NaN, an infinity, or `± m · 2 ^ e`. -/
inductive Binary64 where
  | nan
  | inf (neg : Bool)
  | finite (neg : Bool) (m : Nat) (e : Int)
deriving Repr, BEq, Inhabited

/-- The greatest significand of a normal value, plus one. -/
def significandBound : Nat := Nat.pow 2 53

/-- The least exponent of a subnormal value. -/
def minExponent : Int := -1074

/-- The greatest exponent of a finite value with a 53-bit significand. -/
def maxExponent : Int := 971

/-- Reads a `Float` through its bits. -/
def Binary64.ofFloat (x : Float) : Binary64 :=
  let bits := x.toBits.toNat
  let neg := bits / Nat.pow 2 63 % 2 == 1
  let expField := bits / Nat.pow 2 52 % Nat.pow 2 11
  let frac := bits % Nat.pow 2 52
  if expField == 2047 then
    if frac == 0 then .inf neg else .nan
  else if expField == 0 then .finite neg frac minExponent
  else .finite neg (frac + Nat.pow 2 52) (Int.ofNat expField - 1075)

/-- Multiplies by a power of two with an integer exponent, as a fraction `(num, den)`. -/
def scaleByTwo (num den : Nat) (e : Int) : Nat × Nat :=
  if 0 ≤ e then (num * Nat.pow 2 e.toNat, den) else (num, den * Nat.pow 2 (-e).toNat)

/-- The quotient and remainder of `num / (den · 2 ^ e)` together with its divisor. -/
def quotientAt (num den : Nat) (e : Int) : Nat × Nat × Nat :=
  let (n, d) := scaleByTwo num den (-e)
  (n / d, n % d, d)

/-- Rounds `q + r / d` to an integer, a half going to the even neighbour. -/
def roundHalfEven (q r d : Nat) : Nat :=
  if 2 * r > d then q + 1
  else if 2 * r == d then (if q % 2 == 1 then q + 1 else q)
  else q

/-- The bits of a nonnegative value `q · 2 ^ e`, where `q < 2 ^ 53` and `e ≥ minExponent`,
  with `q ≥ 2 ^ 52` unless `e = minExponent`. Exponents above `maxExponent` give infinity. -/
def encodeBits (q : Nat) (e : Int) : Nat :=
  if q == 0 then 0
  else if e > maxExponent then 2047 * Nat.pow 2 52
  else if q < Nat.pow 2 52 then q
  else (e + 1075).toNat * Nat.pow 2 52 + (q - Nat.pow 2 52)

/-- The exponent `e` for which `num / (den · 2 ^ e)` lies in `[2 ^ 52, 2 ^ 53)`, or
  `minExponent` when that would go below it. Requires `num > 0` and `den > 0`. -/
def alignExponent (num den : Nat) : Int :=
  let e0 : Int := Int.ofNat (Nat.log2 num) - Int.ofNat (Nat.log2 den) - 53
  let q0 := (quotientAt num den e0).1
  let e1 := if q0 ≥ Nat.pow 2 54 then e0 + 2 else if q0 ≥ Nat.pow 2 53 then e0 + 1
    else if q0 < Nat.pow 2 52 then e0 - 1 else e0
  if e1 < minExponent then minExponent else e1

/-- The bits of the binary64 value nearest to `num / den`, ties to even, as a nonnegative
  value. A zero numerator or denominator gives zero. -/
def nearestBits (num den : Nat) : Nat :=
  if num == 0 || den == 0 then 0
  else
    let e := alignExponent num den
    let (q, r, d) := quotientAt num den e
    let q' := roundHalfEven q r d
    if q' == Nat.pow 2 53 then encodeBits (Nat.pow 2 52) (e + 1) else encodeBits q' e

/-- The `Float` nearest to `± num / den`, ties to even; infinite when it overflows. -/
def nearestFloat (neg : Bool) (num den : Nat) : Float :=
  let bits := nearestBits num den
  Float.ofBits (UInt64.ofNat (if neg then bits + Nat.pow 2 63 else bits))

/-- The `Float` nearest to an integer; infinite when it overflows. -/
def floatOfInt (n : Int) : Float := nearestFloat (n < 0) n.natAbs 1

/-- The `Float` nearest to `m · 10 ^ k`, for a natural significand and integer `k`. -/
def floatOfDecimal (neg : Bool) (m : Nat) (k : Int) : Float :=
  if 0 ≤ k then nearestFloat neg (m * Nat.pow 10 k.toNat) 1
  else nearestFloat neg m (Nat.pow 10 (-k).toNat)

/-- The exact value of a finite `Float` as a signed fraction `(num, den)`. -/
def exactFraction (neg : Bool) (m : Nat) (e : Int) : Int × Nat :=
  let (n, d) := scaleByTwo m 1 e
  (if neg then -Int.ofNat n else Int.ofNat n, d)

/-- The exact value of a finite `Float` as a signed fraction; none for NaN and infinities. -/
def exactValue? (x : Float) : Option (Int × Nat) :=
  match Binary64.ofFloat x with
  | .finite neg m e => some (exactFraction neg m e)
  | _ => none

/-- The `Float` nearest to a signed fraction `n / d`, ties to even. -/
def nearestOfRatio (n : Int) (d : Nat) : Float := nearestFloat (n < 0) n.natAbs d

/-- The correctly rounded sum of two finite floats, computed from their exact values (a zero
  sum is `+0.0`); the format's own sum when either is not finite. -/
def addNearest (x y : Float) : Float :=
  match exactValue? x, exactValue? y with
  | some (a, p), some (b, q) => nearestOfRatio (a * Int.ofNat q + b * Int.ofNat p) (p * q)
  | _, _ => x + y

/-- The correctly rounded product of two finite floats, computed from their exact values (a
  zero product is `+0.0`); the format's own product when either is not finite. -/
def mulNearest (x y : Float) : Float :=
  match exactValue? x, exactValue? y with
  | some (a, p), some (b, q) => nearestOfRatio (a * b) (p * q)
  | _, _ => x * y

/-- One corrected step of the modulus of `ax ≥ ay ≥ 0`, both in a range where their squares
  neither overflow nor vanish: the square root `h` of the rounded sum of squares is moved by
  `(t₁ + t₂) / 2h`, where `t₁ + t₂` recovers, from exactly computable products, the error
  `h² - (ax² + ay²)` (the correction of Borges' improved algorithm). -/
def modulusKernel (ax ay : Float) : Float :=
  let h := Float.sqrt (ax * ax + ay * ay)
  let (t1, t2) :=
    if h ≤ 2.0 * ay then
      let delta := h - ay
      (ax * (2.0 * delta - ax), (delta - 2.0 * (ax - ay)) * delta)
    else
      let delta := h - ax
      (2.0 * delta * (ax - 2.0 * ay), (4.0 * delta - ay) * ay + delta * delta)
  h - (t1 + t2) / (2.0 * h)

/-- The modulus `√(x² + y²)` of two finite floats as the platform's math library computes it:
  the larger magnitude alone when the smaller is below `2 ^ -54` of it, else the corrected
  kernel, with both operands scaled by `2 ^ ∓600` first when the larger exceeds `2 ^ 511` or
  the smaller is below `2 ^ -511`. -/
def modulus (x y : Float) : Float :=
  let scale : Float := Float.scaleB 1.0 (-600)
  let eps : Float := Float.scaleB 1.0 (-54)
  let x := x.abs
  let y := y.abs
  let ax := if x < y then y else x
  let ay := if x < y then x else y
  if ax > Float.scaleB 1.0 511 then
    if ay ≤ ax * eps then ax + ay else modulusKernel (ax * scale) (ay * scale) / scale
  else if ay < Float.scaleB 1.0 (-511) then
    if ax ≥ ay / eps then ax + ay else modulusKernel (ax / scale) (ay / scale) * scale
  else if ay ≤ ax * eps then ax + ay
  else modulusKernel ax ay

/-- Whether a `Float` is an infinity. -/
def isInfinite (x : Float) : Bool :=
  match Binary64.ofFloat x with
  | .inf _ => true
  | _ => false

/-- Whether a `Float` is NaN. -/
def isNaN (x : Float) : Bool :=
  match Binary64.ofFloat x with
  | .nan => true
  | _ => false

/-- Whether a `Float` carries the minus sign (also for `-0.0`). -/
def signBit (x : Float) : Bool := x.toBits.toNat / Nat.pow 2 63 % 2 == 1

end FieldRules.Number
