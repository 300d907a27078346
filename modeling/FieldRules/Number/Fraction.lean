import FieldRules.Number.FloatText

/-! # Fractions

A fraction is an integer numerator over a positive denominator in lowest terms. Text is
`n/d`, or `n` alone when the denominator is one. Reading accepts `n/d` with optional sign and
blanks, or decimal text with a point or exponent, which is read exactly. -/

namespace FieldRules.Number

/-- A rational number in lowest terms with a positive denominator. -/
structure Fraction where
  num : Int
  den : Nat
deriving Inhabited, BEq, DecidableEq

namespace Fraction

/-- The fraction `n / d` in lowest terms; `d` must be positive. -/
def make (n : Int) (d : Nat) : Fraction :=
  let g := Nat.gcd n.natAbs d
  if g == 0 then ⟨0, 1⟩ else ⟨n / Int.ofNat g, d / g⟩

/-- The fraction of an integer. -/
def ofInt (n : Int) : Fraction := ⟨n, 1⟩

/-- The text of a fraction. -/
def toText (q : Fraction) : String :=
  if q.den == 1 then intText q.num else intText q.num ++ "/" ++ natText q.den

/-- Reads fraction text as the module header describes. -/
def ofText? (s : String) : Option Fraction :=
  let cs := (Text.trimBlank s).toList
  let (neg, body) := readSign cs
  match body.span (· != '/') with
  | (numCs, '/' :: denCs) =>
    match readDigitRun numCs, readDigitRun (Text.trimBlank (String.ofList denCs)).toList with
    | (nds, []), (dds, []) =>
      if nds.isEmpty || dds.isEmpty then none
      else
        let d := digitsValue dds
        if d == 0 then none
        else
          let n := Int.ofNat (digitsValue nds)
          some (make (if neg then -n else n) d)
    | _, _ => none
  | _ =>
    match readUnsignedDecimal body with
    | some (m, k, []) =>
      let n : Int := if neg then -Int.ofNat m else Int.ofNat m
      if 0 ≤ k then some (make (n * Int.ofNat (Nat.pow 10 k.toNat)) 1)
      else some (make n (Nat.pow 10 (-k).toNat))
    | _ => none

/-- Sum. -/
def add (a b : Fraction) : Fraction := make (a.num * b.den + b.num * a.den) (a.den * b.den)

/-- Negation. -/
def neg (a : Fraction) : Fraction := ⟨-a.num, a.den⟩

/-- Absolute value. -/
def abs (a : Fraction) : Fraction := ⟨Int.ofNat a.num.natAbs, a.den⟩

/-- The nearest float. -/
def toFloat (q : Fraction) : Float := nearestFloat (q.num < 0) q.num.natAbs q.den

/-- The greatest integer at most the fraction. -/
def floor (q : Fraction) : Int := q.num / Int.ofNat q.den

/-- The least integer at least the fraction. -/
def ceil (q : Fraction) : Int := -((-q.num) / Int.ofNat q.den)

end Fraction

end FieldRules.Number
