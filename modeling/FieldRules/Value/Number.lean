import FieldRules.Value.Basic
import FieldRules.Value.Compare
import FieldRules.Value.Fault

/-! # Numbers

The arithmetic of host numbers. Integers are exact; floats follow binary64; decimals follow the
decimal context of 28 digits. An integer meets a float as the nearest float (too large an
integer has none), and meets a decimal exactly; a float and a decimal do not mix. Fractions
and complex numbers take part in sums, where a fraction meets a float as the nearest float.

Division of two integers gives the float nearest the exact quotient. The remainder takes the
sign of the divisor for integers and floats, and of the dividend for decimals. Rounding to a
number of places goes to the nearest, ties to even, except for decimals, where ties go away from
zero. -/

namespace FieldRules

open Number

/-- The arithmetic operators. -/
inductive ArithOp where
  | add | sub | mul | div | mod
deriving Inhabited, BEq, DecidableEq

/-- The symbol of an arithmetic operator. -/
def ArithOp.symbol : ArithOp → String
  | .add => "+" | .sub => "-" | .mul => "*" | .div => "/" | .mod => "%"

/-- The float nearest an integer, if the integer is not too large for one. -/
def floatOfIntChecked (n : Int) : Except Fault Float :=
  let x := floatOfInt n
  if isInfinite x then .error Fault.intTooLarge else .ok x

/-- The float nearest a fraction `n / d`, if it is not too large for one. -/
def floatOfRatio (n : Int) (d : Nat) : Except Fault Float :=
  let x := nearestFloat (n < 0) n.natAbs d
  if isInfinite x then .error (.overflowError "integer division result too large for a float")
  else .ok x

/-- The float a number value converts to. -/
def Value.toFloat : Value → Except Fault Float
  | .bool b => .ok (if b then 1.0 else 0.0)
  | .int n | .textInt n _ => floatOfIntChecked n
  | .float x => .ok x
  | .decimal d =>
    match d.toFloat? with
    | some x => .ok x
    | Option.none => .error (.valueError "cannot convert signaling NaN to float")
  | .fraction q => floatOfRatio q.num q.den
  | v => .error (.typeError ("must be real number, not " ++ v.qualifiedTypeName))

/-- Whether a value is a number of rule arithmetic: an integer (not a truth value), a float or
  a decimal. -/
def Value.isRuleNumber : Value → Bool
  | .int _ | .textInt .. | .float _ | .decimal _ => true
  | _ => false

/-- Whether a number is zero. -/
def Value.isNumericZero (v : Value) : Bool :=
  match v.numeric? with
  | some (re, im) => re.isZero && im.isZero
  | Option.none => false

/-- The value of a float with the magnitude of `mag` and the sign of `sign`. -/
def copySign (mag sign : Float) : Float :=
  let m := if signBit mag then -mag else mag
  if signBit sign then -m else m

/-- The exact remainder of truncating division of finite floats, with the sign of `x`. -/
def floatTruncRem (x y : Float) : Float :=
  match Binary64.ofFloat x, Binary64.ofFloat y with
  | .finite nx mx ex, .finite _ my ey =>
    let e := min ex ey
    let a := mx * Nat.pow 2 (ex - e).toNat
    let b := my * Nat.pow 2 (ey - e).toNat
    if b == 0 then 0.0 / 0.0
    else
      let r := a % b
      let (num, den) := if 0 ≤ e then (r * Nat.pow 2 e.toNat, 1) else (r, Nat.pow 2 (-e).toNat)
      nearestFloat nx num den
  | .finite .., .inf _ => x
  | _, _ => 0.0 / 0.0

/-- The remainder of floats with the sign of the divisor. -/
def floatMod (x y : Float) : Float :=
  let m := floatTruncRem x y
  if m != 0.0 then (if (y < 0.0) != (m < 0.0) then m + y else m)
  else copySign 0.0 y

/-- The remainder of integers with the sign of the divisor. -/
def intMod (a b : Int) : Int := Int.fmod a b

/-- Rule arithmetic on two numbers of rule arithmetic; the divisor of a division or remainder is
  not zero. -/
def ruleArith (op : ArithOp) (a b : Value) : Except Fault Value :=
  let unsupported : Except Fault Value := .error (.typeError ("unsupported operand type(s) for " ++
    op.symbol ++ ": '" ++ a.qualifiedTypeName ++ "' and '" ++ b.qualifiedTypeName ++ "'"))
  let intOf : Value → Option Int
    | .int n | .textInt n _ => some n
    | _ => none
  match a, b with
  | .decimal x, .decimal y => decimalArith op x y
  | .decimal x, w =>
    match intOf w with
    | some n => decimalArith op x (Decimal.ofInt n)
    | none => unsupported
  | w, .decimal y =>
    match intOf w with
    | some n => decimalArith op (Decimal.ofInt n) y
    | none => unsupported
  | _, _ =>
    match intOf a, intOf b with
    | some m, some n =>
      match op with
      | .add => .ok (.int (m + n))
      | .sub => .ok (.int (m - n))
      | .mul => .ok (.int (m * n))
      | .div =>
        let neg := (m < 0) != (n < 0)
        let x := nearestFloat neg m.natAbs n.natAbs
        if isInfinite x then .error (.overflowError "integer division result too large for a float")
        else .ok (.float x)
      | .mod => .ok (.int (intMod m n))
    | _, _ => do
      let x ← a.toFloat
      let y ← b.toFloat
      return .float (floatArith op x y)
where
  /-- Arithmetic of decimals in the context. -/
  decimalArith (op : ArithOp) (x y : Decimal) : Except Fault Value :=
    let r := match op with
      | .add => x.add y | .sub => x.sub y | .mul => x.mul y | .div => x.div y | .mod => x.rem y
    match r with
    | .ok d => .ok (.decimal d)
    | .error s => .error (.decimal s)
  /-- Arithmetic of floats. -/
  floatArith (op : ArithOp) (x y : Float) : Float :=
    match op with
    | .add => x + y | .sub => x - y | .mul => x * y | .div => x / y | .mod => floatMod x y

/-- The negation of a number of rule arithmetic. -/
def ruleNegate : Value → Except Fault Value
  | .int n | .textInt n _ => .ok (.int (-n))
  | .float x => .ok (.float (-x))
  | .decimal d =>
    match d.neg with
    | .ok r => .ok (.decimal r)
    | .error s => .error (.decimal s)
  | v => .ok v

/-- The kinds of the numeric tower, in the order a sum widens them. -/
inductive NumKind where
  | integer | fraction | float | complex | decimal
deriving Inhabited, BEq, DecidableEq

/-- The kind of a number value. -/
def Value.numKind? : Value → Option NumKind
  | .bool _ | .int _ | .textInt .. => some .integer
  | .fraction _ => some .fraction
  | .float _ => some .float
  | .complex .. => some .complex
  | .decimal _ => some .decimal
  | _ => Option.none

/-- The fraction of an integer or fraction value. -/
def Value.toFraction : Value → Fraction
  | .bool b => Fraction.ofInt (if b then 1 else 0)
  | .int n | .textInt n _ => Fraction.ofInt n
  | .fraction q => q
  | _ => Fraction.ofInt 0

/-- The real and imaginary parts of a value as a complex number. -/
def Value.toComplex : Value → Except Fault (Float × Float)
  | .complex re im => .ok (re, im)
  | v => do return (← v.toFloat, 0.0)

/-- The sum of two host values, as the host's addition gives it for numbers; other operands are
  a type error. -/
def hostAdd (a b : Value) : Except Fault Value :=
  let unsupported : Except Fault Value := .error (.typeError ("unsupported operand type(s) for +: '" ++
    a.qualifiedTypeName ++ "' and '" ++ b.qualifiedTypeName ++ "'"))
  match a.numKind?, b.numKind? with
  | some ka, some kb =>
    if ka == .decimal || kb == .decimal then
      if (ka == .decimal || ka == .integer) && (kb == .decimal || kb == .integer) then
        let toDec : Value → Decimal
          | .decimal d => d
          | v => Decimal.ofInt v.toFraction.num
        match (toDec a).add (toDec b) with
        | .ok d => .ok (.decimal d)
        | .error s => .error (.decimal s)
      else unsupported
    else if ka == .complex || kb == .complex then do
      let (r1, i1) ← a.toComplex
      let (r2, i2) ← b.toComplex
      return .complex (r1 + r2) (i1 + i2)
    else if ka == .float || kb == .float then do
      return .float ((← a.toFloat) + (← b.toFloat))
    else if ka == .fraction || kb == .fraction then
      .ok (.fraction (a.toFraction.add b.toFraction))
    else .ok (.int (a.toFraction.num + b.toFraction.num))
  | _, _ => unsupported

/-- Rounds the exact value `n / d` to an integer, ties to even. -/
def roundRatioEven (n : Int) (d : Nat) : Int :=
  let q := n / Int.ofNat d
  let r := (n % Int.ofNat d).toNat
  if 2 * r > d || (2 * r == d && q % 2 != 0) then q + 1 else q

/-- A float rounded to `places` decimal places, ties to even on the exact value. -/
def roundFloatPlaces (x : Float) (places : Int) : Except Fault Float :=
  match Binary64.ofFloat x with
  | .finite neg m e =>
    if places > 323 then .ok x
    else if places < -308 then .ok (copySign 0.0 x)
    else
      let (n, d) := exactFraction neg m e
      let q := if 0 ≤ places then roundRatioEven (n * Int.ofNat (Nat.pow 10 places.toNat)) d
        else roundRatioEven n (d * Nat.pow 10 (-places).toNat)
      let y := if q == 0 then copySign 0.0 x
        else if 0 ≤ places then nearestFloat (q < 0) q.natAbs (Nat.pow 10 places.toNat)
        else nearestFloat (q < 0) (q.natAbs * Nat.pow 10 (-places).toNat) 1
      if isInfinite y then .error (.overflowError "rounded value too large to represent")
      else .ok y
  | _ => .ok x

/-- An integer rounded to `places` decimal places; only negative places change it. -/
def roundIntPlaces (n : Int) (places : Int) : Int :=
  if 0 ≤ places then n
  else
    let unit := Nat.pow 10 (-places).toNat
    roundRatioEven n unit * Int.ofNat unit

/-- The integer nearest a float, ties to even. -/
def floatToIntEven (x : Float) : Except Fault Int :=
  match Binary64.ofFloat x with
  | .finite neg m e =>
    let (n, d) := exactFraction neg m e
    .ok (roundRatioEven n d)
  | .inf _ => .error (.overflowError "cannot convert float infinity to integer")
  | .nan => .error (.valueError "cannot convert float NaN to integer")

/-- The integer below (`up = false`) or above (`up = true`) a float. -/
def floatToIntDir (x : Float) (up : Bool) : Except Fault Int :=
  match Binary64.ofFloat x with
  | .finite neg m e =>
    let (n, d) := exactFraction neg m e
    .ok (if up then -((-n) / Int.ofNat d) else n / Int.ofNat d)
  | .inf _ => .error (.overflowError "cannot convert float infinity to integer")
  | .nan => .error (.valueError "cannot convert float NaN to integer")

end FieldRules
