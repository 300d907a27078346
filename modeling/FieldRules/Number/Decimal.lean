import FieldRules.Number.FloatText

/-! # Decimal numbers

A decimal number is a sign, a natural coefficient and an integer exponent (`± c · 10 ^ e`),
an infinity, or a NaN (quiet or signaling, with a payload of digits). Equal values may have
different coefficients and exponents: `1.50` and `1.5` are equal but written differently.
Arithmetic works in a context of 28 significant digits that rounds halves to even; a result
that needs more digits is rounded, and an exact quotient keeps the exponent closest to the
difference of the operands' exponents. Text is written positionally when the exponent is at
most zero and the adjusted exponent (of the leading digit) is at least `-6`, and in
scientific form `d.dddE±n` otherwise. -/

namespace FieldRules.Number

/-- A decimal number. -/
inductive Decimal where
  | finite (neg : Bool) (coeff : Nat) (exp : Int)
  | inf (neg : Bool)
  | nan (neg : Bool) (signaling : Bool) (payload : Nat)
deriving Inhabited, BEq

/-- Why a decimal operation has no value: the condition that the context signals. -/
inductive DecimalSignal where
  | invalidOperation
  | divisionImpossible
  | divisionByZero
  | overflow
deriving Inhabited, BEq

/-- The text of a signalled condition, as the list of conditions raised. -/
def DecimalSignal.message : DecimalSignal → String
  | .invalidOperation => "[<class 'decimal.InvalidOperation'>]"
  | .divisionImpossible => "[<class 'decimal.DivisionImpossible'>]"
  | .divisionByZero => "[<class 'decimal.DivisionByZero'>]"
  | .overflow => "[<class 'decimal.Overflow'>]"

namespace Decimal

/-- The number of significant digits of the arithmetic context. -/
def precision : Nat := 28

/-- The greatest adjusted exponent of the context. -/
def maxAdjusted : Int := 999999

/-- The number of decimal digits of a coefficient (one for zero). -/
def digitCount (c : Nat) : Nat := digitLength c

/-- The exponent of the leading digit of a finite decimal. -/
def adjusted (c : Nat) (e : Int) : Int := e + Int.ofNat (digitCount c) - 1

/-- Whether a decimal is zero. -/
def isZero : Decimal → Bool
  | .finite _ c _ => c == 0
  | _ => false

/-- Whether a decimal is a NaN. -/
def isNaN : Decimal → Bool
  | .nan .. => true
  | _ => false

/-- The text of a decimal: positional or scientific as the module header says. -/
def toText : Decimal → String
  | .inf neg => (if neg then "-" else "") ++ "Infinity"
  | .nan neg sig payload =>
    (if neg then "-" else "") ++ (if sig then "sNaN" else "NaN") ++
      (if payload == 0 then "" else natText payload)
  | .finite neg c e =>
    let sign := if neg then "-" else ""
    let ds := natText c
    let n := ds.length
    let adj := e + Int.ofNat n - 1
    if e ≤ 0 && adj ≥ -6 then
      if e == 0 then sign ++ ds
      else
        let k := (-e).toNat
        if n > k then
          sign ++ String.ofList (ds.toList.take (n - k)) ++ "." ++
            String.ofList (ds.toList.drop (n - k))
        else sign ++ "0." ++ String.ofList (List.replicate (k - n) '0') ++ ds
    else
      let first := String.ofList (ds.toList.take 1)
      let rest := String.ofList (ds.toList.drop 1)
      let mant := if n > 1 then first ++ "." ++ rest else first
      sign ++ mant ++ "E" ++ (if adj ≥ 0 then "+" else "-") ++ toString adj.natAbs

/-- Reads decimal text: an optional sign, digits with an optional point, an optional exponent
  after `e` or `E`; or `Infinity`, `Inf`, `NaN`, `sNaN` in any case, NaN with digits after it;
  blanks around are ignored and single underscores may stand between digits. -/
def ofText? (s : String) : Option Decimal :=
  let cs := (Text.trimBlank s).toList
  let (neg, body) := readSign cs
  let word := String.ofList (body.map Char.toLower)
  if word == "infinity" || word == "inf" then some (.inf neg)
  else if word.startsWith "snan" || word.startsWith "nan" then
    let sig := word.startsWith "snan"
    let digits := body.drop (if sig then 4 else 3)
    if digits.isEmpty then some (.nan neg sig 0)
    else
      match readDigitRun digits with
      | (ds, []) => some (.nan neg sig (digitsValue ds))
      | _ => none
  else
    match readUnsignedDecimal body with
    | some (m, k, []) => some (.finite neg m k)
    | _ => none

/-- Rounds `q + r / d` to an integer, ties to even. -/
def roundEven (q r d : Nat) : Nat := roundHalfEven q r d

/-- Rounds `q + r / d` to an integer, ties away from zero. -/
def roundHalfUp (q r d : Nat) : Nat := if 2 * r ≥ d && r > 0 then q + 1 else q

/-- The least exponent of the context: `1 - precision` below the least adjusted exponent of a
  normal number, which is `-maxAdjusted`. -/
def minExponent : Int := -maxAdjusted - (Int.ofNat precision - 1)

/-- A finite decimal fitted to the context. A zero keeps its exponent within `minExponent` and
  `maxAdjusted`. Otherwise an adjusted exponent above `maxAdjusted` overflows; a number below the
  normal range is rounded (ties to even) to the exponent `minExponent`, possibly to zero; and a
  normal number is rounded to `precision` digits, which may overflow in turn. -/
def fit (neg : Bool) (c : Nat) (e : Int) : Except DecimalSignal Decimal :=
  if c == 0 then .ok (.finite neg 0 (max minExponent (min e maxAdjusted)))
  else
    let n := digitCount c
    let adj := e + Int.ofNat n - 1
    if adj > maxAdjusted then .error .overflow
    else if adj < -maxAdjusted then
      if e < minExponent then
        let shift := (minExponent - e).toNat
        -- a coefficient shifted by more than its digits is below a tenth of a unit
        let q := if shift > n then 0 else roundEven (c / Nat.pow 10 shift) (c % Nat.pow 10 shift) (Nat.pow 10 shift)
        .ok (.finite neg q minExponent)
      else .ok (.finite neg c e)
    else if n ≤ precision then .ok (.finite neg c e)
    else
      let drop := n - precision
      let d := Nat.pow 10 drop
      let q := roundEven (c / d) (c % d) d
      let (q, e') := if digitCount q > precision then (q / 10, e + Int.ofNat drop + 1)
        else (q, e + Int.ofNat drop)
      if adjusted q e' > maxAdjusted then .error .overflow else .ok (.finite neg q e')

/-- The exact integer a decimal with a nonnegative exponent scales to, as a signed value. -/
def scaled (neg : Bool) (c : Nat) (shift : Nat) : Int :=
  let v := Int.ofNat (c * Nat.pow 10 shift)
  if neg then -v else v

/-- The sum of two finite decimals, exact then fitted; an exact zero is positive unless both
  operands are negative. When the operand with the smaller exponent lies wholly below the digit
  that rounding looks at, it is replaced by a single unit (or zero) just below that digit, which
  rounds the same way and keeps the exact sum small. -/
def addFinite (n1 : Bool) (c1 : Nat) (e1 : Int) (n2 : Bool) (c2 : Nat) (e2 : Int) :
    Except DecimalSignal Decimal :=
  let ((bn, bc, be), (sn, sc, se)) :=
    if e2 > e1 then ((n2, c2, e2), (n1, c1, e1)) else ((n1, c1, e1), (n2, c2, e2))
  let bd := digitCount bc
  let below := be - 1 + (if bd > precision then 0 else Int.ofNat bd - Int.ofNat precision - 1)
  let (sc, se) :=
    if bc != 0 && be > se && adjusted sc se < below then (if sc == 0 then 0 else 1, below)
    else (sc, se)
  let e := min be se
  let part (neg : Bool) (c : Nat) (ex : Int) : Int := if c == 0 then 0 else scaled neg c (ex - e).toNat
  let v := part bn bc be + part sn sc se
  if v == 0 then fit (n1 && n2) 0 e
  else fit (v < 0) v.natAbs e

/-- Negation, fitted to the context; a zero becomes positive. -/
def neg : Decimal → Except DecimalSignal Decimal
  | .finite n c e => if c == 0 then fit false 0 e else fit (!n) c e
  | .inf n => .ok (.inf (!n))
  | .nan n s p => if s then .error .invalidOperation else .ok (.nan n s p)

/-- Absolute value, fitted to the context. -/
def abs : Decimal → Except DecimalSignal Decimal
  | .finite _ c e => fit false c e
  | .inf _ => .ok (.inf false)
  | .nan n s p => if s then .error .invalidOperation else .ok (.nan n s p)

/-- The NaN that an operation with a NaN operand gives, or the signal it raises. -/
def nanOperand (a b : Decimal) : Option (Except DecimalSignal Decimal) :=
  match a, b with
  | .nan _ true _, _ => some (.error .invalidOperation)
  | _, .nan _ true _ => some (.error .invalidOperation)
  | .nan n _ p, _ => some (.ok (.nan n false p))
  | _, .nan n _ p => some (.ok (.nan n false p))
  | _, _ => none

/-- Addition. -/
def add (a b : Decimal) : Except DecimalSignal Decimal :=
  match nanOperand a b with
  | some r => r
  | none =>
    match a, b with
    | .inf n1, .inf n2 => if n1 == n2 then .ok (.inf n1) else .error .invalidOperation
    | .inf n, _ => .ok (.inf n)
    | _, .inf n => .ok (.inf n)
    | .finite n1 c1 e1, .finite n2 c2 e2 => addFinite n1 c1 e1 n2 c2 e2
    | _, _ => .error .invalidOperation

/-- The decimal with the opposite sign, exactly. -/
def flipSign : Decimal → Decimal
  | .finite n c e => .finite (!n) c e
  | .inf n => .inf (!n)
  | d => d

/-- Subtraction. -/
def sub (a b : Decimal) : Except DecimalSignal Decimal :=
  match nanOperand a b with
  | some r => r
  | none => add a (flipSign b)

/-- Multiplication. -/
def mul (a b : Decimal) : Except DecimalSignal Decimal :=
  match nanOperand a b with
  | some r => r
  | none =>
    match a, b with
    | .finite n1 c1 e1, .finite n2 c2 e2 => fit (n1 != n2) (c1 * c2) (e1 + e2)
    | .inf n1, .finite n2 c _ => if c == 0 then .error .invalidOperation else .ok (.inf (n1 != n2))
    | .finite n1 c _, .inf n2 => if c == 0 then .error .invalidOperation else .ok (.inf (n1 != n2))
    | .inf n1, .inf n2 => .ok (.inf (n1 != n2))
    | _, _ => .error .invalidOperation

/-- Division: exact quotients keep the exponent nearest the ideal one, the others are rounded
  to the context. -/
def div (a b : Decimal) : Except DecimalSignal Decimal :=
  match nanOperand a b with
  | some r => r
  | none =>
    match a, b with
    | .inf _, .inf _ => .error .invalidOperation
    | .inf n1, .finite n2 _ _ => .ok (.inf (n1 != n2))
    | .finite n1 _ _, .inf n2 => .ok (.finite (n1 != n2) 0 minExponent)
    | .finite n1 c1 e1, .finite n2 c2 e2 =>
      let sign := n1 != n2
      if c2 == 0 then
        .error (if c1 == 0 then .invalidOperation else .divisionByZero)
      else if c1 == 0 then fit sign 0 (e1 - e2)
      else
        let shift : Int := Int.ofNat (digitCount c2) - Int.ofNat (digitCount c1) +
          Int.ofNat precision + 1
        let exp := e1 - e2 - shift
        let (q, r) := if shift ≥ 0 then ((c1 * Nat.pow 10 shift.toNat) / c2, (c1 * Nat.pow 10 shift.toNat) % c2)
          else (c1 / (c2 * Nat.pow 10 (-shift).toNat), c1 % (c2 * Nat.pow 10 (-shift).toNat))
        if r != 0 then
          let q := if q % 5 == 0 then q + 1 else q
          fit sign q exp
        else
          let ideal := e1 - e2
          let (q, exp) := stripToward q exp ideal (Int.toNat (ideal - exp))
          fit sign q exp
    | _, _ => .error .invalidOperation
where
  /-- Removes trailing zeros of an exact quotient while the exponent is below the ideal. -/
  stripToward (q : Nat) (exp ideal : Int) : Nat → Nat × Int
    | 0 => (q, exp)
    | fuel + 1 =>
      if exp < ideal && q % 10 == 0 && q != 0 then stripToward (q / 10) (exp + 1) ideal fuel
      else (q, exp)

/-- The remainder of truncating division: its sign is the dividend's and its exponent the
  smaller of the two. -/
def rem (a b : Decimal) : Except DecimalSignal Decimal :=
  match nanOperand a b with
  | some r => r
  | none =>
    match a, b with
    | .inf _, _ => .error .invalidOperation
    | .finite n1 c1 e1, .inf _ => fit n1 c1 e1
    | .finite n1 c1 e1, .finite _ c2 e2 =>
      if c2 == 0 then .error .invalidOperation
      else
        let ideal := min e1 e2
        if c1 == 0 then fit n1 0 ideal
        else if adjusted c1 e1 - adjusted c2 e2 ≤ -2 then
          fit n1 (c1 * Nat.pow 10 (e1 - ideal).toNat) ideal
        else if adjusted c1 e1 - adjusted c2 e2 ≤ Int.ofNat precision then
          let x := c1 * Nat.pow 10 (e1 - ideal).toNat
          let y := c2 * Nat.pow 10 (e2 - ideal).toNat
          if x / y < Nat.pow 10 precision then fit n1 (x % y) ideal
          else .error .divisionImpossible
        else .error .divisionImpossible
    | _, _ => .error .invalidOperation

/-- The exact decimal of an integer. -/
def ofInt (n : Int) : Decimal := .finite (n < 0) n.natAbs 0

/-- The exact value of a finite decimal as a signed fraction `(num, den)`. -/
def toFraction (neg : Bool) (c : Nat) (e : Int) : Int × Nat :=
  let (n, d) := if 0 ≤ e then (c * Nat.pow 10 e.toNat, 1) else (c, Nat.pow 10 (-e).toNat)
  (if neg then -Int.ofNat n else Int.ofNat n, d)

/-- The nearest float (a signaling NaN has none). -/
def toFloat? : Decimal → Option Float
  | .finite neg c e =>
    let width := Int.ofNat (digitCount c)
    if c == 0 then some (floatOfDecimal neg 0 0)
    else if e + width > 400 then some (if neg then -(1.0 / 0.0) else 1.0 / 0.0)
    else if e + width < -400 then some (floatOfDecimal neg 0 0)
    else some (floatOfDecimal neg c e)
  | .inf neg => some (if neg then -(1.0 / 0.0) else 1.0 / 0.0)
  | .nan _ false _ => some (0.0 / 0.0)
  | .nan _ true _ => none

/-- Rescales a finite decimal to an exponent, rounding by a rule on `q + r / d`. -/
def rescale (neg : Bool) (c : Nat) (e : Int) (target : Int) (round : Nat → Nat → Nat → Nat) :
    Decimal :=
  if target ≤ e then .finite neg (c * Nat.pow 10 (e - target).toNat) target
  else
    let d := Nat.pow 10 (target - e).toNat
    .finite neg (round (c / d) (c % d) d) target

/-- The decimal quantized to an exponent with halves rounded away from zero; results with
  more digits than the context allows are refused. -/
def quantizeHalfUp (x : Decimal) (target : Int) : Except DecimalSignal Decimal :=
  match x with
  | .nan _ true _ => .error .invalidOperation
  | .nan n _ p => .ok (.nan n false p)
  | .inf _ => .error .invalidOperation
  | .finite neg c e =>
    if c == 0 then fit neg 0 target
    else if adjusted c e - target + 1 > Int.ofNat precision then .error .invalidOperation
    else
      match rescale neg c e target roundHalfUp with
      | .finite n q t => if digitCount q > precision then .error .invalidOperation
        else .ok (.finite n q t)
      | d => .ok d

/-- What a decimal is quantized to: the exponent of a finite decimal, or a NaN or an
  infinity. -/
inductive Quantum where
  | exponent (e : Int)
  | nan (neg : Bool) (payload : Nat)
  | infinite
deriving Inhabited

/-- A decimal quantized to a quantum, ties away from zero: to an exponent as
  `quantizeHalfUp` does; a NaN quantum gives that NaN unless the decimal is a NaN itself; an
  infinite quantum keeps an infinity and refuses a finite number. -/
def quantizeTo (x : Decimal) : Quantum → Except DecimalSignal Decimal
  | .exponent e => x.quantizeHalfUp e
  | .nan neg p =>
    match x with
    | .nan _ true _ => .error .invalidOperation
    | .nan n _ q => .ok (.nan n false q)
    | _ => .ok (.nan neg false p)
  | .infinite =>
    match x with
    | .nan _ true _ => .error .invalidOperation
    | .nan n _ q => .ok (.nan n false q)
    | .inf n => .ok (.inf n)
    | _ => .error .invalidOperation

/-- The integer a finite decimal rounds to toward minus infinity (`up = false`) or toward
  plus infinity (`up = true`). -/
def roundToInt (neg : Bool) (c : Nat) (e : Int) (up : Bool) : Int :=
  if 0 ≤ e then (if neg then -Int.ofNat (c * Nat.pow 10 e.toNat) else Int.ofNat (c * Nat.pow 10 e.toNat))
  else
    let d := Nat.pow 10 (-e).toNat
    let q := c / d
    let exact := c % d == 0
    if neg then (if up || exact then -Int.ofNat q else -Int.ofNat q - 1)
    else (if up && !exact then Int.ofNat q + 1 else Int.ofNat q)

end Decimal

end FieldRules.Number
