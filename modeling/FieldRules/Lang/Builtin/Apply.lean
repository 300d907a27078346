import FieldRules.Lang.Builtin.Basic
import FieldRules.Value.Access
import FieldRules.Value.Order
import FieldRules.Value.Number
import FieldRules.Time.Instant
import FieldRules.Pattern.Match
import FieldRules.Text.Case

/-! # What library functions compute

Each library function works on host values. Most of them let none through: the text
functions read none as the empty text, the part and arithmetic functions give none back, and
the tests answer false. Text is the display text of a value. `matches` searches the display
text for a pattern anywhere in it. `fromTimestamp` divides milliseconds by a thousand, as
a float for integers and floats, and names the UTC instant of that many seconds. `round`
rounds floats, integers and fractions to the nearest, ties to even, and decimals to a quantum
of ten to the minus places, ties away from zero. `min` and `max` keep the first of equal
extremes under the host order; `sum` adds from the integer zero. `first` and `last` take the
items that iterating gives, `contains` is the host membership test (a substring test on
text), and `if` and `first` judge truth as the host does.

A call first checks the count of its arguments against the function's signature. -/

namespace FieldRules

open Number Time Lang

/-- The fault of a count of seconds that names no instant. -/
def instantFault : InstantError → Fault
  | .notANumber => .valueError "Invalid value NaN (not a number)"
  | .beyondSeconds => .overflowError "timestamp out of range for platform time_t"
  | .beyondYearCounter => .osError "[Errno 75] Value too large for defined data type"
  | .yearOutOfRange y => .valueError ("year " ++ toString y ++ " is out of range")

/-- The text the text functions work on: empty for none, the display text otherwise. -/
def Store.plainText (s : Store) (v : Value) : Except Fault String :=
  if s.isNone v then .ok "" else s.display v

/-- Whether an affix test holds for a text affix, or for some text of a tuple of them, tried
  in order; any other affix is a type error naming the test. -/
def Store.affixTest (s : Store) (method : String) (test : String → Bool) (affix : Value) :
    Except Fault Bool :=
  match s.resolve affix with
  | .str p => .ok (test p)
  | .tuple items => anyOf items
  | w => .error (.typeError (method ++ " first arg must be str or a tuple of str, not " ++
      w.qualifiedTypeName))
where
  /-- The test over the affixes of a tuple. -/
  anyOf : List Value → Except Fault Bool
    | [] => .ok false
    | x :: xs =>
      match s.resolve x with
      | .str p => if test p then .ok true else anyOf xs
      | w => .error (.typeError ("tuple for " ++ method ++ " must only contain str, not " ++
          w.qualifiedTypeName))

/-- Whether a pattern occurs in the display text of a value, which is written before the
  pattern is read; none never matches. -/
def Store.patternSearch (s : Store) (subject pattern : Value) : Except Fault Bool :=
  if s.isNone subject then .ok false
  else do
    let text ← s.display subject
    match s.resolve pattern with
    | .str p =>
      match Pattern.compile p with
      | .ok c => .ok (c.search text)
      | .error e => .error (.pattern e)
    | .bytes _ => .error (.typeError "cannot use a bytes pattern on a string-like object")
    | w =>
      match s.unhashable w with
      | some t => .error (unhashableFault t)
      | Option.none => .error (.typeError "first argument must be string or compiled pattern")

/-- The UTC instant a number of milliseconds since the epoch names. -/
def Store.instantOfMillis (s : Store) (ms : Value) : Except Fault Value :=
  let named (secs : Float) : Except Fault Value :=
    match DateTime.ofEpochSeconds secs with
    | .ok t => .ok (.dateTime t)
    | .error e => .error (instantFault e)
  let notIndex (typeName : String) : Except Fault Value :=
    .error (.typeError ("'" ++ typeName ++ "' object cannot be interpreted as an integer"))
  match s.resolve ms with
  | .bool b => named (nearestOfRatio (if b then 1 else 0) 1000)
  | .int n | .textInt n _ => do named (← floatOfRatio n 1000)
  | .float x =>
    match exactValue? x with
    | some (n, d) => named (nearestOfRatio n (d * 1000))
    | Option.none => named x
  | .decimal d =>
    match d.div (Decimal.ofInt 1000) with
    | .error sig => .error (.decimal sig)
    | .ok _ => notIndex "decimal.Decimal"
  | .fraction _ => notIndex "Fraction"
  | .complex .. => notIndex "complex"
  | .duration _ => notIndex "datetime.timedelta"
  | w => .error (.typeError ("unsupported operand type(s) for /: '" ++ w.qualifiedTypeName ++
      "' and 'int'"))

/-- The days of the difference `later - earlier` of dates or durations; a difference of another
  kind has no days, and operands that cannot be subtracted are a type error. -/
def daysOfDifference (later earlier : Value) : Except Fault Value :=
  let noDays (typeName : String) : Except Fault Value :=
    .error (.attributeError ("'" ++ typeName ++ "' object has no attribute 'days'"))
  let unsupported : Except Fault Value :=
    .error (.typeError ("unsupported operand type(s) for -: '" ++ later.qualifiedTypeName ++
      "' and '" ++ earlier.qualifiedTypeName ++ "'"))
  match later, earlier with
  | .date x, .date y => .ok (.int (x.ordinal - y.ordinal))
  | .duration x, .duration y => .ok (.int (Duration.ofMicros (x.toMicros - y.toMicros)).days)
  | .date x, .duration d =>
    let n := x.ordinal - d.days
    if n < 1 || n > 3652059 then .error (.overflowError "date value out of range")
    else noDays "datetime.date"
  | .set _, .set _ | .set _, .frozenSet _ => noDays "set"
  | .frozenSet _, .set _ | .frozenSet _, .frozenSet _ => noDays "frozenset"
  | _, _ =>
    match later.numKind?, earlier.numKind? with
    | some a, some b =>
      let kinds := [a, b]
      if kinds.contains .decimal then
        if kinds.all (fun k => k == .decimal || k == .integer) then noDays "decimal.Decimal"
        else unsupported
      else if kinds.contains .complex then do
        let _ ← later.toComplex
        let _ ← earlier.toComplex
        noDays "complex"
      else if kinds.contains .float then do
        let _ ← later.toFloat
        let _ ← earlier.toFloat
        noDays "float"
      else if kinds.contains .fraction then noDays "Fraction"
      else noDays "int"
    | _, _ => unsupported

/-- The days from one date to another; datetimes count by their dates and none gives none. -/
def Store.daysBetween (s : Store) (start stop : Value) : Except Fault Value :=
  let datePart : Value → Value
    | .dateTime t => .date t.date
    | w => w
  match s.resolve start, s.resolve stop with
  | .none, _ | _, .none => .ok .none
  | a, b => daysOfDifference (datePart b) (datePart a)

/-- The modulus of a complex number, refusing one too large for a float. -/
def complexModulus (re im : Float) : Except Fault Float :=
  let a := copySign re 1.0
  let b := copySign im 1.0
  if isInfinite a || isInfinite b then .ok (1.0 / 0.0)
  else if isNaN a || isNaN b then .ok (0.0 / 0.0)
  else
    let r := Number.modulus a b
    if isInfinite r then .error (.overflowError "absolute value too large") else .ok r

/-- The absolute value of a number or duration; none gives none. -/
def Store.absolute (s : Store) (v : Value) : Except Fault Value :=
  match s.resolve v with
  | .none => .ok .none
  | .bool b => .ok (.int (if b then 1 else 0))
  | .int n | .textInt n _ => .ok (.int (Int.ofNat n.natAbs))
  | .float x => .ok (.float (copySign x 1.0))
  | .decimal d =>
    match d.abs with
    | .ok r => .ok (.decimal r)
    | .error sig => .error (.decimal sig)
  | .fraction q => .ok (.fraction q.abs)
  | .complex re im => do return .float (← complexModulus re im)
  | .duration d => .ok (.duration (Duration.ofMicros (Int.ofNat d.toMicros.natAbs)))
  | w => .error (.typeError ("bad operand type for abs(): '" ++ w.qualifiedTypeName ++ "'"))

/-- The quantum a decimal is rounded to for a count of places: that of the power
  `10 ^ -places` in the decimal context, which keeps 28 digits, overflows beyond an adjusted
  exponent of 999999 and goes no lower than the exponent -1000026. An integral power `10 ^ k`
  is exact; another has the 28 digits below its leading one. NaN places give that NaN,
  places of minus infinity give infinity, and places of infinity give the exponent zero. -/
def Store.decimalQuantum (s : Store) (places : Value) : Except Fault Decimal.Quantum :=
  let lowest : Int := Number.Decimal.minExponent
  let powerOf (k : Int) : Except Fault Decimal.Quantum :=
    if k > 999999 then .error (.decimal .overflow)
    else .ok (.exponent (if 0 ≤ k then max 0 (k - 27) else max k lowest))
  let noPower (typeName : String) : Except Fault Decimal.Quantum :=
    .error (.typeError ("unsupported operand type(s) for ** or pow(): 'decimal.Decimal' and '" ++
      typeName ++ "'"))
  match s.resolve places with
  | .bool b => powerOf (if b then -1 else 0)
  | .int n | .textInt n _ => powerOf (-n)
  | .decimal d =>
    match d with
    | .finite neg c e =>
      if 0 ≤ e then powerOf (if neg then Int.ofNat (c * Nat.pow 10 e.toNat) else -Int.ofNat (c * Nat.pow 10 e.toNat))
      else
        let unit := Nat.pow 10 (-e).toNat
        let k := if neg then Int.ofNat c else -Int.ofNat c
        if c % unit == 0 then powerOf (k / Int.ofNat unit)
        else
          let lead := k / Int.ofNat unit
          if lead > 999999 then .error (.decimal .overflow)
          else .ok (.exponent (max (lead - 27) lowest))
    | .nan _ true _ => .error (.decimal .invalidOperation)
    | .nan neg _ p => .ok (.nan neg p)
    | .inf neg => .ok (if neg then .infinite else .exponent 0)
  | .float _ => noPower "float"
  | .fraction q => if q.den == 1 then powerOf (-q.num) else noPower "float"
  | .complex .. => noPower "complex"
  | .duration _ => noPower "datetime.timedelta"
  | w => .error (.typeError ("bad operand type for unary -: '" ++ w.qualifiedTypeName ++ "'"))

/-- The number of decimal digits of a natural number. -/
def decimalDigitCount (n : Nat) : Nat := (toString n).length

/-- An integer rounded to a count of places, ties to even; a count far below the integer's
  digits gives zero. -/
def roundIntegerPlaces (n : Int) (places : Int) : Int :=
  if places < 0 && (-places).toNat > decimalDigitCount n.natAbs + 1 then 0
  else roundIntPlaces n places

/-- A fraction rounded to a count of places, ties to even, as a fraction. -/
def roundFractionPlaces (q : Fraction) (places : Int) : Fraction :=
  let shift := Nat.pow 10 places.natAbs
  if places > 0 then Fraction.make (roundRatioEven (q.num * Int.ofNat shift) q.den) shift
  else Fraction.ofInt (roundRatioEven q.num (q.den * shift) * Int.ofNat shift)

/-- A fraction rounded with a float shift `10 ^ |places|`: the work is done in floats. For
  positive places the scaled value is rounded and then refused, since a float is no rational
  denominator; otherwise the rounded quotient times the shift is read back as a fraction. -/
def roundFractionFloatShift (q : Fraction) (shift : Float) (positive : Bool) :
    Except Fault Value := do
  let x ← floatOfRatio q.num q.den
  if positive then
    let _ ← floatToIntEven (x * shift)
    throw (.typeError "both arguments should be Rational instances")
  else
    let k ← floatToIntEven (x / shift)
    let z := floatOfInt k * shift
    match exactValue? z with
    | some (n, d) => return .fraction (Fraction.make n d)
    | Option.none =>
      if isNaN z then throw (.valueError "cannot convert NaN to integer ratio")
      else throw (.overflowError "cannot convert Infinity to integer ratio")

/-- The float power `10 ^ a` of a float, refusing a finite exponent whose power overflows. -/
def tenToFloat (a : Float) : Except Fault Float :=
  let shift := Float.pow 10.0 a
  if isInfinite shift && !isInfinite a && !isNaN a then
    .error (.overflowError "(34, 'Numerical result out of range')")
  else .ok shift

/-- A fraction rounded to places that are not an integer: the shift is `10` to the absolute
  value of the places, an integer power when that is a whole fraction and a float power
  otherwise, and whether the places are positive decides the direction. -/
def Store.roundFractionBy (s : Store) (q : Fraction) (places : Value) : Except Fault Value := do
  let size ← s.absolute places
  match s.resolve places, size with
  | .float p, .float a => roundFractionFloatShift q (← tenToFloat a) (p > 0.0)
  | .fraction p, .fraction a =>
    if a.den == 1 then return .fraction (roundFractionPlaces q p.num)
    else roundFractionFloatShift q (← tenToFloat (← floatOfRatio a.num a.den)) (p.num > 0)
  | .complex .., .float a =>
    let _ ← tenToFloat a
    throw (.typeError "'>' not supported between instances of 'complex' and 'int'")
  | .decimal p, _ =>
    if p.isNaN then throw (.decimal .invalidOperation)
    else
      let positive := match p with
        | .finite neg c _ => !neg && c != 0
        | .inf neg => !neg
        | .nan .. => false
      let op := if positive then "*" else "/"
      throw (.typeError ("unsupported operand type(s) for " ++ op ++
        ": 'Fraction' and 'decimal.Decimal'"))
  | w, _ => throw (.typeError ("unsupported operand type(s) for ** or pow(): 'int' and '" ++
      w.qualifiedTypeName ++ "'"))

/-- A value rounded to a count of places: decimals to the quantum of the places, ties away
  from zero; integers, floats and fractions to the nearest, ties to even, and to an integer
  when the places are none. -/
def Store.roundTo (s : Store) (v places : Value) : Except Fault Value :=
  let count? : Option (Except Fault Int) :=
    match s.resolve places with
    | .none => Option.none
    | .bool b => some (.ok (if b then 1 else 0))
    | .int n | .textInt n _ => some (.ok n)
    | p => some (.error (.typeError ("'" ++ p.qualifiedTypeName ++
        "' object cannot be interpreted as an integer")))
  let integer (n : Int) : Except Fault Value :=
    match count? with
    | Option.none => .ok (.int n)
    | some k => do return .int (roundIntegerPlaces n (← k))
  match s.resolve v with
  | .none => .ok .none
  | .decimal d => do
    let target ← s.decimalQuantum places
    match d.quantizeTo target with
    | .ok r => return .decimal r
    | .error sig => .error (.decimal sig)
  | .bool b => integer (if b then 1 else 0)
  | .int n | .textInt n _ => integer n
  | .float x =>
    match count? with
    | Option.none => do return .int (← floatToIntEven x)
    | some k => do return .float (← roundFloatPlaces x (← k))
  | .fraction q =>
    match count? with
    | Option.none => .ok (.int (roundRatioEven q.num q.den))
    | some (.ok k) => .ok (.fraction (roundFractionPlaces q k))
    | some (.error _) => s.roundFractionBy q places
  | w => .error (.typeError ("type " ++ w.qualifiedTypeName ++ " doesn't define __round__ method"))

/-- The integer below (`up = false`) or above (`up = true`) a real number; none gives none. -/
def Store.toIntegral (s : Store) (v : Value) (up : Bool) : Except Fault Value :=
  match s.resolve v with
  | .none => .ok .none
  | .bool b => .ok (.int (if b then 1 else 0))
  | .int n | .textInt n _ => .ok (.int n)
  | .float x => do return .int (← floatToIntDir x up)
  | .decimal d =>
    match d with
    | .finite neg c e => .ok (.int (Decimal.roundToInt neg c e up))
    | .inf _ => .error (.overflowError "cannot convert Infinity to integer")
    | .nan .. => .error (.valueError "cannot convert NaN to integer")
  | .fraction q => .ok (.int (if up then q.ceil else q.floor))
  | w => .error (.typeError ("must be real number, not " ++ w.qualifiedTypeName))

/-- The values `min`, `max` and `sum` work on: the items of a single list, tuple or set
  argument, or else the arguments, leaving out nones. -/
def Store.candidates (s : Store) (args : List Value) : List Value :=
  let items := match args with
    | [a] =>
      match s.resolve a with
      | .list xs | .tuple xs | .set xs | .frozenSet xs => xs
      | _ => args
    | _ => args
  items.filter fun v => !s.isNone v

/-- The first value not beaten by a later one in a direction: the least for `below`, the
  greatest for `above`; none for no values. -/
def Store.extreme (s : Store) (d : Direction) : List Value → Except Fault Value
  | [] => .ok .none
  | x :: xs => xs.foldlM (fun cur y => do
      if ← s.hostOrdered d y cur then pure y else pure cur) x

/-- The sum of values from the integer zero, by host addition. -/
def Store.total (s : Store) (xs : List Value) : Except Fault Value :=
  xs.foldlM (fun acc y => hostAdd acc (s.resolve y)) (.int 0)

/-- Whether a collection holds an item: a substring test on text, the host membership test
  otherwise; none holds nothing. -/
def Store.holds (s : Store) (coll item : Value) : Except Fault Bool :=
  match s.resolve coll with
  | .none => .ok false
  | .str t =>
    if s.isNone item then .ok false
    else do return occursIn (← s.display item).toList t.toList
  | _ => s.hostContains coll item

/-- The first (`fromEnd = false`) or last item that iterating a value gives; none for a value
  that is false as a host condition or gives no items. -/
def Store.endItem (s : Store) (v : Value) (fromEnd : Bool) : Except Fault Value :=
  if !s.hostTruth v then .ok .none
  else do
    let xs ← s.iterate v
    return ((if fromEnd then xs.getLast? else xs.head?).getD .none)

/-- The UTC datetime of a clock reading in microseconds since the epoch. -/
def clockDateTime (clock : Int) : Except Fault DateTime :=
  match DateTime.ofEpochMicros clock with
  | .ok t => .ok t
  | .error y => .error (.valueError ("year " ++ toString y ++ " is out of range"))

/-- Calls a library function on argument values, with the clock reading (microseconds since
  the epoch) that `now` and `today` report. -/
def Lang.Builtin.apply (b : Builtin) (s : Store) (clock : Int) (args : List Value) :
    Except Fault Value :=
  match b.signature.countError? args.length with
  | some msg => .error (.typeError msg)
  | Option.none =>
  let a0 := args.getD 0 .none
  let a1 := args.getD 1 .none
  let bool (r : Except Fault Bool) : Except Fault Value := r.map Value.bool
  match b with
  | .len | .size => .ok (.int ((s.resolve a0).size?.getD 0))
  | .isEmpty =>
    .ok (.bool (match s.resolve a0 with
      | .none => true
      | .str t => (Text.trimBlank t).isEmpty
      | w => w.size? == some 0))
  | .trim => do return .str (Text.trimBlank (← s.plainText a0))
  | .upper => do return .str (Text.upperText (← s.plainText a0))
  | .lower => do return .str (Text.lowerText (← s.plainText a0))
  | .startsWith =>
    if s.isNone a0 then .ok (.bool false)
    else do
      let text ← s.display a0
      bool (s.affixTest "startswith" (fun p => text.startsWith p) a1)
  | .endsWith =>
    if s.isNone a0 then .ok (.bool false)
    else do
      let text ← s.display a0
      bool (s.affixTest "endswith" (fun p => text.endsWith p) a1)
  | .matches => bool (s.patternSearch a0 a1)
  | .now => do return .dateTime (← clockDateTime clock)
  | .today => do return .date (← clockDateTime clock).date
  | .fromTimestamp => s.instantOfMillis a0
  | .year | .month | .day => if s.isNone a0 then .ok .none else s.getAttribute a0 b.name
  | .daysBetween => s.daysBetween a0 a1
  | .abs => s.absolute a0
  | .round => s.roundTo a0 (args.getD 1 (.int 0))
  | .floor => s.toIntegral a0 false
  | .ceil => s.toIntegral a0 true
  | .min => s.extreme .below (s.candidates args)
  | .max => s.extreme .above (s.candidates args)
  | .sum => s.total (s.candidates args)
  | .contains => bool (s.holds a0 a1)
  | .first => s.endItem a0 false
  | .last => s.endItem a0 true
  | .keys =>
    .ok (.list (match s.resolve a0 with
      | .dict es => es.map (·.1)
      | _ => []))
  | .coalesce => .ok ((args.find? fun v => !s.isNone v).getD .none)
  | .ifThen => .ok (if s.hostTruth a0 then a1 else args.getD 2 .none)

end FieldRules
