import FieldRules.Lang.Expr
import FieldRules.Value.Access
import FieldRules.Value.Order
import FieldRules.Value.Number

/-! # Operators of the rule language on host values

Equality and order treat none apart: none equals only none and sorts before everything.
Numbers of rule arithmetic (integers, floats and decimals, not truth values) are equal and
ordered as floats, so a NaN is neither below nor above anything, and an integer too large for
a float is an error. A date meets a datetime as the datetime's date. Beyond numbers and dates
only texts are ordered; other pairs cannot be compared.

Membership on text is a substring test of the item's text; on sequences, byte strings,
dictionaries and sets it is the host test, where a type error means no. Arithmetic lets none
through, joins texts with `+` (the other operand by its text), and otherwise takes numbers of
rule arithmetic only; dividing by zero and taking a remainder by zero are errors of their
own. Negation lets none through and takes numbers only.

Member access reads a dictionary entry or an attribute, index access a dictionary entry, an
item of a sequence or text at an index within bounds, or an attribute named by a text; what
is missing is none. -/

namespace FieldRules.Lang

/-- Why evaluating a rule fails. -/
inductive EvalError where
  | cannotCompare (left right : String)
  | cannotApply (op left right : String)
  | divisionByZero
  | moduloByZero
  | cannotNegate (shown : String)
  | unknownFunction (name : String)
  | notCollection (typeName : String)
  /-- A library function failed. -/
  | callFailed (name : String) (fault : Fault)
  /-- A host operation refused its operands' types; its own text is the message. -/
  | refused (msg : String)
  /-- Any other failure of a host operation, reported with its kind. -/
  | escaped (fault : Fault)
  /-- A snippet meant to build a value gave none. -/
  | noValue (snippet : String)
deriving Inhabited

/-- The text of an evaluation error. -/
def EvalError.message : EvalError → String
  | .cannotCompare l r => "Cannot compare " ++ l ++ " and " ++ r
  | .cannotApply op l r => "Cannot apply '" ++ op ++ "' to " ++ l ++ " and " ++ r
  | .divisionByZero => "Division by zero"
  | .moduloByZero => "Modulo by zero"
  | .cannotNegate shown => "Cannot negate non-numeric value: " ++ shown
  | .unknownFunction n => "Unknown function: " ++ n
  | .notCollection t => "'in' operator requires collection, got " ++ t
  | .callFailed n f => "Error calling " ++ n ++ ": " ++ f.message
  | .refused m => m
  | .escaped f => f.kind ++ ": " ++ f.message
  | .noValue snippet => "snippet " ++ Text.quoteText snippet ++ " did not produce a value"

/-- A host fault inside an operator: type errors are reported by their text, others with
  their kind. -/
def EvalError.ofHost : Fault → EvalError
  | .typeError m => .refused m
  | f => .escaped f

/-- Whether a value is text. -/
def isText : Value → Bool
  | .str _ => true
  | _ => false

/-- Dates and datetimes made comparable: a datetime meeting a plain date stands for its
  date. None unless both are dates or datetimes. -/
def alignDates : Value → Value → Option (Value × Value)
  | .dateTime x, .date y => some (.date x.date, .date y)
  | .date x, .dateTime y => some (.date x, .date y.date)
  | .date x, .date y => some (.date x, .date y)
  | .dateTime x, .dateTime y => some (.dateTime x, .dateTime y)
  | _, _ => none

/-- The floats of two numbers of rule arithmetic. -/
def floatPair (a b : Value) : Except EvalError (Float × Float) :=
  match a.toFloat, b.toFloat with
  | .ok x, .ok y => .ok (x, y)
  | .error f, _ | _, .error f => .error (.escaped f)

/-- Rule equality. -/
def ruleEquals (s : Store) (a b : Value) : Except EvalError Bool :=
  match s.resolve a, s.resolve b with
  | .none, .none => .ok true
  | .none, _ | _, .none => .ok false
  | ra, rb =>
    if ra.isRuleNumber && rb.isRuleNumber then do
      let (x, y) ← floatPair ra rb
      return x == y
    else
      match alignDates ra rb with
      | some (da, db) => .ok (s.equal da db)
      | none => (s.ruleEqual a b).mapError .escaped

/-- Rule order as `1`, `0` or `-1`: whether the left operand is above, neither, or below the
  right one. -/
def ruleCompare (s : Store) (a b : Value) : Except EvalError Int :=
  let sign (gt lt : Bool) : Int := (if gt then 1 else 0) - (if lt then 1 else 0)
  let hostSign (x y : Value) : Except EvalError Int := do
    let gt ← (s.hostOrdered .above x y).mapError EvalError.ofHost
    let lt ← (s.hostOrdered .below x y).mapError EvalError.ofHost
    return sign gt lt
  match s.resolve a, s.resolve b with
  | .none, .none => .ok 0
  | .none, _ => .ok (-1)
  | _, .none => .ok 1
  | ra, rb =>
    if ra.isRuleNumber && rb.isRuleNumber then do
      let (x, y) ← floatPair ra rb
      return sign (x > y) (x < y)
    else
      match alignDates ra rb with
      | some (da, db) => hostSign da db
      | none =>
        if isText ra && isText rb then hostSign ra rb
        else .error (.cannotCompare ra.typeName rb.typeName)

/-- Whether an ordering answer from `ruleCompare` satisfies a comparison operator. -/
def orderHolds (op : BinOp) (o : Int) : Bool :=
  match op with
  | .lt => o < 0
  | .lte => o ≤ 0
  | .gt => o > 0
  | .gte => o ≥ 0
  | _ => false

/-- Rule membership of an item in a collection. -/
def ruleIn (s : Store) (item coll : Value) : Except EvalError Bool :=
  match s.resolve coll with
  | .none => .ok false
  | .str t =>
    if s.isNone item then .ok false
    else do return occursIn (← (s.display item).mapError .escaped).toList t.toList
  | .list _ | .tuple _ | .deque _ | .bytes _ | .byteArray _ | .dict _ | .set _ | .frozenSet _ =>
    match s.hostContains coll item with
    | .ok r => .ok r
    | .error (.typeError _) => .ok false
    | .error f => .error (.escaped f)
  | w => .error (.notCollection w.typeName)

/-- Rule arithmetic. -/
def ruleArithmetic (s : Store) (op : ArithOp) (a b : Value) : Except EvalError Value :=
  match s.resolve a, s.resolve b with
  | .none, _ | _, .none => .ok .none
  | ra, rb =>
    if op == .add && (isText ra || isText rb) then
      (do return Value.str ((← s.display a) ++ (← s.display b))).mapError .escaped
    else if !(ra.isRuleNumber && rb.isRuleNumber) then
      .error (.cannotApply op.symbol ra.typeName rb.typeName)
    else if op == .div && rb.isNumericZero then .error .divisionByZero
    else if op == .mod && rb.isNumericZero then .error .moduloByZero
    else (ruleArith op ra rb).mapError EvalError.ofHost

/-- Rule negation. -/
def ruleNegation (s : Store) (v : Value) : Except EvalError Value :=
  match s.resolve v with
  | .none => .ok .none
  | w =>
    if w.isRuleNumber then (ruleNegate w).mapError .escaped
    else do .error (.cannotNegate (← (s.source v).mapError .escaped))

/-- The arithmetic operator of a binary operator, if it is one. -/
def BinOp.arith? : BinOp → Option ArithOp
  | .add => some .add | .sub => some .sub | .mul => some .mul | .div => some .div
  | .mod => some .mod
  | _ => none

/-- A binary operator other than the logical ones on two evaluated operands. -/
def applyBinary (s : Store) (op : BinOp) (a b : Value) : Except EvalError Value :=
  match op with
  | .eq => do return .bool (← ruleEquals s a b)
  | .neq => do return .bool !(← ruleEquals s a b)
  | .lt | .lte | .gt | .gte => do return .bool (orderHolds op (← ruleCompare s a b))
  | .mem => do return .bool (← ruleIn s a b)
  | .notMem => do return .bool !(← ruleIn s a b)
  | .and => (do return Value.bool ((← s.truth a) && (← s.truth b))).mapError .escaped
  | .or => (do return Value.bool ((← s.truth a) || (← s.truth b))).mapError .escaped
  | op =>
    match op.arith? with
    | some aop => ruleArithmetic s aop a b
    | none => .ok .none

/-- A member of a value: the entry of a dictionary under the name, or the attribute. -/
def memberOf (s : Store) (obj : Value) (name : String) : Value :=
  match s.resolve obj with
  | .none => .none
  | .dict es => (s.lookup es (.str name)).getD .none
  | w => (s.attribute? w name).getD .none

/-- The item at an integer index within bounds. -/
def itemAt (items : List Value) (key : Value) : Value :=
  match key with
  | .int n | .textInt n _ => if 0 ≤ n then items.getD n.toNat .none else .none
  | _ => .none

/-- An index into a value: a dictionary entry (an unhashable key is a host fault), an item of
  a sequence, text or byte string, or an attribute named by a text. -/
def indexOf (s : Store) (obj key : Value) : Except Fault Value :=
  let k := s.resolve key
  match s.resolve obj with
  | .none => .ok .none
  | .dict es =>
    match s.unhashable key with
    | some t => .error (unhashableFault t)
    | none => .ok ((s.lookup es key).getD .none)
  | .list xs | .tuple xs | .deque xs => .ok (itemAt xs k)
  | .str t => .ok (itemAt (t.toList.map fun c => .str (String.singleton c)) k)
  | .bytes d | .byteArray d => .ok (itemAt (d.map fun b => .int b.toNat) k)
  | w =>
    match k with
    | .str name => .ok (memberOf s w name)
    | _ => .ok .none

end FieldRules.Lang
