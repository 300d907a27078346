import FieldRules.Value.Text
import FieldRules.Value.Compare

/-! # Facts about host values

The shape of a value for the walk over a value graph (`NodeKind`), one level of unwrapping,
the label of its type with the types of its items, its truth for rules, its truth as a host
value, whether it is the zero of its type, its size, and the text a pattern is matched
against.

An object with a `__wrapped__` attribute is a transparent wrapper like a proxy. The truth of a
number for rules and its being zero compare it with zero, which a signaling NaN refuses. A
label is refused for a value that contains itself, since labelling it never ends. -/

namespace FieldRules

/-- The shapes a value graph walk tells apart. -/
inductive NodeKind where
  | leaf | sequence | associative | reference | polymorphic | record | temporal
deriving Inhabited, BEq, DecidableEq

/-- The name of a node kind. -/
def NodeKind.name : NodeKind → String
  | .leaf => "leaf" | .sequence => "sequence" | .associative => "associative"
  | .reference => "reference" | .polymorphic => "polymorphic" | .record => "record"
  | .temporal => "opaque"

/-- The shape of a (resolved) value: empty and referring values, date-like opaque values,
  records, mappings, sequences and sets, transparent proxies, and leaves for the rest. -/
def Value.kind : Value → NodeKind
  | .none | .handle _ | .weakRef _ => .reference
  | .date _ | .dateTime _ | .time _ | .duration _ => .temporal
  | .record .. => .record
  | .dict _ => .associative
  | .list _ | .tuple _ | .set _ | .frozenSet _ | .deque _ => .sequence
  | .proxy _ => .polymorphic
  | .object _ attrs => if (attrs.lookup "__wrapped__").isSome then .polymorphic else .leaf
  | _ => .leaf

/-- Whether a value is a record. -/
def Value.isRecord : Value → Bool
  | .record .. => true
  | _ => false

/-- One level of unwrapping: the value behind a handle, a weak reference (none when dead), a
  proxy or an object that wraps one; other values stay as they are. -/
def Value.unwrap : Value → Value
  | .handle v => v
  | .weakRef t => t.getD .none
  | .proxy v => v
  | .object t attrs => (attrs.lookup "__wrapped__").getD (.object t attrs)
  | v => v

/-- The items of a sized container, text and bytes aside. -/
def Value.items? : Value → Option (List Value)
  | .list xs | .tuple xs | .set xs | .frozenSet xs | .deque xs => some xs
  | _ => Option.none

/-- The number of items of a sized value: characters, bytes, items or entries. -/
def Value.size? : Value → Option Nat
  | .str s => some s.length
  | .bytes d | .byteArray d => some d.length
  | .list xs | .tuple xs | .set xs | .frozenSet xs | .deque xs => some xs.length
  | .dict es => some es.length
  | _ => Option.none

/-- Whether a value is the zero of a number type or an empty text or built-in container;
  comparing a signaling NaN with zero signals an invalid operation. -/
def Value.isZero (v : Value) : Except Fault Bool :=
  if v.isSignalingNaN then .error (.decimal .invalidOperation)
  else
    match v.numeric? with
    | some (re, im) => .ok (re.isZero && im.isZero)
    | Option.none =>
      match v.size? with
      | some n => .ok (n == 0)
      | Option.none => .ok false

/-- The truth of a value as a rule result: none is false, numbers (not complex or fraction) are
  true unless zero, text and the list, tuple, set and dictionary containers are true unless
  empty, and every other value is true. A signaling NaN cannot be compared with zero and
  signals an invalid operation. -/
def Value.truth : Value → Except Fault Bool
  | .none => .ok false
  | .bool b => .ok b
  | .int n | .textInt n _ => .ok (n != 0)
  | .float x => .ok !(ExtReal.ofFloat x).isZero
  | .decimal d =>
    if (Value.decimal d).isSignalingNaN then .error (.decimal .invalidOperation)
    else .ok !(ExtReal.ofDecimal d).isZero
  | .str s => .ok !s.isEmpty
  | .list xs | .tuple xs | .set xs | .frozenSet xs => .ok !xs.isEmpty
  | .dict es => .ok !es.isEmpty
  | _ => .ok true

/-- The truth of a value as a host condition: zero numbers, empty texts and containers, a
  zero duration and none are false; everything else is true. -/
def Value.hostTruth (v : Value) : Bool :=
  match v with
  | .none => false
  | .duration d => d.toMicros != 0
  | _ =>
    match v.numeric? with
    | some (re, im) => !(re.isZero && im.isZero)
    | Option.none =>
      match v.size? with
      | some n => n != 0
      | Option.none => true

/-- The label shared by all labels, or `Any` when they differ or there are none. -/
def commonLabel : List String → String
  | [] => "Any"
  | l :: ls => if ls.all (· == l) then l else "Any"

mutual

/-- The type label of a value: its type with the labels of its items. `path` holds the shared
  containers being labelled; meeting one of them again refuses the label. -/
def Store.labelOf (s : Store) (budget : Nat) (path : List Nat) : Value → Except Fault String
  | .none => .ok "None"
  | .dict es => do
    let keys ← s.keyLabels budget path es
    let values ← s.entryLabels budget path es
    return "dict[" ++ commonLabel keys ++ ", " ++ commonLabel values ++ "]"
  | .tuple xs => do return "tuple[" ++ commonLabel (← s.labelsOf budget path xs) ++ ", ...]"
  | .list xs => do return "list[" ++ commonLabel (← s.labelsOf budget path xs) ++ "]"
  | .set xs => do return "set[" ++ commonLabel (← s.labelsOf budget path xs) ++ "]"
  | .frozenSet xs => do return "frozenset[" ++ commonLabel (← s.labelsOf budget path xs) ++ "]"
  | .deque xs => do return "deque[" ++ commonLabel (← s.labelsOf budget path xs) ++ "]"
  | .byteArray b => .ok (if b.isEmpty then "bytearray[Any]" else "bytearray[int]")
  | .shared l =>
    if path.contains l then .error .comparisonTooDeep
    else
      match budget with
      | 0 => .ok "Any"
      | k + 1 => s.labelOf k (l :: path) ((s.get? l).getD .none)
  | v => .ok v.typeName
termination_by v => (budget, sizeOf v)

/-- The labels of items. -/
def Store.labelsOf (s : Store) (budget : Nat) (path : List Nat) :
    List Value → Except Fault (List String)
  | [] => .ok []
  | x :: xs => do
    let l ← s.labelOf budget path x
    return l :: (← s.labelsOf budget path xs)
termination_by xs => (budget, sizeOf xs)

/-- The labels of the keys of dictionary entries. -/
def Store.keyLabels (s : Store) (budget : Nat) (path : List Nat) :
    List (Value × Value) → Except Fault (List String)
  | [] => .ok []
  | (k, _) :: es => do
    let l ← s.labelOf budget path k
    return l :: (← s.keyLabels budget path es)
termination_by es => (budget, sizeOf es)

/-- The labels of the values of dictionary entries. -/
def Store.entryLabels (s : Store) (budget : Nat) (path : List Nat) :
    List (Value × Value) → Except Fault (List String)
  | [] => .ok []
  | (_, v) :: es => do
    let l ← s.labelOf budget path v
    return l :: (← s.entryLabels budget path es)
termination_by es => (budget, sizeOf es)

end

/-- The type label of a value, as result lines show it. -/
def Store.describe (s : Store) (v : Value) : Except Fault String :=
  s.labelOf (s.cells.size + 1) [] v

/-- The text a pattern is matched against: text as it is, truth values as `true` and
  `false`, and the display text of everything else. -/
def Store.matchText (s : Store) (v : Value) : Except Fault String :=
  match s.resolve v with
  | .str t => .ok t
  | .bool b => .ok (if b then "true" else "false")
  | _ => s.display v

/-- What the facts of a value answer, in the order they are computed. -/
structure ValueFacts where
  label : String
  /-- The text a pattern is matched against; none for a weak reference. -/
  matchText : Option String
  isZero : Bool
  truth : Bool
  kind : NodeKind
  isRecord : Bool
  unwrapped : Value

/-- The facts of a value: its label, match text, zeroness, truth, kind, whether it is a record,
  and the value one level of wrapping below; the first refusal among them, in that order,
  refuses them all. -/
def Store.facts (s : Store) (v : Value) : Except Fault ValueFacts := do
  let w := s.resolve v
  let label ← s.describe v
  let text ← match w with
    | .weakRef _ => pure Option.none
    | _ => some <$> s.matchText v
  let zero ← w.isZero
  let truth ← w.truth
  let unwrapped := match w.kind with
    | .reference | .polymorphic => w.unwrap
    | _ => v
  return ⟨label, text, zero, truth, w.kind, w.isRecord, unwrapped⟩

end FieldRules
