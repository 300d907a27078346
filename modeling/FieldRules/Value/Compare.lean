import FieldRules.Value.Basic
import FieldRules.Value.Fault

/-! # Equality, order and hashing of host values

Numbers of every kind are equal when they denote the same complex number exactly: an integer,
a float, a decimal and a fraction are compared as exact rationals, a NaN equals nothing, and
a complex number equals a real one when its imaginary part is zero. Text equals text, byte
strings of either kind equal each other byte for byte, sequences of one kind compare item by
item, sets by their elements, dictionaries by their keys and values in any order. Dates,
datetimes, times and durations compare as instants where both carry an offset and as wall
times where neither does; a naive and an aware value are never equal. Records are equal when
their classes are one and their slots are equal, live weak references when their referents
are, and members of an enumeration when they are one member of one class. Proxies, handles,
opaque objects and dead weak references have identity: each lives in the store, and is equal
only to itself. A stored value always equals itself, even one, such as a NaN, that its kind
makes unequal to itself.

Comparison as the rule language performs it can fail: a signaling NaN compared with a number
signals, and a comparison of cyclic values that would never end is refused as too deep. It
may enter stored values as often as any comparison with one finite side needs
(`Store.compareBudget`), and a comparison that goes further is one that never ends.

Order is defined between real numbers, between texts, between byte strings, between
sequences of one kind (lexicographically), between sets (as subsets), and between dates,
datetimes, times and durations of one kind; any other pair is a type error.

A value can be used as a dictionary key or set element unless it is, or holds inside a tuple,
frozen set or record key, a list, dictionary, set, bytearray, deque or a record of an unfrozen
class. -/

namespace FieldRules

/-- An extended real: a fraction, an infinity, or NaN. -/
inductive ExtReal where
  | finite (num : Int) (den : Nat)
  | posInf
  | negInf
  | nan
deriving Inhabited

namespace ExtReal

/-- The extended real of a float. -/
def ofFloat (x : Float) : ExtReal :=
  match Number.Binary64.ofFloat x with
  | .nan => .nan
  | .inf neg => if neg then .negInf else .posInf
  | .finite neg m e =>
    let (n, d) := Number.exactFraction neg m e
    .finite n d

/-- The extended real of a decimal. -/
def ofDecimal : Number.Decimal → ExtReal
  | .finite neg c e =>
    let (n, d) := Number.Decimal.toFraction neg c e
    .finite n d
  | .inf neg => if neg then .negInf else .posInf
  | .nan .. => .nan

/-- Exact comparison: `some ordering`, or `none` when either side is NaN. -/
def cmp : ExtReal → ExtReal → Option Ordering
  | .nan, _ => none
  | _, .nan => none
  | .posInf, .posInf => some .eq
  | .negInf, .negInf => some .eq
  | .posInf, _ => some .gt
  | _, .posInf => some .lt
  | .negInf, _ => some .lt
  | _, .negInf => some .gt
  | .finite a b, .finite c d => some (compare (a * Int.ofNat d) (c * Int.ofNat b))

/-- Exact equality; NaN equals nothing. -/
def eq (a b : ExtReal) : Bool := cmp a b == some .eq

/-- Whether an extended real is zero. -/
def isZero : ExtReal → Bool
  | .finite n _ => n == 0
  | _ => false

end ExtReal

/-- Whether a value is unequal to itself: a float NaN, a complex number with a NaN part, or a
  decimal NaN. Such a value keeps its identity, so that a container that holds the very same one
  twice still equals itself. -/
def Value.isSelfUnequal : Value → Bool
  | .float x => x.isNaN
  | .complex re im => re.isNaN || im.isNaN
  | .decimal d => d.isNaN
  | _ => false

mutual

/-- Stores every value unequal to itself inside `v`, not entering stored values, so that each
  use of `v` afterwards meets the very same value: a NaN bound to a name equals itself inside
  containers, as one object does. -/
def Store.withIdentity (s : Store) : Value → Store × Value
  | .list xs => let (s, ys) := s.withIdentityAll xs; (s, .list ys)
  | .tuple xs => let (s, ys) := s.withIdentityAll xs; (s, .tuple ys)
  | .set xs => let (s, ys) := s.withIdentityAll xs; (s, .set ys)
  | .frozenSet xs => let (s, ys) := s.withIdentityAll xs; (s, .frozenSet ys)
  | .deque xs => let (s, ys) := s.withIdentityAll xs; (s, .deque ys)
  | .record c xs => let (s, ys) := s.withIdentityAll xs; (s, .record c ys)
  | .dict es => let (s, fs) := s.withIdentityEntries es; (s, .dict fs)
  | v => if v.isSelfUnequal then let (s, l) := s.add v; (s, .shared l) else (s, v)

/-- `withIdentity` over items, in order. -/
def Store.withIdentityAll (s : Store) : List Value → Store × List Value
  | [] => (s, [])
  | x :: xs =>
    let (s, y) := s.withIdentity x
    let (s, ys) := s.withIdentityAll xs
    (s, y :: ys)

/-- `withIdentity` over the keys and values of entries, in order. -/
def Store.withIdentityEntries (s : Store) : List (Value × Value) → Store × List (Value × Value)
  | [] => (s, [])
  | (k, v) :: es =>
    let (s, k') := s.withIdentity k
    let (s, v') := s.withIdentity v
    let (s, fs) := s.withIdentityEntries es
    (s, (k', v') :: fs)

end

/-- Whether a value is a signaling NaN. -/
def Value.isSignalingNaN : Value → Bool
  | .decimal (.nan _ true _) => true
  | _ => false

/-- Whether a decimal compares itself with a value as a number: integers, truth values, floats,
  decimals, fractions, and complex numbers without an imaginary part. -/
def Value.comparesAsNumber : Value → Bool
  | .int _ | .bool _ | .textInt .. | .float _ | .decimal _ | .fraction _ => true
  | .complex _ im => im == 0.0
  | _ => false

/-- Whether comparing two values for equality signals an invalid operation: a signaling NaN
  compared with a number. -/
def signalsOnEquality (a b : Value) : Bool :=
  (a.isSignalingNaN && b.comparesAsNumber) || (b.isSignalingNaN && a.comparesAsNumber)

/-- The exact complex number a numeric value denotes, as real and imaginary parts. -/
def Value.numeric? : Value → Option (ExtReal × ExtReal)
  | .bool b => some (.finite (if b then 1 else 0) 1, .finite 0 1)
  | .int n => some (.finite n 1, .finite 0 1)
  | .textInt n _ => some (.finite n 1, .finite 0 1)
  | .float x => some (.ofFloat x, .finite 0 1)
  | .decimal d => some (.ofDecimal d, .finite 0 1)
  | .fraction q => some (.finite q.num q.den, .finite 0 1)
  | .complex re im => some (.ofFloat re, .ofFloat im)
  | _ => Option.none

/-- The real number a value denotes, for integers, truth values, floats, decimals and
  fractions. -/
def Value.real? : Value → Option ExtReal
  | .complex .. => Option.none
  | v => v.numeric?.map (·.1)

/-- The bytes of a byte string of either kind. -/
def Value.byteData? : Value → Option (List UInt8)
  | .bytes d => some d
  | .byteArray d => some d
  | _ => Option.none

/-- Equality of times of day: wall times when both are naive, UTC times when both carry an
  offset, never otherwise. -/
def timeEq (a b : Time.TimeOfDay) : Bool :=
  match a.offset, b.offset with
  | none, none => a.clock == b.clock
  | some x, some y => a.clock.micros - x == b.clock.micros - y
  | _, _ => false

/-- Equality of datetimes: wall times when both are naive, instants when both are aware. -/
def dateTimeEq (a b : Time.DateTime) : Bool :=
  match a.offset, b.offset with
  | none, none => a.wallMicros == b.wallMicros
  | some _, some _ => a.utcMicros == b.utcMicros
  | _, _ => false

mutual

/-- Equality of host values, following shared references at most `budget` times on a path. -/
def Store.eqv (s : Store) (budget : Nat) (a b : Value) : Bool :=
  match a, b with
  | .shared l, .shared l' =>
    if l == l' then true
    else
      match budget with
      | 0 => false
      | k + 1 => s.eqv k ((s.get? l).getD .none) ((s.get? l').getD .none)
  | .shared l, _ =>
    match budget with
    | 0 => false
    | k + 1 => s.eqv k ((s.get? l).getD .none) b
  | _, .shared l' =>
    match budget with
    | 0 => false
    | k + 1 => s.eqv k a ((s.get? l').getD .none)
  | .none, .none => true
  | .str x, .str y => x == y
  | .list xs, .list ys => s.eqvList budget xs ys
  | .tuple xs, .tuple ys => s.eqvList budget xs ys
  | .deque xs, .deque ys => s.eqvList budget xs ys
  | .set xs, .set ys => s.sameMembers budget xs ys && s.sameMembers budget ys xs
  | .set xs, .frozenSet ys => s.sameMembers budget xs ys && s.sameMembers budget ys xs
  | .frozenSet xs, .set ys => s.sameMembers budget xs ys && s.sameMembers budget ys xs
  | .frozenSet xs, .frozenSet ys => s.sameMembers budget xs ys && s.sameMembers budget ys xs
  | .dict xs, .dict ys =>
    xs.length == ys.length && s.entriesWithin budget xs ys
  | .record c xs, .record c' ys => c == c' && s.eqvList budget xs ys
  | .weakRef (some x), .weakRef (some y) => s.eqv budget x y
  | .enumMember c n _ m, .enumMember c' n' _ m' => c == c' && n == n' && s.eqvTable budget m m'
  | .attribute o n _, .attribute o' n' _ => o == o' && n == n'
  | .date x, .date y => x == y
  | .dateTime x, .dateTime y => dateTimeEq x y
  | .time x, .time y => timeEq x y
  | .duration x, .duration y => x == y
  | x, y =>
    match x.byteData?, y.byteData? with
    | some p, some q => p == q
    | _, _ =>
      match x.numeric?, y.numeric? with
      | some (r1, i1), some (r2, i2) => r1.eq r2 && i1.eq i2
      | _, _ => false
termination_by (budget, sizeOf a + sizeOf b)

/-- Item-by-item equality of two lists. -/
def Store.eqvList (s : Store) (budget : Nat) : List Value → List Value → Bool
  | [], [] => true
  | x :: xs, y :: ys => s.eqv budget x y && s.eqvList budget xs ys
  | _, _ => false
termination_by xs ys => (budget, sizeOf xs + sizeOf ys)

/-- Whether every member of the first list equals some member of the second. -/
def Store.sameMembers (s : Store) (budget : Nat) : List Value → List Value → Bool
  | [], _ => true
  | x :: xs, ys => s.memberOf budget x ys && s.sameMembers budget xs ys
termination_by xs ys => (budget, sizeOf xs + sizeOf ys)

/-- Whether a value equals some member of a list. -/
def Store.memberOf (s : Store) (budget : Nat) (x : Value) : List Value → Bool
  | [] => false
  | y :: ys => s.eqv budget x y || s.memberOf budget x ys
termination_by ys => (budget, sizeOf x + sizeOf ys)

/-- Whether every entry of the first dictionary has an equal key in the second with an equal
  value. -/
def Store.entriesWithin (s : Store) (budget : Nat) :
    List (Value × Value) → List (Value × Value) → Bool
  | [], _ => true
  | (k, v) :: rest, ys => s.entryIn budget k v ys && s.entriesWithin budget rest ys
termination_by xs ys => (budget, sizeOf xs + sizeOf ys)

/-- Whether a dictionary holds a key equal to `k` whose value equals `v`. -/
def Store.entryIn (s : Store) (budget : Nat) (k v : Value) : List (Value × Value) → Bool
  | [] => false
  | (k', v') :: rest =>
    if s.eqv budget k k' then s.eqv budget v v' else s.entryIn budget k v rest
termination_by ys => (budget, sizeOf k + sizeOf v + sizeOf ys)

/-- Equality of the member tables of two enumerations: one name, alias target and value at
  each place. -/
def Store.eqvTable (s : Store) (budget : Nat) :
    List (String × String × Value) → List (String × String × Value) → Bool
  | [], [] => true
  | (n, m, x) :: xs, (n', m', y) :: ys =>
    n == n' && m == m' && s.eqv budget x y && s.eqvTable budget xs ys
  | _, _ => false
termination_by xs ys => (budget, sizeOf xs + sizeOf ys)

end

/-- Equality of two host values. -/
def Store.equal (s : Store) (a b : Value) : Bool := s.eqv (s.cells.size + 1) a b

mutual

/-- The depth of containers and wrappers in a value, not entering stored values. -/
def Value.depth : Value → Nat
  | .list xs | .tuple xs | .set xs | .frozenSet xs | .deque xs | .record _ xs =>
    Value.depthOfItems xs + 1
  | .dict es => Value.depthOfEntries es + 1
  | .proxy t | .handle t | .weakRef (some t) | .enumMember _ _ t _ => t.depth + 1
  | .object _ attrs => Value.depthOfAttributes attrs + 1
  | _ => 0

/-- The greatest depth among items. -/
def Value.depthOfItems : List Value → Nat
  | [] => 0
  | x :: xs => max x.depth (Value.depthOfItems xs)

/-- The greatest depth among the keys and values of entries. -/
def Value.depthOfEntries : List (Value × Value) → Nat
  | [] => 0
  | (k, v) :: es => max (max k.depth v.depth) (Value.depthOfEntries es)

/-- The greatest depth among attribute values. -/
def Value.depthOfAttributes : List (String × Value) → Nat
  | [] => 0
  | (_, v) :: es => max v.depth (Value.depthOfAttributes es)

end

/-- How many stored values a comparison of `a` and `b` may enter on one path: enough for
  every comparison with a finite side. Along such a comparison each finite-side value is
  entered at most once, and the other side enters a stored value at most once per level that
  both sides descend together, of which there are at most `(cells + 1) · (depth + 1)`. -/
def Store.compareBudget (s : Store) (a b : Value) : Nat :=
  let deepest := s.cells.foldl (fun m v => max m v.depth) (max a.depth b.depth)
  (s.cells.size + 1) * (deepest + 2)

/-- The fault of a comparison of cyclic values that never ends. -/
def Fault.comparisonTooDeep : Fault := .recursion "maximum recursion depth exceeded in comparison"

mutual

/-- Equality as the rule language compares host values that are not both numbers: as `eqv`,
  except that a signaling NaN compared with a number signals an invalid operation, and that
  entering more than `budget` stored values on a path is refused as a comparison that never
  ends. Sequences of equal length and records of one class compare their items in order, a
  very same stored item being equal at once, and the first unequal pair decides; a validated
  model compares its private attributes before its fields. A dictionary looks up each of its
  keys in the other and compares the values, and live weak references compare their
  referents. -/
def Store.eqvSignaling (s : Store) (budget : Nat) (a b : Value) : Except Fault Bool :=
  match a, b with
  | .shared l, .shared l' =>
    if l == l' then .ok true
    else
      match budget with
      | 0 => .error .comparisonTooDeep
      | k + 1 => s.eqvSignaling k ((s.get? l).getD .none) ((s.get? l').getD .none)
  | .shared l, _ =>
    match budget with
    | 0 => .error .comparisonTooDeep
    | k + 1 => s.eqvSignaling k ((s.get? l).getD .none) b
  | _, .shared l' =>
    match budget with
    | 0 => .error .comparisonTooDeep
    | k + 1 => s.eqvSignaling k a ((s.get? l').getD .none)
  | .list xs, .list ys | .tuple xs, .tuple ys | .deque xs, .deque ys =>
    if xs.length != ys.length then .ok false else s.itemsSignaling budget (fun _ => true) 0 xs ys
  | .record c xs, .record c' ys =>
    if c != c' then .ok false
    else if c.kind == .model then do
      let n := c.fields.length
      if ← s.itemsSignaling budget (n ≤ ·) 0 xs ys then s.itemsSignaling budget (· < n) 0 xs ys
      else return false
    else s.itemsSignaling budget (fun _ => true) 0 xs ys
  | .dict xs, .dict ys =>
    if xs.length != ys.length then .ok false else s.entriesSignaling budget xs ys
  | .weakRef (some x), .weakRef (some y) => s.eqvSignaling budget x y
  | x, y => if signalsOnEquality x y then .error (.decimal .invalidOperation) else .ok (s.eqv budget x y)
termination_by (budget, sizeOf a + sizeOf b)

/-- Item-by-item equality of two lists at the places that `pick` selects, counting places from
  `i`, stopping at the first unequal pair. -/
def Store.itemsSignaling (s : Store) (budget : Nat) (pick : Nat → Bool) (i : Nat) :
    List Value → List Value → Except Fault Bool
  | x :: xs, y :: ys => do
    if pick i then
      if ← s.eqvSignaling budget x y then s.itemsSignaling budget pick (i + 1) xs ys
      else return false
    else s.itemsSignaling budget pick (i + 1) xs ys
  | _, _ => .ok true
termination_by xs ys => (budget, sizeOf xs + sizeOf ys)

/-- Whether each entry of the first dictionary has its key in the second with an equal value. -/
def Store.entriesSignaling (s : Store) (budget : Nat) :
    List (Value × Value) → List (Value × Value) → Except Fault Bool
  | [], _ => .ok true
  | (k, v) :: rest, ys => do
    if ← s.entrySignaling budget k v ys then s.entriesSignaling budget rest ys else return false
termination_by xs ys => (budget, sizeOf xs + sizeOf ys)

/-- Whether a dictionary holds the key `k` with a value equal to `v`. -/
def Store.entrySignaling (s : Store) (budget : Nat) (k v : Value) :
    List (Value × Value) → Except Fault Bool
  | [] => .ok false
  | (k', v') :: rest =>
    if s.eqv budget k k' then s.eqvSignaling budget v v' else s.entrySignaling budget k v rest
termination_by ys => (budget, sizeOf k + sizeOf v + sizeOf ys)

end

/-- Equality as the rule language compares two host values, within the budget their store
  allows. -/
def Store.ruleEqual (s : Store) (a b : Value) : Except Fault Bool :=
  s.eqvSignaling (s.compareBudget a b) a b

/-- The member table of an enumeration from its members in order: each name with the name and
  value of the first member whose value equals its own, so that an alias stands for the member
  it repeats. -/
def Store.enumTable (s : Store) (members : List (String × Value)) :
    List (String × String × Value) :=
  members.map fun (n, v) =>
    match members.find? (fun (_, w) => s.equal w v) with
    | some (m, w) => (n, m, w)
    | none => (n, n, v)

/-- The first value of a dictionary whose key equals `k`. -/
def Store.lookup (s : Store) (entries : List (Value × Value)) (k : Value) : Option Value :=
  (entries.find? fun (k', _) => s.equal k k').map (·.2)

/-- Whether a value equals some member of a list. -/
def Store.contains (s : Store) (items : List Value) (x : Value) : Bool :=
  items.any fun y => s.equal x y

/-- Puts an entry into a dictionary: a key equal to one already there keeps that key and its
  place and takes the new value; a new key goes last. -/
def Store.insertEntry (s : Store) (entries : List (Value × Value)) (k v : Value) :
    List (Value × Value) :=
  if entries.any (fun (k', _) => s.equal k k') then
    entries.map fun (k', v') => if s.equal k k' then (k', v) else (k', v')
  else entries ++ [(k, v)]

/-- The items of a set built from a list: the first of equal items, in the order of the list. -/
def Store.distinct (s : Store) (items : List Value) : List Value :=
  items.foldl (fun acc x => if s.contains acc x then acc else acc ++ [x]) []

/-- Why a value of a mutable type cannot be hashed. -/
def refusedType (typeName : String) : String := "unhashable type: '" ++ typeName ++ "'"

mutual

/-- Why the first part of a value that cannot be hashed refuses it, if any: a mutable type, or a
  signaling NaN. -/
def Store.unhashablePart (s : Store) (budget : Nat) : Value → Option String
  | .list _ => some (refusedType "list")
  | .dict _ => some (refusedType "dict")
  | .set _ => some (refusedType "set")
  | .byteArray _ => some (refusedType "bytearray")
  | .deque _ => some (refusedType "collections.deque")
  | .decimal (.nan _ true _) => some "Cannot hash a signaling NaN value"
  | .tuple items => s.unhashableItems budget items
  | .record c slots =>
    if c.frozen && c.kind == .plain then s.unhashableItems budget slots else some (refusedType c.name)
  | .weakRef (some v) => s.unhashablePart budget v
  | .shared l =>
    match budget with
    | 0 => none
    | k + 1 => s.unhashablePart k ((s.get? l).getD .none)
  | _ => none
termination_by v => (budget, sizeOf v)

/-- The first unhashable part among items. -/
def Store.unhashableItems (s : Store) (budget : Nat) : List Value → Option String
  | [] => none
  | x :: xs =>
    match s.unhashablePart budget x with
    | some n => some n
    | none => s.unhashableItems budget xs
termination_by xs => (budget, sizeOf xs)

end

/-- Why a value cannot be hashed, if it cannot. -/
def Store.unhashable (s : Store) (v : Value) : Option String :=
  s.unhashablePart (s.cells.size + 1) v

end FieldRules
