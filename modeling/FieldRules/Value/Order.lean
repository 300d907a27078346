import FieldRules.Value.Number

/-! # Order of host values

The host's `<` and `>`. Real numbers of every kind are ordered exactly, and a NaN is neither
below nor above anything, except that a decimal ordered against a NaN is an invalid operation.
Texts and byte strings are ordered character by character. Lists, tuples and deques of one kind
are ordered by their first items that are not equal (the very same stored item being equal),
or by length when one is a prefix of the other. A set is below another when it is a proper
subset. Dates, datetimes, times and durations are ordered within their kind; a naive and an
aware datetime or time cannot be ordered, nor a date and a datetime. Every other pair is a type error that names the operator and both types. -/

namespace FieldRules

/-- The two strict orders. -/
inductive Direction where
  | below | above
deriving Inhabited, BEq, DecidableEq

/-- The operator of a direction. -/
def Direction.symbol : Direction → String
  | .below => "<" | .above => ">"

/-- Whether an ordering answers a direction. -/
def Direction.holds (d : Direction) (o : Ordering) : Bool :=
  match d with
  | .below => o == .lt
  | .above => o == .gt

/-- Whether a value is a decimal. -/
def Value.isDecimal : Value → Bool
  | .decimal _ => true
  | _ => false

/-- The fault of an unsupported ordering. -/
def orderFault (d : Direction) (a b : Value) : Fault :=
  .typeError ("'" ++ d.symbol ++ "' not supported between instances of '" ++
    a.qualifiedTypeName ++ "' and '" ++ b.qualifiedTypeName ++ "'")

/-- The lexicographic order of two lists by an order on items. -/
def lexOrder [Ord α] : List α → List α → Ordering
  | [], [] => .eq
  | [], _ => .lt
  | _, [] => .gt
  | x :: xs, y :: ys =>
    match compare x y with
    | .eq => lexOrder xs ys
    | o => o

/-- The first pair of items at one place that are not equal as rules compare them, if any;
  a comparison that signals or never ends is refused. -/
def Store.firstUnequal (s : Store) (budget : Nat) :
    List Value → List Value → Except Fault (Option (Value × Value))
  | x :: xs, y :: ys => do
    if ← s.eqvSignaling budget x y then s.firstUnequal budget xs ys else return some (x, y)
  | _, _ => .ok none

/-- The strict order of two host values in a direction, following shared references at most
  `budget` times on a path. -/
def Store.ordered (s : Store) (budget : Nat) (d : Direction) (a b : Value) : Except Fault Bool :=
  match budget with
  | 0 => .error .comparisonTooDeep
  | budget + 1 =>
  let a := s.resolve a
  let b := s.resolve b
  let sequence (xs ys : List Value) : Except Fault Bool := do
    match ← s.firstUnequal (s.compareBudget (.list xs) (.list ys)) xs ys with
    | some (x, y) => s.ordered budget d x y
    | none => .ok (d.holds (compare xs.length ys.length))
  match a.real?, b.real? with
  | some x, some y =>
    match x.cmp y with
    | some o => .ok (d.holds o)
    | none =>
      if a.isDecimal || b.isDecimal then .error (.decimal .invalidOperation) else .ok false
  | _, _ =>
  match a, b with
  | .str x, .str y => .ok (d.holds (lexOrder x.toList y.toList))
  | .list xs, .list ys => sequence xs ys
  | .tuple xs, .tuple ys => sequence xs ys
  | .deque xs, .deque ys => sequence xs ys
  | .date x, .date y => .ok (d.holds (compare x.ordinal y.ordinal))
  | .dateTime x, .dateTime y =>
    match x.offset, y.offset with
    | some _, some _ => .ok (d.holds (compare x.utcMicros y.utcMicros))
    | none, none => .ok (d.holds (compare x.wallMicros y.wallMicros))
    | _, _ => .error (.typeError "can't compare offset-naive and offset-aware datetimes")
  | .dateTime _, .date _ | .date _, .dateTime _ =>
    .error (.typeError "can't compare datetime.datetime to datetime.date")
  | .time x, .time y =>
    match x.offset, y.offset with
    | some ox, some oy => .ok (d.holds (compare (x.clock.micros - ox) (y.clock.micros - oy)))
    | none, none => .ok (d.holds (compare x.clock.micros y.clock.micros))
    | _, _ => .error (.typeError "can't compare offset-naive and offset-aware times")
  | .duration x, .duration y => .ok (d.holds (compare x.toMicros y.toMicros))
  | _, _ =>
    match a.byteData?, b.byteData? with
    | some p, some q => .ok (d.holds (lexOrder (p.map (·.toNat)) (q.map (·.toNat))))
    | _, _ =>
      match setItems a, setItems b with
      | some xs, some ys =>
        let sub (u v : List Value) := u.length < v.length && u.all (s.contains v)
        .ok (match d with
          | .below => sub xs ys
          | .above => sub ys xs)
      | _, _ => .error (orderFault d a b)
termination_by budget
where
  /-- The members of a set of either kind. -/
  setItems : Value → Option (List Value)
    | .set xs | .frozenSet xs => some xs
    | _ => none

/-- Whether `a` is below (`d = below`) or above (`d = above`) `b`. -/
def Store.hostOrdered (s : Store) (d : Direction) (a b : Value) : Except Fault Bool :=
  s.ordered 1000 d a b

end FieldRules
