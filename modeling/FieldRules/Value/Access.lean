import FieldRules.Value.Facts
import FieldRules.Value.Fault
import FieldRules.Value.Attributes
import FieldRules.Value.Introspection

/-! # Reading host values

What rules and their functions read off a host value: a named attribute, the items that
iterating a value gives, and whether a collection holds an item.

Attributes are the fields and private attributes of a record, the attributes of an opaque
object, the name and value of an enumeration member, the target of a proxy or a handle, and
the parts of numbers (`real`, `imag`, `numerator`, `denominator`), of dates and datetimes
(`year` to `microsecond`), of times of day and of durations (`days`, `seconds`,
`microseconds`).

Iterating gives the items of sequences and sets, the keys of a dictionary, the characters of
a text, the bytes of a byte string as integers, and the pairs of field name and value of a
validated model. Membership compares by equality in sequences, and by hash and equality in
dictionaries and sets, where an unhashable item is a type error (a set is looked up as a
frozen set). A byte string holds an integer below 256 or a byte string; any other integer is
out of range and any other item a type error. -/

namespace FieldRules

/-- The attributes of an integer: itself as `real` and `numerator`, `0` and `1` as `imag` and
  `denominator`. -/
def intAttribute? (n : Int) (name : String) : Option Value :=
  match name with
  | "real" | "numerator" => some (.int n)
  | "imag" => some (.int 0)
  | "denominator" => some (.int 1)
  | _ => Option.none

/-- The attributes of a date. -/
def dateAttribute? (d : Time.Date) (name : String) : Option Value :=
  match name with
  | "year" => some (.int d.year)
  | "month" => some (.int d.month)
  | "day" => some (.int d.day)
  | _ => Option.none

/-- The attributes of a time of day. -/
def clockAttribute? (c : Time.Clock) (name : String) : Option Value :=
  match name with
  | "hour" => some (.int c.hour)
  | "minute" => some (.int c.minute)
  | "second" => some (.int c.second)
  | "microsecond" => some (.int c.micro)
  | "fold" => some (.int 0)
  | _ => Option.none

/-- The value of a named attribute that a value carries as data, if it has one. -/
def Value.dataAttribute? (v : Value) (name : String) : Option Value :=
  match v with
  | .record c slots => (c.slotNames.zip slots).lookup name
  | .object _ attrs => attrs.lookup name
  | .enumMember c n x members =>
    if name == "name" || name == "_name_" then some (.str n)
    else if name == "value" || name == "_value_" then some x
    else (members.lookup name).map fun (m, y) => .enumMember c m y members
  | .proxy t => if name == "__wrapped__" then some t else Option.none
  | .handle t => if name == "value" || name == "_value" then some t else Option.none
  | .bool b => intAttribute? (if b then 1 else 0) name
  | .int n | .textInt n _ => intAttribute? n name
  | .float x =>
    match name with
    | "real" => some (.float x)
    | "imag" => some (.float 0.0)
    | _ => Option.none
  | .decimal d =>
    match name with
    | "real" => some (.decimal d)
    | "imag" => some (.decimal (Number.Decimal.ofInt 0))
    | _ => Option.none
  | .fraction q =>
    match name with
    | "real" => some (.fraction q)
    | "imag" => some (.int 0)
    | "numerator" => some (.int q.num)
    | "denominator" => some (.int q.den)
    | _ => Option.none
  | .complex re im =>
    match name with
    | "real" => some (.float re)
    | "imag" => some (.float im)
    | _ => Option.none
  | .date d =>
    match name with
    | "min" => some (.date ⟨1, 1, 1⟩)
    | "max" => some (.date ⟨9999, 12, 31⟩)
    | "resolution" => some (.duration ⟨1, 0, 0⟩)
    | _ => dateAttribute? d name
  | .dateTime t =>
    match name with
    | "min" => some (.dateTime ⟨⟨1, 1, 1⟩, ⟨0, 0, 0, 0⟩, Option.none⟩)
    | "max" => some (.dateTime ⟨⟨9999, 12, 31⟩, ⟨23, 59, 59, 999999⟩, Option.none⟩)
    | "resolution" => some (.duration ⟨0, 0, 1⟩)
    | "tzinfo" => some (zoneObject "datetime.datetime" t.offset)
    | _ => (dateAttribute? t.date name).orElse fun _ => clockAttribute? t.clock name
  | .time t =>
    match name with
    | "min" => some (.time ⟨⟨0, 0, 0, 0⟩, Option.none⟩)
    | "max" => some (.time ⟨⟨23, 59, 59, 999999⟩, Option.none⟩)
    | "resolution" => some (.duration ⟨0, 0, 1⟩)
    | "tzinfo" => some (zoneObject "datetime.time" t.offset)
    | _ => clockAttribute? t.clock name
  | .duration d =>
    match name with
    | "days" => some (.int d.days)
    | "seconds" => some (.int d.seconds)
    | "microseconds" => some (.int d.micros)
    | "min" => some (.duration ⟨-999999999, 0, 0⟩)
    | "max" => some (.duration ⟨999999999, 86399, 999999⟩)
    | "resolution" => some (.duration ⟨0, 0, 1⟩)
    | _ => Option.none
  | .deque _ => if name == "maxlen" then some .none else Option.none
  | _ => Option.none
where
  /-- The time zone attribute of a value with an optional offset: an opaque zone, or none. -/
  zoneObject (owner : String) : Option Int → Value
    | some _ => .attribute owner "tzinfo" "timezone"
    | Option.none => .none

/-- The attributes of a validated model that describe its class: its configuration, its
  fields, and the fields that have been set. -/
def modelAttribute? (c : RecordClass) (name : String) : Option Value :=
  match name with
  | "model_config" => some (.dict [(.str "arbitrary_types_allowed", .bool true)])
  | "model_fields" =>
    some (.dict (c.fields.map fun f => (.str f.name, .attribute c.name f.name "FieldInfo")))
  | "model_computed_fields" => some (.dict [])
  | "model_extra" => some .none
  | "model_fields_set" => some (.set (c.fields.map fun f => .str f.name))
  | _ => Option.none

/-- The name under which the attribute tables list the kind of a value. -/
def Value.attributeOwner : Value → String
  | .textInt .. => "TalkingInt"
  | .record c _ => if c.kind == .model then "model" else if c.frozen then "frozenRecord" else "record"
  | .object .. => "Obj"
  | .handle _ => "AddressableHandle"
  | .weakRef _ => "ReferenceType"
  | .enumMember .. => "enum"
  | v => v.typeName

/-- The value of a named attribute of a value, if it has one: its data, what describes it, or
  an opaque object for an attribute that is a method, a type or another object (null when that
  object is `None`). -/
def Store.attribute? (s : Store) (v : Value) (name : String) : Option Value :=
  match v.dataAttribute? name with
  | some x => some x
  | Option.none =>
    let special := match v with
      | .record c _ => if c.kind == RecordKind.model then modelAttribute? c name else Option.none
      | .object t _ => if name == "_text" then some (.str t) else Option.none
      | .textInt _ t => if name == "_text" then some (.str t) else Option.none
      | .fraction q =>
        if name == "_numerator" then some (.int q.num)
        else if name == "_denominator" then some (.int q.den) else Option.none
      | _ => Option.none
    (special.orElse fun _ => s.introspect? v name).orElse fun _ =>
      (attributeKind? v.attributeOwner name).map fun kind =>
        if kind == "NoneType" then .none else .attribute v.qualifiedTypeName name kind

/-- The value of a named attribute, or the fault of a missing one. -/
def Store.getAttribute (s : Store) (v : Value) (name : String) : Except Fault Value :=
  let w := s.resolve v
  match s.attribute? w name with
  | some x => .ok x
  | Option.none =>
    .error (.attributeError ("'" ++ w.qualifiedTypeName ++ "' object has no attribute '" ++
      name ++ "'"))

/-- The pairs of field name and value of a validated model, as its iteration gives them. -/
def RecordClass.fieldPairs (c : RecordClass) (slots : List Value) : List Value :=
  (c.fields.zip slots).map fun (f, x) => .tuple [.str f.name, x]

/-- The items that iterating a value gives. -/
def Store.iterate (s : Store) (v : Value) : Except Fault (List Value) :=
  match s.resolve v with
  | .list xs | .tuple xs | .set xs | .frozenSet xs | .deque xs => .ok xs
  | .dict es => .ok (es.map (·.1))
  | .str t => .ok (t.toList.map fun c => .str (String.singleton c))
  | .bytes d | .byteArray d => .ok (d.map fun b => .int b.toNat)
  | .record c slots =>
    if c.kind == .model then .ok (c.fieldPairs slots)
    else .error (.typeError ("'" ++ c.name ++ "' object is not iterable"))
  | w => .error (.typeError ("'" ++ w.qualifiedTypeName ++ "' object is not iterable"))

/-- Whether `needle` occurs as a contiguous part of `hay`. -/
def occursIn [BEq α] (needle : List α) : List α → Bool
  | [] => needle.isEmpty
  | h :: t => needle.isPrefixOf (h :: t) || occursIn needle t

/-- The fault of hashing a value that refuses it, for the reason given. -/
def unhashableFault (reason : String) : Fault := .typeError reason

/-- Whether a byte string holds an item: an integer as one byte, a byte string as a
  contiguous part. -/
def byteMembership (data : List UInt8) (item : Value) : Except Fault Bool :=
  let asByte (n : Int) : Except Fault Bool :=
    if 0 ≤ n && n < 256 then .ok (data.contains (UInt8.ofNat n.toNat))
    else .error (.valueError "byte must be in range(0, 256)")
  match item with
  | .bool b => asByte (if b then 1 else 0)
  | .int n | .textInt n _ => asByte n
  | .bytes p | .byteArray p => .ok (occursIn p data)
  | w => .error (.typeError ("a bytes-like object is required, not '" ++ w.qualifiedTypeName ++ "'"))

/-- Whether a sequence holds an item, comparing in order: the very same stored value matches
  at once, and a comparison that signals or never ends, before a match is found, is refused. -/
def Store.containsSignaling (s : Store) (items : List Value) (x : Value) : Except Fault Bool :=
  let budget := s.compareBudget (.list items) x
  items.foldlM (fun found y => if found then .ok true else s.eqvSignaling budget y x) false

/-- Whether a collection holds an item, by the host's membership test. -/
def Store.hostContains (s : Store) (coll item : Value) : Except Fault Bool :=
  let hashed (keys : List Value) : Except Fault Bool :=
    match s.unhashable item with
    | some t => .error (unhashableFault t)
    | Option.none => .ok (s.contains keys item)
  match s.resolve coll with
  | .list xs | .tuple xs | .deque xs => s.containsSignaling xs item
  | .dict es => hashed (es.map (·.1))
  | .set xs | .frozenSet xs =>
    match s.resolve item with
    | .set _ => .ok (s.contains xs item)
    | _ => hashed xs
  | .str t =>
    match s.resolve item with
    | .str u => .ok (occursIn u.toList t.toList)
    | w => .error (.typeError ("'in <string>' requires string as left operand, not " ++
      w.qualifiedTypeName))
  | .bytes d | .byteArray d => byteMembership d (s.resolve item)
  | .record c slots =>
    if c.kind == .model then .ok (s.contains (c.fieldPairs slots) item)
    else .error (.typeError ("argument of type '" ++ c.name ++ "' is not iterable"))
  | w => .error (.typeError ("argument of type '" ++ w.qualifiedTypeName ++ "' is not iterable"))

/-- Whether a value is none, following a shared reference. -/
def Store.isNone (s : Store) (v : Value) : Bool :=
  match s.resolve v with
  | .none => true
  | _ => false

/-- The truth of a value as a rule result, following a shared reference. -/
def Store.truth (s : Store) (v : Value) : Except Fault Bool := (s.resolve v).truth

/-- The truth of a value as a host condition, following a shared reference. -/
def Store.hostTruth (s : Store) (v : Value) : Bool := (s.resolve v).hostTruth

end FieldRules
