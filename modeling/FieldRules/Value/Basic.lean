import FieldRules.Number.Decimal
import FieldRules.Number.Fraction
import FieldRules.Time.Calendar

/-! # Host values

The values that rules inspect: none, truth values, integers (also integers with their own
text), floats, decimals, fractions, complex numbers, text, byte strings, the containers (list,
tuple, set, frozen set, deque, dictionary), dates, datetimes, times of day and durations,
records of a declared class, and the wrappers a value graph may hold: a transparent proxy, a
weak reference (live or dead), an addressable handle, an opaque object with a text and
attributes, and a member of an enumeration.

A value graph may share containers and may contain cycles. A container that is shared is
stored once in a `Store` under a label and referred to by `Value.shared`; two references with
one label are one container. Values built by evaluating rules are fresh and never shared. -/

namespace FieldRules

/-- How a record class was declared: a plain data class, or a validated model whose text form
  leaves private attributes out. -/
inductive RecordKind where
  | plain
  | model
deriving Inhabited, BEq, DecidableEq

/-- A tag value declared on a field: text, or another value known by its truth and type name. -/
inductive TagValue where
  | text (s : String)
  | other (truthy : Bool) (typeName : String)
deriving Inhabited, BEq, DecidableEq

/-- A declared field: name, declared type as text, raw tags, and whether a model excludes it
  from serialization. -/
structure FieldDecl where
  name : String
  typeText : String
  tags : List (String × TagValue)
  excluded : Bool
deriving Inhabited, BEq, DecidableEq

/-- A record class: name, kind, whether instances are frozen, declared fields, and the private
  attributes of a model (which follow the fields). Two classes are one when all of these agree. -/
structure RecordClass where
  name : String
  kind : RecordKind
  frozen : Bool
  fields : List FieldDecl
  privateAttrs : List String
deriving Inhabited, BEq, DecidableEq

/-- The names of a record's slots: its fields, then its private attributes. -/
def RecordClass.slotNames (c : RecordClass) : List String :=
  c.fields.map (·.name) ++ c.privateAttrs

/-- Host values. -/
inductive Value where
  | none
  | bool (b : Bool)
  | int (n : Int)
  /-- An integer whose text form is its own. -/
  | textInt (n : Int) (text : String)
  | float (x : Float)
  | decimal (d : Number.Decimal)
  | fraction (q : Number.Fraction)
  | complex (re im : Float)
  | str (s : String)
  | bytes (data : List UInt8)
  | byteArray (data : List UInt8)
  | list (items : List Value)
  | tuple (items : List Value)
  | set (items : List Value)
  | frozenSet (items : List Value)
  | deque (items : List Value)
  | dict (entries : List (Value × Value))
  | date (d : Time.Date)
  | dateTime (t : Time.DateTime)
  | time (t : Time.TimeOfDay)
  | duration (d : Time.Duration)
  /-- A record: its class and the values of its slots, fields first. -/
  | record (cls : RecordClass) (slots : List Value)
  /-- A transparent wrapper around a value. -/
  | proxy (target : Value)
  /-- A weak reference; `none` when its referent is gone. -/
  | weakRef (target : Option Value)
  /-- A handle on a root value that grants access to private fields. -/
  | handle (target : Value)
  /-- An opaque object: its text and its attributes. -/
  | object (text : String) (attrs : List (String × Value))
  /-- A member of an enumeration: class, member name and value, and the class's table of
  member names, each with the name and value of the member it stands for (an alias stands for
  the first member of its value). -/
  | enumMember (cls name : String) (value : Value) (members : List (String × String × Value))
  /-- An attribute of a host value that is not data, such as a method or a type: the type
  name of its owner, its own name, and the type name of the object it is. -/
  | attribute (owner name kind : String)
  /-- A shared container, stored under a label. -/
  | shared (label : Nat)
deriving Inhabited

/-- The shared containers of a value graph, by label. -/
structure Store where
  cells : Array Value := #[]
deriving Inhabited

namespace Store

/-- The container stored under a label. -/
def get? (s : Store) (label : Nat) : Option Value := s.cells[label]?

/-- Stores a container under the next free label. -/
def add (s : Store) (v : Value) : Store × Nat := (⟨s.cells.push v⟩, s.cells.size)

/-- Replaces the container under a label. -/
def set (s : Store) (label : Nat) (v : Value) : Store := ⟨s.cells.set! label v⟩

/-- The value itself, or the container a shared reference stands for. -/
def resolve (s : Store) : Value → Value
  | .shared l => (s.get? l).getD .none
  | v => v

end Store

namespace Value

/-- The short name of a value's type. -/
def typeName : Value → String
  | .none => "NoneType" | .bool _ => "bool" | .int _ => "int" | .textInt .. => "TalkingInt"
  | .float _ => "float" | .decimal _ => "Decimal" | .fraction _ => "Fraction"
  | .complex .. => "complex" | .str _ => "str" | .bytes _ => "bytes"
  | .byteArray _ => "bytearray" | .list _ => "list" | .tuple _ => "tuple" | .set _ => "set"
  | .frozenSet _ => "frozenset" | .deque _ => "deque" | .dict _ => "dict"
  | .date _ => "date" | .dateTime _ => "datetime" | .time _ => "time"
  | .duration _ => "timedelta" | .record c _ => c.name | .proxy _ => "Proxy"
  | .weakRef _ => "ReferenceType" | .handle _ => "AddressableHandle" | .object .. => "Obj"
  | .enumMember c .. => c | .attribute _ _ kind => kind | .shared _ => "list"

/-- The full name of a value's type, with the module for types of the standard modules, as
  type errors write it. -/
def qualifiedTypeName : Value → String
  | .decimal _ => "decimal.Decimal" | .deque _ => "collections.deque"
  | .date _ => "datetime.date" | .dateTime _ => "datetime.datetime"
  | .time _ => "datetime.time" | .duration _ => "datetime.timedelta"
  | .weakRef _ => "weakref.ReferenceType"
  | v => v.typeName

end Value

/-- A value with the store its shared references point into. -/
structure Graph where
  store : Store
  root : Value
deriving Inhabited

end FieldRules
