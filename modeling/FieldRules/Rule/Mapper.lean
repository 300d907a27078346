import FieldRules.Value.Text
import FieldRules.Value.Fault
import FieldRules.Time.Instant

/-! # Type mappers

A type mapper renders a value of one exact type as a snippet of rule text; running the
snippet builds the value that a rule sees in place of the original. A template mapper fills
`{F}` with the text of field or private attribute `F` of a record and `{str}` with the text of
the value; a refusing mapper fails with its message; the timestamp mapper renders a datetime
as `fromTimestamp(<milliseconds>)`, where the milliseconds are the float seconds since the epoch
times a thousand, cut toward zero. -/

namespace FieldRules.Rule

open Number

/-- The exact type a mapper is registered for: a record class with its declarations, or
  another type by its name. -/
inductive TypeKey where
  | named (name : String)
  | record (cls : RecordClass)
deriving Inhabited, BEq

/-- The exact type of a value. -/
def TypeKey.of : Value → TypeKey
  | .record c _ => .record c
  | v => .named v.typeName

/-- How a value of some type is rendered as rule text. -/
inductive Mapper where
  | template (text : String)
  | refuse (message : String)
  | timestamp
deriving Inhabited

/-- The whole number a finite float cuts to toward zero. -/
def truncateFloat (x : Float) : Int :=
  match exactValue? x with
  | some (n, d) => n.tdiv (Int.ofNat d)
  | none => 0

/-- The snippet that builds a datetime's instant, to the millisecond. -/
def timestampSnippet (t : Time.DateTime) : Except Fault String :=
  match t.epochSeconds with
  | .error y => .error (.valueError ("year " ++ toString y ++ " is out of range"))
  | .ok secs => .ok ("fromTimestamp(" ++ toString (truncateFloat (mulNearest secs 1000.0)) ++ ")")

/-- A placeholder of a template. -/
def placeholder (name : String) : String := "\x7b" ++ name ++ "\x7d"

/-- Fills a template: each slot's placeholder (fields, then private attributes) with the
  slot's text, then `{str}` with the value's text. -/
def fillTemplate (s : Store) (text : String) (v : Value) : Except Fault String := do
  let slots : List (String × Value) := match s.resolve v with
    | .record c slots => c.slotNames.zip slots
    | _ => []
  let filled ← slots.foldlM (fun (acc : String) (n, x) => do
    return acc.replace (placeholder n) (← s.display x)) text
  return filled.replace (placeholder "str") (← s.display v)

/-- The snippet a mapper renders for a value. -/
def Mapper.render (s : Store) (m : Mapper) (v : Value) : Except Fault String :=
  match m with
  | .template text => fillTemplate s text v
  | .refuse message => .error (.valueError message)
  | .timestamp =>
    match s.resolve v with
    | .dateTime t => timestampSnippet t
    | w => .error (.attributeError ("'" ++ w.qualifiedTypeName ++
        "' object has no attribute 'timestamp'"))

end FieldRules.Rule
