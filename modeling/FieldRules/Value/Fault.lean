import FieldRules.Number.Decimal
import FieldRules.Pattern.Parse

/-! # Faults of host operations

An operation on host values that has no result reports a fault: the kind of failure and its
message. The kinds are those the host distinguishes: a value of the wrong type, a value out of
range, a number too large to convert, a missing attribute, a refusal of the system, a decimal
condition, recursion too deep, and a pattern that cannot be read. -/

namespace FieldRules

/-- Why an operation on host values has no result. -/
inductive Fault where
  | typeError (msg : String)
  | valueError (msg : String)
  | overflowError (msg : String)
  | attributeError (msg : String)
  | osError (msg : String)
  | decimal (signal : Number.DecimalSignal)
  | recursion (msg : String)
  | pattern (e : Pattern.PatternError)
deriving Inhabited

namespace Fault

/-- The name of the kind of a fault. -/
def kind : Fault → String
  | .typeError _ => "TypeError"
  | .valueError _ => "ValueError"
  | .overflowError _ => "OverflowError"
  | .attributeError _ => "AttributeError"
  | .osError _ => "OSError"
  | .decimal s =>
    match s with
    | .divisionByZero => "DivisionByZero"
    | .overflow => "Overflow"
    | _ => "InvalidOperation"
  | .recursion _ => "RecursionError"
  | .pattern e =>
    match e with
    | .malformed .. => "error"
    | .countTooLarge => "OverflowError"
    | .flagConflict _ => "ValueError"
    | .lookbehindTooWide => "RuntimeError"

/-- The message of a fault. -/
def message : Fault → String
  | .typeError m | .valueError m | .overflowError m | .attributeError m | .osError m
  | .recursion m => m
  | .decimal s => s.message
  | .pattern e => e.message

end Fault

/-- The fault of an integer too large for a float. -/
def Fault.intTooLarge : Fault := .overflowError "int too large to convert to float"

end FieldRules
