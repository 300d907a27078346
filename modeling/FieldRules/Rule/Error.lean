import FieldRules.Value.Fault
import FieldRules.Text.Quote

/-! # Why a validation stops

A failing rule is a result, not an error. A validation stops when a rule cannot be run: an
expression rule that does not read or fails while running, a pattern rule that does not
compile, a value whose mapper cannot build the value a rule sees, a private field read
without access, a value graph that leads back into a container still being walked, or a host
failure that nothing above handles. Each has a kind and a message. -/

namespace FieldRules.Rule

/-- When an expression rule failed. -/
inductive Phase where
  | compile | execute
deriving Inhabited, BEq, DecidableEq

/-- The name of a phase. -/
def Phase.name : Phase → String
  | .compile => "compile"
  | .execute => "execute"

/-- Why a private field could not be read. -/
inductive AccessProblem where
  /-- A private field with rules, read without an addressable root. -/
  | privateField (field recordName : String)
  /-- A root given as addressable that is no handle. -/
  | notAddressable (typeName : String)
deriving Inhabited

/-- The text of an access problem. -/
def AccessProblem.message : AccessProblem → String
  | .privateField field recordName =>
    "cannot read private field '" ++ field ++ "' of " ++ recordName ++
      ": validate an addressable root to evaluate rules on private fields"
  | .notAddressable typeName =>
    typeName ++ " value is not addressable: wrap the root with tageval.addressable()"

/-- Why a validation stopped. -/
inductive CheckError where
  | script (phase : Phase) (field expr message : String)
  | pattern (pattern message : String)
  | mapping (typeName message : String)
  | access (problem : AccessProblem)
  | cycle (typeName : String)
  /-- A host failure let through. -/
  | host (fault : Fault)
deriving Inhabited

/-- The kind of a validation error. -/
def CheckError.kind : CheckError → String
  | .script .. => "ScriptError"
  | .pattern .. => "PatternError"
  | .mapping .. => "MappingError"
  | .access _ => "AccessError"
  | .cycle _ => "CycleError"
  | .host f => f.kind

/-- The text of a validation error. -/
def CheckError.message : CheckError → String
  | .script phase field expr m =>
    phase.name ++ " error in rule for '" ++ field ++ "' (" ++ Text.quoteText expr ++ "): " ++ m
  | .pattern p m => "invalid pattern " ++ Text.quoteText p ++ ": " ++ m
  | .mapping t m => "custom object creation error for " ++ t ++ ": " ++ m
  | .access problem => problem.message
  | .cycle t => "cycle detected at " ++ t ++ " value"
  | .host f => f.message

end FieldRules.Rule
