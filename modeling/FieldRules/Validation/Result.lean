import FieldRules.Value.Facts

/-! # Results of a validation

A result records one rule run on one field: the field's name, the value the rule ran
against, the field's declared type, the rule text and the verdict. A report is valid when all
its results are. A result line reads
`'<name>' (type: <label>) item: '<source text>', expr: '<rule>'  : ok` (or `failed`), where
the label describes the value's type with the types of its items. -/

namespace FieldRules.Validation

/-- One rule run on one field. -/
structure CheckResult where
  name : String
  value : Value
  typeText : String
  expr : String
  valid : Bool
deriving Inhabited

/-- The line of a result; refused when the value's label or text is. -/
def CheckResult.line (s : Store) (r : CheckResult) : Except Fault String := do
  let label ← s.describe r.value
  let text ← s.source r.value
  return "'" ++ r.name ++ "' (type: " ++ label ++ ") item: '" ++ text ++ "', expr: '" ++
    r.expr ++ "'  : " ++ (if r.valid then "ok" else "failed")

/-- The results of a validation, in the order fields were visited. -/
structure Report where
  valid : Bool
  results : List CheckResult
deriving Inhabited

/-- The report of a list of results. -/
def Report.ofResults (rs : List CheckResult) : Report := ⟨rs.all (·.valid), rs⟩

/-- The failed results of a report. -/
def Report.failures (r : Report) : List CheckResult := r.results.filter (!·.valid)

/-- The printed form of results: a header line and one line per result. -/
def printResults (s : Store) (rs : List CheckResult) : Except Fault String := do
  let lines ← rs.mapM (CheckResult.line s)
  return String.join (("Results:" :: lines).map (· ++ "\n"))

end FieldRules.Validation
