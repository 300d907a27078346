import FieldRules.Validation.Walk

/-! # Validators

A validator holds its options, an expression checker with its mappers and the programs it has
read, and the patterns it has compiled. Each validation starts with nothing bound and walks the
root; the programs and patterns it reads are kept for the next one. A root validated as
addressable is wrapped in a handle, which lets rules on private fields run; a root given as
already addressable must be a handle. A copy keeps the options and mappers and starts afresh.

A validation that fails part-way keeps what it had come to: the programs it read, the patterns
it compiled and the values it bound before the error; a root refused as not addressable is
refused before anything starts, and leaves the validator as it was. Every kept program and
pattern is what reading its text gives, so which of them are kept decides no outcome. -/

namespace FieldRules.Validation

open Rule

/-- How the root of a validation is given. -/
inductive Mode where
  /-- A plain value: private fields with rules cannot be read. -/
  | plain
  /-- A value to wrap in an addressable handle. -/
  | addressable
  /-- A value that must already be an addressable handle. -/
  | handle
deriving Inhabited, BEq

/-- Options, an expression checker and the compiled patterns. -/
structure Validator where
  options : Options
  checker : ExprChecker
  patterns : PatternCache
deriving Inhabited

namespace Validator

/-- A validator with the given options, the default mappers, nothing bound and nothing kept. -/
def start (options : Options) (store : Store) (clock : Int) : Validator :=
  ⟨options, ExprChecker.start store clock, {}⟩

/-- Registers a mapper for an exact type. -/
def addMapper (v : Validator) (key : TypeKey) (m : Mapper) : Validator :=
  { v with checker := v.checker.addMapper key m }

/-- An independent validator with the same options and mappers. -/
def copy (v : Validator) : Validator := ⟨v.options, v.checker.copy, {}⟩

/-- Validates a root value whose shared containers are in `store`. -/
def validate (v : Validator) (store : Store) (root : Value) (mode : Mode) :
    Validator × Except CheckError Report :=
  let checker := (v.checker.withStore store).cleared
  let start : Except CheckError (Value × Bool) :=
    match mode with
    | .plain => .ok (root, false)
    | .addressable => .ok (.handle root, true)
    | .handle =>
      match store.resolve root with
      | .handle _ => .ok (root, true)
      | w => .error (.access (.notAddressable w.typeName))
  match start with
  | .error e => (v, .error e)
  | .ok (root, addressable) =>
    let cx : WalkContext := ⟨v.options, store, addressable⟩
    match cx.walk [] root ⟨checker, v.patterns, []⟩ with
    | .ok st => (⟨v.options, st.checker, st.patterns⟩, .ok (Report.ofResults st.results.reverse))
    | .error (e, st) => (⟨v.options, st.checker, st.patterns⟩, .error e)

end Validator

end FieldRules.Validation
