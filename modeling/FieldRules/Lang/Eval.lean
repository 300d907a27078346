import FieldRules.Lang.Operator
import FieldRules.Lang.Builtin.Apply

/-! # Evaluating rule programs

An expression is evaluated against an environment: the store of shared values, the scope of
bound names, and the clock reading that `now` and `today` report. Literals denote themselves
and an unbound name denotes none. `&&` and `||` evaluate their right operand only when the
left one leaves the answer open, and answer a truth value. Other binary operators evaluate
both operands, left first. A call names a library function; an unknown name fails before
any argument is evaluated, and the arguments are evaluated in order. Array and object literals
build a fresh list and dictionary.

A program runs its statements in order against a scope. A `let` statement binds its value at
once, so that a later statement, and a later program, sees it even when a later statement
fails; the bound value keeps its identity, so that a NaN bound once equals itself inside
containers. The program's value is the value of its last statement. A value whose truth is
refused (a signaling NaN) fails the operator that asks for it. -/

namespace FieldRules.Lang

/-- Bound names with their values, in the order they were first bound. -/
structure Scope where
  entries : List (String × Value) := []
deriving Inhabited

namespace Scope

/-- The value bound to a name, or none. -/
def get (sc : Scope) (n : String) : Value := (sc.entries.lookup n).getD .none

/-- Binds a name: a bound name keeps its place and takes the new value, a new one goes last. -/
def set (sc : Scope) (n : String) (v : Value) : Scope :=
  if sc.entries.any (·.1 == n) then
    ⟨sc.entries.map fun (k, x) => if k == n then (k, v) else (k, x)⟩
  else ⟨sc.entries ++ [(n, v)]⟩

end Scope

/-- What an expression is evaluated against. -/
structure Env where
  store : Store
  scope : Scope
  /-- Microseconds since the epoch, as `now` reports them. -/
  clock : Int

/-- The truth of a value as a rule result; a value that refuses it fails the evaluation. -/
def Env.truth (env : Env) (v : Value) : Except EvalError Bool :=
  (env.store.truth v).mapError .escaped

/-- The value a literal denotes. -/
def Atom.toValue : Atom → Value
  | .null => .none
  | .bool b => .bool b
  | .int n => .int n
  | .float x => .float x
  | .str s => .str s

mutual

/-- The value of an expression. -/
def Env.eval (env : Env) : Expr → Except EvalError Value
  | .lit a => .ok a.toValue
  | .var n => .ok (env.scope.get n)
  | .member o n => do return memberOf env.store (← env.eval o) n
  | .index o k => do
    let obj ← env.eval o
    let key ← env.eval k
    (indexOf env.store obj key).mapError .escaped
  | .binary .and l r => do
    let a ← env.eval l
    if !(← env.truth a) then return .bool false
    let b ← env.eval r
    return .bool (← env.truth b)
  | .binary .or l r => do
    let a ← env.eval l
    if ← env.truth a then return .bool true
    let b ← env.eval r
    return .bool (← env.truth b)
  | .binary op l r => do
    let a ← env.eval l
    let b ← env.eval r
    applyBinary env.store op a b
  | .unary .not e => do
    let v ← env.eval e
    return .bool !(← env.truth v)
  | .unary .neg e => do ruleNegation env.store (← env.eval e)
  | .call f args =>
    match Builtin.ofName? f with
    | none => .error (.unknownFunction f)
    | some b => do
      let vs ← env.evalList args
      (b.apply env.store env.clock vs).mapError (.callFailed f)
  | .array items => do return .list (← env.evalList items)
  | .object entries => do return .dict (← env.evalEntries entries)

/-- The values of expressions, in order. -/
def Env.evalList (env : Env) : List Expr → Except EvalError (List Value)
  | [] => .ok []
  | e :: es => do
    let v ← env.eval e
    let vs ← env.evalList es
    return v :: vs

/-- The entries of an object literal, keys as texts, values in order. -/
def Env.evalEntries (env : Env) : List (String × Expr) → Except EvalError (List (Value × Value))
  | [] => .ok []
  | (k, e) :: es => do
    let v ← env.eval e
    let rest ← env.evalEntries es
    return (.str k, v) :: rest

end

/-- Runs statements in order against a store and a scope, starting from the value `last`; the
  store and scope that result are returned also when a statement fails. A bound value is
  given identity first (`Store.withIdentity`), since every later use of the name meets the
  one value. -/
def runStatements (clock : Int) :
    Store → Scope → List Statement → Value → Store × Scope × Except EvalError Value
  | store, sc, [], last => (store, sc, .ok last)
  | store, sc, st :: rest, _ =>
    let env : Env := ⟨store, sc, clock⟩
    match st with
    | .bind n e =>
      match env.eval e with
      | .error err => (store, sc, .error err)
      | .ok v =>
        let (store, v) := store.withIdentity v
        runStatements clock store (sc.set n v) rest v
    | .eval e =>
      match env.eval e with
      | .error err => (store, sc, .error err)
      | .ok v => runStatements clock store sc rest v

/-- Runs a program against a store and a scope: the store and scope after it and the program's
  value or error. -/
def Program.run (p : Program) (store : Store) (clock : Int) (sc : Scope) :
    Store × Scope × Except EvalError Value :=
  runStatements clock store sc p.statements .none

end FieldRules.Lang
