import FieldRules.Lang.Eval
import FieldRules.Lang.Parser

/-! # Rule sessions

A session holds one global scope that outlives each program it runs: names bound from
outside and names bound by `let` stay for the programs that follow. Rule text is read into a
program and run; a text that does not read fails as a syntax error, before anything runs.
Building a value from a snippet is running it, where a snippet that gives none fails. -/

namespace FieldRules.Lang

/-- Why running rule text fails: it is no program, or evaluating it fails. -/
inductive RunError where
  | unreadable (e : SyntaxError)
  | eval (e : EvalError)
deriving Inhabited

/-- The kind of a syntax error: a character no token starts with, an integer literal too
  long to read, or tokens that do not parse. -/
def SyntaxError.kind : SyntaxError → String
  | .lex (.unexpectedChar ..) => "LexerError"
  | .lex (.integerTooLong _) => "ValueError"
  | .parse _ => "ParseError"

/-- The kind of a run error. -/
def RunError.kind : RunError → String
  | .unreadable e => e.kind
  | .eval _ => "EvaluationError"

/-- The text of a run error. -/
def RunError.message : RunError → String
  | .unreadable e => e.message
  | .eval e => e.message

/-- A rule session: the store of shared values, the global scope, and the clock reading
  (microseconds since the epoch) that `now` and `today` report. -/
structure Session where
  store : Store
  scope : Scope
  clock : Int
deriving Inhabited

namespace Session

/-- A session with nothing bound. -/
def start (store : Store) (clock : Int) : Session := ⟨store, {}, clock⟩

/-- Binds a name in the global scope; the value is given identity first, as a `let` gives it. -/
def bind (ss : Session) (n : String) (v : Value) : Session :=
  let (store, v) := ss.store.withIdentity v
  ⟨store, ss.scope.set n v, ss.clock⟩

/-- The value bound to a name, or none. -/
def lookup (ss : Session) (n : String) : Value := ss.scope.get n

/-- Runs a program in the session. -/
def run (ss : Session) (p : Program) : Session × Except EvalError Value :=
  let (store, sc, r) := p.run ss.store ss.clock ss.scope
  (⟨store, sc, ss.clock⟩, r)

/-- Reads and runs rule text. -/
def evaluate (ss : Session) (source : String) : Session × Except RunError Value :=
  match parse source with
  | .error e => (ss, .error (.unreadable e))
  | .ok p =>
    let (ss', r) := ss.run p
    (ss', r.mapError .eval)

/-- Builds a value from a snippet: its value, which must not be none. -/
def materialize (ss : Session) (snippet : String) : Session × Except RunError Value :=
  let (ss', r) := ss.evaluate snippet
  match r with
  | .ok v => if ss'.store.isNone v then (ss', .error (.eval (.noValue snippet))) else (ss', .ok v)
  | .error e => (ss', .error e)

end Session

end FieldRules.Lang
