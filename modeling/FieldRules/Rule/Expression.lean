import FieldRules.Lang.Session
import FieldRules.Rule.Error
import FieldRules.Rule.Mapper
import FieldRules.Rule.Tags
import FieldRules.Pattern.Match

/-! # Checking a field's rules

An expression rule is checked in a session that outlives each check: the field's value is
bound under the field's name, the rule runs, and its value's truth is the verdict. A value
whose exact type has a mapper is first rendered and rebuilt by running the snippet, and the
rebuilt value is bound instead. A snippet that fails makes a mapping error; a rule that does
not read makes a compile error and one that fails while running an execute error. An integer
literal too long to read is let through as it is, and so is a verdict whose truth is refused.
The datetime type starts with the timestamp mapper. A rule text is read once: its program is
kept by text and found again by later checks.

A pattern rule is searched for anywhere in the value's match text; a pattern that does not
compile is a pattern error. A compiled pattern is kept by its text as well. -/

namespace FieldRules.Rule

open Lang

/-- A session for expression rules with the mappers for exact types, where a later mapper for a
  type replaces an earlier one, and the programs read from rule texts, by text. -/
structure ExprChecker where
  session : Session
  mappers : List (TypeKey × Mapper)
  scripts : List (String × Program)
deriving Inhabited

namespace ExprChecker

/-- A checker with nothing bound, the timestamp mapper for datetimes and no programs kept. -/
def start (store : Store) (clock : Int) : ExprChecker :=
  ⟨Session.start store clock, [(.named "datetime", .timestamp)], []⟩

/-- Registers a mapper for an exact type. -/
def addMapper (c : ExprChecker) (key : TypeKey) (m : Mapper) : ExprChecker :=
  if c.mappers.any (·.1 == key) then
    { c with mappers := c.mappers.map fun (t, x) => if t == key then (t, m) else (t, x) }
  else { c with mappers := c.mappers ++ [(key, m)] }

/-- The checker with another store of shared values. -/
def withStore (c : ExprChecker) (store : Store) : ExprChecker :=
  { c with session := ⟨store, c.session.scope, c.session.clock⟩ }

/-- The checker with nothing bound; the programs kept stay. -/
def cleared (c : ExprChecker) : ExprChecker :=
  { c with session := ⟨c.session.store, {}, c.session.clock⟩ }

/-- An independent checker with the same mappers: nothing bound and no programs kept. -/
def copy (c : ExprChecker) : ExprChecker :=
  ⟨⟨c.session.store, {}, c.session.clock⟩, c.mappers, []⟩

/-- The value a rule sees for a field value: the value itself, or what its mapper builds. -/
def prepare (c : ExprChecker) (v : Value) : ExprChecker × Except CheckError Value :=
  let s := c.session.store
  let typeName := (s.resolve v).typeName
  match c.mappers.lookup (TypeKey.of (s.resolve v)) with
  | none => (c, .ok v)
  | some m =>
    match m.render s v with
    | .error f => (c, .error (.mapping typeName (f.kind ++ ": " ++ f.message)))
    | .ok snippet =>
      let (ss, r) := c.session.materialize snippet
      let c := { c with session := ss }
      match r with
      | .ok w => (c, .ok w)
      | .error (.unreadable (.lex (.integerTooLong n))) =>
        (c, .error (.host (.valueError (LexError.integerTooLong n).message)))
      | .error e => (c, .error (.mapping typeName e.message))

/-- The program of a rule text: the one kept for the text, or else the text read now, and kept
  when it reads. -/
def compileRule (c : ExprChecker) (expr : String) : ExprChecker × Except SyntaxError Program :=
  match c.scripts.lookup expr with
  | some p => (c, .ok p)
  | none =>
    match parse expr with
    | .error e => (c, .error e)
    | .ok p => ({ c with scripts := c.scripts ++ [(expr, p)] }, .ok p)

/-- Checks an expression rule on a field value. -/
def check (c : ExprChecker) (name : String) (v : Value) (expr : String) :
    ExprChecker × Except CheckError Bool :=
  match c.prepare v with
  | (c, .error e) => (c, .error e)
  | (c, .ok w) =>
    let c := { c with session := c.session.bind name w }
    match c.compileRule expr with
    | (c, .error (.lex (.integerTooLong n))) =>
      (c, .error (.host (.valueError (LexError.integerTooLong n).message)))
    | (c, .error e) => (c, .error (.script .compile name expr e.message))
    | (c, .ok p) =>
      let (ss, r) := c.session.run p
      let c := { c with session := ss }
      match r with
      | .ok result =>
        match ss.store.truth result with
        | .ok b => (c, .ok b)
        | .error f => (c, .error (.host f))
      | .error e => (c, .error (.script .execute name expr e.message))

end ExprChecker

/-- A pattern compiled for matching; a syntax error is a pattern error, and a pattern the
  matcher cannot hold fails as the host fails. -/
def compilePattern (pattern : String) : Except CheckError Pattern.Compiled :=
  match Pattern.compile pattern with
  | .ok c => .ok c
  | .error e =>
    match e with
    | .malformed .. => .error (.pattern pattern e.message)
    | _ => .error (.host (.pattern e))

/-- Whether a pattern occurs anywhere in a text. -/
def searchPattern (pattern text : String) : Except CheckError Bool :=
  (compilePattern pattern).map (·.search text)

/-- Compiled patterns, by their text. -/
structure PatternCache where
  entries : List (String × Pattern.Compiled) := []
deriving Inhabited

/-- Whether a pattern occurs anywhere in a text, with the pattern compiled once and kept. -/
def PatternCache.search (pc : PatternCache) (pattern text : String) :
    PatternCache × Except CheckError Bool :=
  match pc.entries.lookup pattern with
  | some c => (pc, .ok (c.search text))
  | none =>
    match compilePattern pattern with
    | .error e => (pc, .error e)
    | .ok c => (⟨pc.entries ++ [(pattern, c)]⟩, .ok (c.search text))

end FieldRules.Rule
