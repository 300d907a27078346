import FieldRules.Rule.Expression
import FieldRules.Validation.Options
import FieldRules.Validation.Result

/-! # Walking a value graph

A validation walks the value graph depth first. Sequences and sets are walked item by item,
dictionaries entry by entry, key before value; handles, proxies, objects with a `__wrapped__`
attribute and live weak references are walked through to their targets; dates, times,
durations and plain values end the walk. At a record, each field is checked (unless
serialization semantics are honored and the field is private) and then walked into, so that
rules deeper down are found even below a skipped field.

The labels of the shared values being walked form the path. A shared value is entered only
when it is not on the path, so the walk ends: each entry leaves fewer cells off the path. A
shared value reached again while it is still being walked closes a cycle, and stops the
validation at the first container met again: the value itself when it is a container or a
record, else the first container its wrappers lead to, since a wrapper is no container and
walking it again only leads on. A ring of wrappers alone meets no container and exhausts the
recursion. A container shared along two paths is walked once per path.

Checking a field runs its rules, in the order expression then pattern, on the field's value
with one level of wrapping taken off. A field without rules, a field skipped by its directive
(when serialization semantics are honored), and a value that is none are left alone, and so is
an `omitempty` field whose value is a zero (when honored). A private field with rules needs an
addressable root. A result is kept when the rule fails, or always when successes are shown.
The expression checker and the compiled patterns are carried from one check to the next. A walk
that stops with an error hands on the state it had reached: what the checker bound and read and
the patterns it compiled before the error stay. -/

namespace FieldRules.Validation

open Rule

/-- What a walk carries along: the expression checker, whose session binds the field values,
  the compiled patterns, and the results so far, latest first. -/
structure WalkState where
  checker : ExprChecker
  patterns : PatternCache
  results : List CheckResult
deriving Inhabited

/-- What a walk comes to: the state it ends in, or the error it stops with and the state it had
  reached. -/
abbrev WalkOutcome := Except (CheckError × WalkState) WalkState

/-- What a walk is given: the options, the store of shared values, and whether private fields
  may be read. -/
structure WalkContext where
  options : Options
  store : Store
  addressable : Bool

/-- The value a field's rules see: its stored value with one level of handle, proxy, wrapping
  object or weak reference taken off. -/
def fieldTarget (s : Store) (raw : Value) : Value :=
  match s.resolve raw with
  | .handle t | .proxy t => t
  | .weakRef t => t.getD .none
  | .object _ attrs => (attrs.lookup "__wrapped__").getD raw
  | _ => raw

/-- Whether the walk tracks a value on its path to find cycles: containers and records. -/
def tracked (v : Value) : Bool :=
  match v.kind with
  | .sequence | .associative | .record => true
  | _ => false

mutual

/-- Where walking a value leads before it enters anything but wrappers: the type name of the
  container or record it is or its wrappers lead to (`.inl`), the shared value its wrappers lead
  to (`.inr`), or nowhere. -/
def wrapperRoute : Value → Option (String ⊕ Nat)
  | .shared l => some (.inr l)
  | .handle t | .proxy t | .weakRef (some t) => wrapperRoute t
  | .object _ attrs => wrappedRoute attrs
  | v => if tracked v then some (.inl v.typeName) else none

/-- `wrapperRoute` of the first attribute named `__wrapped__`. -/
def wrappedRoute : List (String × Value) → Option (String ⊕ Nat)
  | [] => none
  | (n, x) :: rest => if n == "__wrapped__" then wrapperRoute x else wrappedRoute rest

end

namespace WalkContext

/-- Walking a shared value again that is still being walked: its wrappers are followed, at most
  `fuel` times, to the first container met again, where the cycle is reported. -/
def metAgain (cx : WalkContext) : Nat → Nat → WalkState → WalkOutcome
  | 0, _, st => .error (.host (.recursion "maximum recursion depth exceeded"), st)
  | fuel + 1, l, st =>
    match wrapperRoute ((cx.store.get? l).getD .none) with
    | some (.inl name) => .error (.cycle name, st)
    | some (.inr w) => cx.metAgain fuel w st
    | none => .ok st

/-- Keeps a result when it fails or when successes are shown. -/
def keep (cx : WalkContext) (st : WalkState) (r : CheckResult) : WalkState :=
  if !r.valid || cx.options.showSuccesses then { st with results := r :: st.results } else st

/-- Whether a field's rules are left alone for its directive and value; asking whether a
  signaling NaN is zero is refused. -/
def leftAlone (cx : WalkContext) (tags : Tags) (value : Value) : Except CheckError Bool :=
  let honor := cx.options.honorSerialization
  let w := cx.store.resolve value
  if cx.store.isNone value then .ok true
  else if honor && tags.directive.omitEmpty && !w.isRecord then w.isZero.mapError .host
  else .ok false

/-- Runs a field's expression rule, if it has one, on the value the rules see. -/
def checkExpr (cx : WalkContext) (spec : FieldSpec) (value : Value) (st : WalkState) :
    WalkOutcome :=
  match spec.tags.expr with
  | none => .ok st
  | some e =>
    let expr := rewriteShorthand spec.name e
    let (checker, r) := st.checker.check spec.name value expr
    match r with
    | .ok valid => .ok (cx.keep { st with checker } ⟨spec.name, value, spec.typeText, expr, valid⟩)
    | .error e => .error (e, { st with checker })

/-- Runs a field's pattern rule, if it has one, on the value the rules see. -/
def checkPattern (cx : WalkContext) (spec : FieldSpec) (value : Value) (st : WalkState) :
    WalkOutcome :=
  match spec.tags.regexp with
  | none => .ok st
  | some p => do
    let text ← (cx.store.matchText value).mapError fun f => (.host f, st)
    let (patterns, r) := st.patterns.search p text
    match r with
    | .ok valid => .ok (cx.keep { st with patterns } ⟨spec.name, value, spec.typeText, p, valid⟩)
    | .error e => .error (e, { st with patterns })

/-- Runs the rules of one field of a record. -/
def checkField (cx : WalkContext) (recordName : String) (spec : FieldSpec) (raw : Value)
    (st : WalkState) : WalkOutcome := do
  let tags := spec.tags
  if !tags.hasRules || (cx.options.honorSerialization && tags.directive.skip) then return st
  if spec.isPrivate && !cx.addressable then
    throw (.access (.privateField spec.name recordName), st)
  let value := fieldTarget cx.store raw
  if ← (cx.leftAlone tags value).mapError (·, st) then return st
  cx.checkExpr spec value st >>= cx.checkPattern spec value

/-- The labels of the store's cells that are not on a path: the walk enters a shared value only
  when its label is among them, so each entry makes them fewer. -/
def unwalked (cx : WalkContext) (path : List Nat) : Nat :=
  (List.range cx.store.cells.size).countP (· ∉ path)

theorem countP_range_not_mem_cons_lt {n l : Nat} {path : List Nat} (hl : l < n) (h : l ∉ path) :
    (List.range n).countP (· ∉ l :: path) < (List.range n).countP (· ∉ path) := by
  induction n with
  | zero => omega
  | succ n ih =>
    rw [List.range_succ, List.countP_append, List.countP_append]
    have hmono (m : List Nat) : m.countP (· ∉ l :: path) ≤ m.countP (· ∉ path) :=
      List.countP_mono_left fun x _ hx => by simp_all
    rcases Nat.lt_succ_iff_lt_or_eq.1 hl with hl | rfl
    · have := ih hl
      have := hmono [n]
      omega
    · have := hmono (List.range l)
      have h1 : [l].countP (· ∉ l :: path) = 0 := by simp
      have h2 : [l].countP (· ∉ path) = 1 := by simp [h]
      omega

theorem unwalked_lt (cx : WalkContext) {l : Nat} {path : List Nat} {inner : Value}
    (hl : ¬path.contains l = true) (h : cx.store.get? l = some inner) :
    cx.unwalked (l :: path) < cx.unwalked path := by
  obtain ⟨hlt, -⟩ := Array.getElem?_eq_some_iff.1 h
  exact countP_range_not_mem_cons_lt hlt (by simpa using hl)

mutual

/-- Walks a value, with the labels of the shared values being walked. -/
def walk (cx : WalkContext) (path : List Nat) (v : Value) (st : WalkState) : WalkOutcome :=
  match v with
  | .shared l =>
    if _hl : path.contains l then cx.metAgain cx.store.cells.size l st
    else
      match _h : cx.store.get? l with
      | none => .ok st
      | some inner => cx.walk (l :: path) inner st
  | .list xs | .tuple xs | .set xs | .frozenSet xs | .deque xs => cx.walkItems path xs st
  | .dict es => cx.walkEntries path es st
  | .handle t | .proxy t => cx.walk path t st
  | .weakRef (some t) => cx.walk path t st
  | .object _ attrs => cx.walkWrapped path attrs st
  | .record c slots =>
    match fieldSpecs c with
    | .error f => .error (.host f, st)
    | .ok specs => cx.walkFields path c.name specs slots st
  | _ => .ok st
termination_by (cx.unwalked path, sizeOf v)
decreasing_by
  all_goals first
    | exact Prod.Lex.left _ _ (cx.unwalked_lt _hl _h)
    | decreasing_tactic

/-- Walks the target of the first attribute named `__wrapped__`, if there is one. -/
def walkWrapped (cx : WalkContext) (path : List Nat) :
    List (String × Value) → WalkState → WalkOutcome
  | [], st => .ok st
  | (n, x) :: rest, st =>
    if n == "__wrapped__" then cx.walk path x st else cx.walkWrapped path rest st
termination_by attrs => (cx.unwalked path, sizeOf attrs)

/-- Walks items in order. -/
def walkItems (cx : WalkContext) (path : List Nat) :
    List Value → WalkState → WalkOutcome
  | [], st => .ok st
  | x :: xs, st => do
    let st ← cx.walk path x st
    cx.walkItems path xs st
termination_by xs => (cx.unwalked path, sizeOf xs)

/-- Walks dictionary entries in order, key before value. -/
def walkEntries (cx : WalkContext) (path : List Nat) :
    List (Value × Value) → WalkState → WalkOutcome
  | [], st => .ok st
  | (k, x) :: es, st => do
    let st ← cx.walk path k st
    let st ← cx.walk path x st
    cx.walkEntries path es st
termination_by es => (cx.unwalked path, sizeOf es)

/-- Checks and walks the fields of a record in order. -/
def walkFields (cx : WalkContext) (path : List Nat) (recordName : String) :
    List FieldSpec → List Value → WalkState → WalkOutcome
  | spec :: specs, x :: xs, st => do
    let st ← if cx.options.honorSerialization && spec.isPrivate then pure st
      else cx.checkField recordName spec x st
    let st ← cx.walk path x st
    cx.walkFields path recordName specs xs st
  | _, _, st => .ok st
termination_by _ xs => (cx.unwalked path, sizeOf xs)

end

end WalkContext

end FieldRules.Validation
