import FieldRules.Lang.Token

/-! # Rule programs

A program is a nonempty list of statements separated by semicolons; a statement is a `let`
binding or an expression, and the program's value is its last statement's. Expressions are
literals, names, member and index access, binary and unary operators, calls of named
functions, and array and object literals. Binary operators fall into five levels of
precedence, from `||` (lowest) through `&&`, comparison and membership, `+ -`, to `* / %`;
each level groups to the left. -/

namespace FieldRules.Lang

/-- Binary operators. -/
inductive BinOp where
  | or | and
  | eq | neq | lt | lte | gt | gte | mem | notMem
  | add | sub
  | mul | div | mod
deriving DecidableEq, Repr, Inhabited

/-- Unary operators: logical not and numeric negation. -/
inductive UnOp where
  | not | neg
deriving DecidableEq, Repr, Inhabited

/-- Expressions of the rule language. Object literals keep one entry per key. -/
inductive Expr where
  | lit (a : Atom)
  | var (name : String)
  | member (obj : Expr) (name : String)
  | index (obj : Expr) (key : Expr)
  | binary (op : BinOp) (lhs rhs : Expr)
  | unary (op : UnOp) (arg : Expr)
  | call (fn : String) (args : List Expr)
  | array (items : List Expr)
  | object (entries : List (String × Expr))
deriving Inhabited

/-- Statements: a global binding or an expression. -/
inductive Statement where
  | bind (name : String) (value : Expr)
  | eval (e : Expr)
deriving Inhabited

/-- A program: one or more statements. -/
structure Program where
  statements : List Statement
deriving Inhabited

/-- The text of a binary operator. -/
def BinOp.text : BinOp → String
  | .or => "||" | .and => "&&"
  | .eq => "==" | .neq => "!=" | .lt => "<" | .lte => "<=" | .gt => ">" | .gte => ">="
  | .mem => "in" | .notMem => "not in"
  | .add => "+" | .sub => "-"
  | .mul => "*" | .div => "/" | .mod => "%"

/-- The text of a unary operator. -/
def UnOp.text : UnOp → String
  | .not => "!" | .neg => "-"

/-- The precedence level of a binary operator, from 0 (`||`) to 4 (`* / %`). -/
def BinOp.level : BinOp → Nat
  | .or => 0 | .and => 1
  | .eq | .neq | .lt | .lte | .gt | .gte | .mem | .notMem => 2
  | .add | .sub => 3
  | .mul | .div | .mod => 4

/-- The binary operator a token kind stands for at a precedence level, if any. -/
def binOpAt (level : Nat) (k : TokenKind) : Option BinOp :=
  match level, k with
  | 0, .or => some .or
  | 1, .and => some .and
  | 2, .eq => some .eq | 2, .neq => some .neq | 2, .lt => some .lt | 2, .lte => some .lte
  | 2, .gt => some .gt | 2, .gte => some .gte | 2, .inKw => some .mem
  | 2, .notIn => some .notMem
  | 3, .plus => some .add | 3, .minus => some .sub
  | 4, .multiply => some .mul | 4, .divide => some .div | 4, .modulo => some .mod
  | _, _ => none

/-- Puts an entry into an object's entries: a new key goes last, a repeated key keeps its
  place and takes the new value. -/
def putEntry (entries : List (String × Expr)) (k : String) (v : Expr) : List (String × Expr) :=
  if entries.any (·.1 == k) then entries.map fun (k', v') => if k' == k then (k', v) else (k', v')
  else entries ++ [(k, v)]

end FieldRules.Lang
