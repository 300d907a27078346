/-! # Tokens of the rule language

A token has a kind, a value, and the place where it starts: a code-point offset, a line and a
column, both counted from one. Numbers carry their integer or float value, strings their text
after escapes, booleans their truth value; keywords and operators carry their own text (the
keyword in lower case), and `null` and the end of input carry nothing. -/

namespace FieldRules.Lang

/-- A constant of the rule language: what a literal denotes. -/
inductive Atom where
  | null
  | bool (b : Bool)
  | int (n : Int)
  | float (x : Float)
  | str (s : String)
deriving Inhabited

/-- The kinds of token. -/
inductive TokenKind where
  | number | string | boolean | null | identifier | letKw
  | eq | neq | lt | lte | gt | gte
  | and | or | not
  | plus | minus | multiply | divide | modulo
  | inKw | notIn
  | assign
  | lparen | rparen | lbracket | rbracket | lbrace | rbrace
  | comma | dot | colon | semicolon
  | eof
deriving DecidableEq, Repr, Inhabited

/-- The name of a token kind as written in token listings. -/
def TokenKind.name : TokenKind → String
  | .number => "NUMBER" | .string => "STRING" | .boolean => "BOOLEAN" | .null => "NULL"
  | .identifier => "IDENTIFIER" | .letKw => "LET"
  | .eq => "EQ" | .neq => "NEQ" | .lt => "LT" | .lte => "LTE" | .gt => "GT" | .gte => "GTE"
  | .and => "AND" | .or => "OR" | .not => "NOT"
  | .plus => "PLUS" | .minus => "MINUS" | .multiply => "MULTIPLY" | .divide => "DIVIDE"
  | .modulo => "MODULO"
  | .inKw => "IN" | .notIn => "NOT_IN"
  | .assign => "ASSIGN"
  | .lparen => "LPAREN" | .rparen => "RPAREN" | .lbracket => "LBRACKET"
  | .rbracket => "RBRACKET" | .lbrace => "LBRACE" | .rbrace => "RBRACE"
  | .comma => "COMMA" | .dot => "DOT" | .colon => "COLON" | .semicolon => "SEMICOLON"
  | .eof => "EOF"

/-- A token: kind, value, code-point offset, line and column. -/
structure Token where
  kind : TokenKind
  value : Atom
  position : Nat
  line : Nat
  column : Nat
deriving Inhabited

/-- The operators and punctuation, longest first where one is a prefix of another. -/
def operatorTable : List (List Char × TokenKind) :=
  [(['=', '='], .eq), (['!', '='], .neq), (['<', '='], .lte), (['>', '='], .gte),
   (['&', '&'], .and), (['|', '|'], .or),
   (['<'], .lt), (['>'], .gt), (['!'], .not), (['='], .assign),
   (['+'], .plus), (['-'], .minus), (['*'], .multiply), (['/'], .divide), (['%'], .modulo),
   (['('], .lparen), ([')'], .rparen), (['['], .lbracket), ([']'], .rbracket),
   (['{'], .lbrace), (['}'], .rbrace), ([','], .comma), (['.'], .dot), ([':'], .colon),
   ([';'], .semicolon)]

/-- The keywords, in lower case, with the token each becomes. -/
def keywordTable : List (String × TokenKind × Atom) :=
  [("true", .boolean, .bool true), ("false", .boolean, .bool false), ("null", .null, .null),
   ("and", .and, .str "and"), ("or", .or, .str "or"), ("not", .not, .str "not"),
   ("in", .inKw, .str "in"), ("let", .letKw, .str "let")]

end FieldRules.Lang
