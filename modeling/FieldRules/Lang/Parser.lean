import FieldRules.Lang.Expr
import FieldRules.Lang.Lexer

/-! # Reading programs from tokens

A recursive-descent reader over the token list. Each binary level reads the level above it
and then, while the next token is one of its operators, another operand of the level above,
grouping to the left. Unary `!` and `-` nest; after a primary expression come member access,
indexing and, when the expression is a bare name, a call. Every recursive step either moves
to a higher level on the same tokens or first consumes a token, so reading ends; the loops
that continue on the tokens a sub-reader left check that they are no longer than before. -/

namespace FieldRules.Lang

/-- Why tokens do not form a program. -/
inductive ParseIssue where
  | empty
  | unexpected (shown : String)
  | letName
  | letAssign
  | memberName
  | indexClose
  | parenClose
  | closer (c : String)
  | objectKey
  | objectColon
deriving Inhabited

/-- A parse failure: what went wrong and the offset of the token where it did. -/
structure ParseError where
  issue : ParseIssue
  position : Nat
deriving Inhabited

/-- How a token's value is shown in a message. -/
def Atom.shown : Atom → String
  | .null => "None"
  | .bool b => if b then "True" else "False"
  | .int n => toString n
  | .float x => Number.floatText x
  | .str s => s

/-- The text of a parse failure. -/
def ParseError.message (e : ParseError) : String :=
  let what := match e.issue with
    | .empty => "Empty expression"
    | .unexpected s => "Unexpected token '" ++ s ++ "'"
    | .letName => "Expected name after 'let'"
    | .letAssign => "Expected '=' after binding name"
    | .memberName => "Expected identifier after '.'"
    | .indexClose => "Expected ']' after index"
    | .parenClose => "Expected ')' after expression"
    | .closer c => "Expected '" ++ c ++ "'"
    | .objectKey => "Expected string or identifier as object key"
    | .objectColon => "Expected ':' after object key"
  what ++ " at position " ++ toString e.position

/-- The reader's input: the remaining tokens and the offset of the end of the text. -/
abbrev Tokens := List Token

/-- The kind of the next token; the end of input when none is left. -/
def peekKind : Tokens → TokenKind
  | [] => .eof
  | t :: _ => t.kind

/-- The offset of the next token. -/
def peekPos (endPos : Nat) : Tokens → Nat
  | [] => endPos
  | t :: _ => t.position

/-- The failure "unexpected token" at the next token. -/
def unexpectedAt (endPos : Nat) : Tokens → ParseError
  | [] => ⟨.unexpected "None", endPos⟩
  | t :: _ => ⟨.unexpected t.value.shown, t.position⟩

/-- The closing text of a bracket kind. -/
def closerText : TokenKind → String
  | .rparen => ")" | .rbracket => "]" | _ => "\x7d"

/-- The value of a literal token. -/
def literalOf (t : Token) : Atom :=
  match t.kind with
  | .null => .null
  | _ => t.value

/-- A key token's text. -/
def keyText : Atom → String
  | .str s => s
  | a => a.shown

mutual

/-- Reads an expression of binary level `level` (levels 5 and up are unary expressions). -/
def parseLevel (endPos : Nat) (level : Nat) (ts : Tokens) : Except ParseError (Expr × Tokens) :=
  if _hl : level < 5 then
    match parseLevel endPos (level + 1) ts with
    | .error e => .error e
    | .ok (lhs, rest) =>
      if _h : rest.length < ts.length then parseLevelRest endPos level lhs rest
      else .error (unexpectedAt endPos rest)
  else parseUnary endPos ts
termination_by (ts.length, 3 * (6 - level) + 3)

/-- Continues a binary level after its first operand. -/
def parseLevelRest (endPos : Nat) (level : Nat) (lhs : Expr) (ts : Tokens) :
    Except ParseError (Expr × Tokens) :=
  match ts with
  | [] => .ok (lhs, [])
  | t :: rest =>
    match binOpAt level t.kind with
    | none => .ok (lhs, t :: rest)
    | some op =>
      match parseLevel endPos (level + 1) rest with
      | .error e => .error e
      | .ok (rhs, rest') =>
        if _h : rest'.length ≤ rest.length then
          parseLevelRest endPos level (.binary op lhs rhs) rest'
        else .error (unexpectedAt endPos rest')
termination_by (ts.length, 3 * (6 - level) + 2)

/-- Reads a unary expression: `!` or `-` before a unary expression, or a postfix one. -/
def parseUnary (endPos : Nat) (ts : Tokens) : Except ParseError (Expr × Tokens) :=
  match ts with
  | t :: rest =>
    if t.kind == .not then
      match parseUnary endPos rest with
      | .error e => .error e
      | .ok (e, rest') => .ok (.unary .not e, rest')
    else if t.kind == .minus then
      match parseUnary endPos rest with
      | .error e => .error e
      | .ok (e, rest') => .ok (.unary .neg e, rest')
    else parsePostfix endPos (t :: rest)
  | [] => parsePostfix endPos []
termination_by (ts.length, 2)

/-- Reads a primary expression and the member accesses, indexes and calls after it. -/
def parsePostfix (endPos : Nat) (ts : Tokens) : Except ParseError (Expr × Tokens) :=
  match parsePrimary endPos ts with
  | .error e => .error e
  | .ok (e, rest) =>
    if _h : rest.length < ts.length then parsePostfixRest endPos e rest
    else .error (unexpectedAt endPos rest)
termination_by (ts.length, 1)

/-- Continues after a postfix expression. -/
def parsePostfixRest (endPos : Nat) (e : Expr) (ts : Tokens) :
    Except ParseError (Expr × Tokens) :=
  match ts with
  | [] => .ok (e, [])
  | t :: rest =>
    match t.kind with
    | .dot =>
      match rest with
      | m :: rest' =>
        if m.kind == .identifier then
          parsePostfixRest endPos (.member e (keyText m.value)) rest'
        else .error ⟨.memberName, m.position⟩
      | [] => .error ⟨.memberName, endPos⟩
    | .lbracket =>
      match parseLevel endPos 0 rest with
      | .error err => .error err
      | .ok (key, rest') =>
        match rest' with
        | c :: rest'' =>
          if c.kind == .rbracket then
            if _h : rest''.length ≤ rest.length then parsePostfixRest endPos (.index e key) rest''
            else .error (unexpectedAt endPos rest'')
          else .error ⟨.indexClose, c.position⟩
        | [] => .error ⟨.indexClose, endPos⟩
    | .lparen =>
      match e with
      | .var fn =>
        match parseItems endPos .rparen rest with
        | .error err => .error err
        | .ok (args, rest') =>
          if _h : rest'.length ≤ rest.length then parsePostfixRest endPos (.call fn args) rest'
          else .error (unexpectedAt endPos rest')
      | _ => .ok (e, t :: rest)
    | _ => .ok (e, t :: rest)
termination_by (ts.length, 3)

/-- Reads a primary expression: a literal, a name, a parenthesised expression, an array or
  an object. -/
def parsePrimary (endPos : Nat) (ts : Tokens) : Except ParseError (Expr × Tokens) :=
  match ts with
  | [] => .error (unexpectedAt endPos [])
  | t :: rest =>
    match t.kind with
    | .number | .string | .boolean | .null => .ok (.lit (literalOf t), rest)
    | .identifier => .ok (.var (keyText t.value), rest)
    | .lparen =>
      match parseLevel endPos 0 rest with
      | .error e => .error e
      | .ok (e, rest') =>
        match rest' with
        | c :: rest'' =>
          if c.kind == .rparen then .ok (e, rest'') else .error ⟨.parenClose, c.position⟩
        | [] => .error ⟨.parenClose, endPos⟩
    | .lbracket =>
      match parseItems endPos .rbracket rest with
      | .error e => .error e
      | .ok (items, rest') => .ok (.array items, rest')
    | .lbrace =>
      match parsePairs endPos rest with
      | .error e => .error e
      | .ok (entries, rest') => .ok (.object entries, rest')
    | _ => .error (unexpectedAt endPos ts)
termination_by (ts.length, 0)

/-- Reads comma-separated expressions up to and including a closing token. -/
def parseItems (endPos : Nat) (closing : TokenKind) (ts : Tokens) :
    Except ParseError (List Expr × Tokens) :=
  match ts with
  | t :: rest =>
    if t.kind == closing then .ok ([], rest)
    else
      match parseLevel endPos 0 (t :: rest) with
      | .error e => .error e
      | .ok (item, rest') =>
        if _h : rest'.length < (t :: rest).length then parseItemsRest endPos closing [item] rest'
        else .error (unexpectedAt endPos rest')
  | [] => .error ⟨.unexpected "None", endPos⟩
termination_by (ts.length, 30)

/-- Continues a comma-separated list after an item. -/
def parseItemsRest (endPos : Nat) (closing : TokenKind) (acc : List Expr) (ts : Tokens) :
    Except ParseError (List Expr × Tokens) :=
  match ts with
  | t :: rest =>
    if t.kind == .comma then
      match parseLevel endPos 0 rest with
      | .error e => .error e
      | .ok (item, rest') =>
        if _h : rest'.length ≤ rest.length then parseItemsRest endPos closing (acc ++ [item]) rest'
        else .error (unexpectedAt endPos rest')
    else if t.kind == closing then .ok (acc, rest)
    else .error ⟨.closer (closerText closing), t.position⟩
  | [] => .error ⟨.closer (closerText closing), endPos⟩
termination_by (ts.length, 29)

/-- Reads one `key: value` entry of an object literal. -/
def parsePair (endPos : Nat) (ts : Tokens) : Except ParseError ((String × Expr) × Tokens) :=
  match ts with
  | t :: rest =>
    if t.kind == .string || t.kind == .identifier then
      match rest with
      | c :: rest' =>
        if c.kind == .colon then
          match parseLevel endPos 0 rest' with
          | .error e => .error e
          | .ok (v, rest'') => .ok ((keyText t.value, v), rest'')
        else .error ⟨.objectColon, c.position⟩
      | [] => .error ⟨.objectColon, endPos⟩
    else .error ⟨.objectKey, t.position⟩
  | [] => .error ⟨.objectKey, endPos⟩
termination_by (ts.length, 30)

/-- Reads the entries of an object literal up to and including the closing brace. -/
def parsePairs (endPos : Nat) (ts : Tokens) :
    Except ParseError (List (String × Expr) × Tokens) :=
  match ts with
  | t :: rest =>
    if t.kind == .rbrace then .ok ([], rest)
    else
      match parsePair endPos (t :: rest) with
      | .error e => .error e
      | .ok ((k, v), rest') =>
        if _h : rest'.length < (t :: rest).length then parsePairsRest endPos (putEntry [] k v) rest'
        else .error (unexpectedAt endPos rest')
  | [] => .error ⟨.objectKey, endPos⟩
termination_by (ts.length, 31)

/-- Continues an object literal after an entry. -/
def parsePairsRest (endPos : Nat) (acc : List (String × Expr)) (ts : Tokens) :
    Except ParseError (List (String × Expr) × Tokens) :=
  match ts with
  | t :: rest =>
    if t.kind == .comma then
      match parsePair endPos rest with
      | .error e => .error e
      | .ok ((k, v), rest') =>
        if _h : rest'.length ≤ rest.length then parsePairsRest endPos (putEntry acc k v) rest'
        else .error (unexpectedAt endPos rest')
    else if t.kind == .rbrace then .ok (acc, rest)
    else .error ⟨.closer "\x7d", t.position⟩
  | [] => .error ⟨.closer "\x7d", endPos⟩
termination_by (ts.length, 29)

end

/-- Reads one statement: a `let` binding or an expression. -/
def parseStatement (endPos : Nat) (ts : Tokens) : Except ParseError (Statement × Tokens) :=
  match ts with
  | t :: rest =>
    if t.kind == .letKw then
      match rest with
      | n :: rest' =>
        if n.kind == .identifier then
          match rest' with
          | a :: rest'' =>
            if a.kind == .assign then
              match parseLevel endPos 0 rest'' with
              | .error e => .error e
              | .ok (v, r) => .ok (.bind (keyText n.value) v, r)
            else .error ⟨.letAssign, a.position⟩
          | [] => .error ⟨.letAssign, endPos⟩
        else .error ⟨.letName, n.position⟩
      | [] => .error ⟨.letName, endPos⟩
    else
      match parseLevel endPos 0 ts with
      | .error e => .error e
      | .ok (e, r) => .ok (.eval e, r)
  | [] =>
    match parseLevel endPos 0 ts with
    | .error e => .error e
    | .ok (e, r) => .ok (.eval e, r)

/-- Reads statements after a semicolon: a semicolon at the very end closes the program. -/
def parseMoreStatements (endPos : Nat) (acc : List Statement) (ts : Tokens) :
    Except ParseError (List Statement × Tokens) :=
  match ts with
  | t :: rest =>
    if t.kind == .semicolon then
      if peekKind rest == .eof then .ok (acc, rest)
      else
        match parseStatement endPos rest with
        | .error e => .error e
        | .ok (s, rest') =>
          if _h : rest'.length ≤ rest.length then parseMoreStatements endPos (acc ++ [s]) rest'
          else .error (unexpectedAt endPos rest')
    else .ok (acc, ts)
  | [] => .ok (acc, [])
termination_by ts.length

/-- Reads a whole program from its tokens. -/
def parseTokens (endPos : Nat) (ts : Tokens) : Except ParseError Program :=
  if peekKind ts == .eof then .error ⟨.empty, peekPos endPos ts⟩
  else
    match parseStatement endPos ts with
    | .error e => .error e
    | .ok (s, rest) =>
      match parseMoreStatements endPos [s] rest with
      | .error e => .error e
      | .ok (stmts, rest') =>
        if peekKind rest' == .eof then .ok ⟨stmts⟩
        else .error (unexpectedAt endPos rest')

/-- Why a text is not a program: it does not split into tokens, or the tokens do not parse. -/
inductive SyntaxError where
  | lex (e : LexError)
  | parse (e : ParseError)
deriving Inhabited

/-- The text of a syntax error. -/
def SyntaxError.message : SyntaxError → String
  | .lex e => e.message
  | .parse e => e.message

/-- Reads a program from rule text. -/
def parse (source : String) : Except SyntaxError Program :=
  match tokenize source with
  | .error e => .error (.lex e)
  | .ok ts =>
    match parseTokens source.length ts with
    | .error e => .error (.parse e)
    | .ok p => .ok p

end FieldRules.Lang
