import FieldRules.Lang.Token
import FieldRules.Text.Blank
import FieldRules.Text.Digit
import FieldRules.Number.FloatText

/-! # Splitting rule text into tokens

The text is read from the front. At each place the first class that matches decides the
lexeme: a run of blanks; a number (digits of any script, with a fraction when a point and a
digit follow); a string in double or single quotes, whose body holds no bare quote of its
kind and no backslash before a line break or the end; an ASCII name; or an operator, two
characters before one. Blanks are dropped, and a line feed inside them starts a new line.
A name that is a keyword in any case becomes the keyword. After the last token comes one
end-of-input token, and a `not` keyword followed by `in` is merged into one `not in` token at
the place of the `not`.

Main statement for later proofs: every step consumes a nonempty prefix, so the scan ends. -/

namespace FieldRules.Lang

/-- Why text cannot be split into tokens. -/
inductive LexError where
  /-- No lexeme starts with this character, at this offset, line and column. -/
  | unexpectedChar (c : Char) (position line column : Nat)
  /-- An integer literal with more digits than an integer may be read from. -/
  | integerTooLong (digits : Nat)
deriving Inhabited

/-- The most digits an integer literal may have. -/
def integerDigitLimit : Nat := 4300

/-- The text of a lexing error. -/
def LexError.message : LexError → String
  | .unexpectedChar c _ line column =>
    "Unexpected character '" ++ String.singleton c ++ "' at line " ++ toString line ++
      ", column " ++ toString column
  | .integerTooLong n =>
    "Exceeds the limit (" ++ toString integerDigitLimit ++
      " digits) for integer string conversion: value has " ++ toString n ++
      " digits; use sys.set_int_max_str_digits() to increase the limit"

/-- What a lexeme at the front of the text is. -/
inductive Piece where
  | blank
  | integer (digits : List Nat)
  | decimal (whole frac : List Nat)
  | text (body : List Char)
  | name (s : String)
  | operator (kind : TokenKind)

/-- ASCII letters and the underscore start a name. -/
def isNameStart (c : Char) : Bool := c.isAlpha || c == '_'

/-- ASCII letters, digits and the underscore continue a name. -/
def isNameChar (c : Char) : Bool := c.isAlphanum || c == '_'

/-- The raw body of a quoted string and the text after its closing quote. A backslash takes
  the next character with it unless that is a line feed. -/
def stringBody (q : Char) : List Char → Option (List Char × List Char)
  | [] => none
  | c :: r =>
    if c == q then some ([], r)
    else if c == '\\' then
      match r with
      | [] => none
      | d :: r' =>
        if d == '\n' then none
        else (stringBody q r').map fun (b, rest) => (c :: d :: b, rest)
    else (stringBody q r).map fun (b, rest) => (c :: b, rest)

/-- The character an escape stands for: `n`, `t`, `r` give a line feed, a tab and a carriage
  return; any other character stands for itself. -/
def escapeChar (c : Char) : Char :=
  if c == 'n' then '\n' else if c == 't' then '\t' else if c == 'r' then '\r' else c

/-- Replaces each backslash escape of a raw string body. -/
def unescape : List Char → List Char
  | [] => []
  | '\\' :: c :: rest => escapeChar c :: unescape rest
  | c :: rest => c :: unescape rest

/-- The operator at the front, if any, with its text. -/
def operatorAt (cs : List Char) : Option (List Char × TokenKind) :=
  operatorTable.find? fun (op, _) => op.isPrefixOf cs

/-- The lexeme at the front of nonempty text: what it is, its characters and the rest. -/
def scanFront (cs : List Char) : Option (Piece × List Char × List Char) :=
  match cs with
  | [] => none
  | c :: _ =>
    if Text.isBlank c then
      let (taken, rest) := cs.span Text.isBlank
      some (.blank, taken, rest)
    else if Text.isDecimalDigit c then
      let (whole, r1) := cs.span Text.isDecimalDigit
      let toDigits := fun (ds : List Char) => ds.map fun d => (Text.digitValue? d).getD 0
      match r1 with
      | '.' :: d :: r2 =>
        if Text.isDecimalDigit d then
          let (frac, r3) := (d :: r2).span Text.isDecimalDigit
          some (.decimal (toDigits whole) (toDigits frac), whole ++ '.' :: frac, r3)
        else some (.integer (toDigits whole), whole, r1)
      | _ => some (.integer (toDigits whole), whole, r1)
    else if c == '"' || c == '\'' then
      match stringBody c cs.tail with
      | some (body, rest) => some (.text body, c :: body ++ [c], rest)
      | none => none
    else if isNameStart c then
      let (taken, rest) := cs.span isNameChar
      some (.name (String.ofList taken), taken, rest)
    else
      match operatorAt cs with
      | some (op, kind) => some (.operator kind, op, cs.drop op.length)
      | none => none

/-- Where the scan stands: offset, line, and the offset where the line starts. -/
structure Cursor where
  position : Nat
  line : Nat
  lineStart : Nat

/-- The column of the cursor, counted from one. -/
def Cursor.column (cur : Cursor) : Nat := cur.position - cur.lineStart + 1

/-- Moves the cursor over blank text; each line feed starts a new line. -/
def Cursor.skipBlank (cur : Cursor) (blank : List Char) : Cursor :=
  let feeds := blank.count '\n'
  if feeds == 0 then { cur with position := cur.position + blank.length }
  else
    let lastFeed := blank.length - 1 - (blank.reverse.idxOf '\n')
    { position := cur.position + blank.length, line := cur.line + feeds,
      lineStart := cur.position + lastFeed + 1 }

/-- The token a name becomes: a keyword when it is one in any case, else an identifier. -/
def nameToken (s : String) : TokenKind × Atom :=
  let lower := String.ofList (s.toList.map Char.toLower)
  match keywordTable.find? (·.1 == lower) with
  | some (_, kind, value) => (kind, value)
  | none => (.identifier, .str s)

/-- The number a list of digit values denotes. -/
def digitsToNat (ds : List Nat) : Nat := ds.foldl (fun acc d => acc * 10 + d) 0

/-- The float that digits around a point denote, rounded to nearest. -/
def decimalToFloat (whole frac : List Nat) : Float :=
  let m := digitsToNat (whole ++ frac)
  let width := Int.ofNat (Number.digitLength m)
  let k : Int := -Int.ofNat frac.length
  if m == 0 then 0.0
  else if k + width > 400 then 1.0 / 0.0
  else if k + width < -400 then 0.0
  else Number.floatOfDecimal false m k

/-- The token of a piece other than a blank, at a cursor. -/
def Piece.token? (p : Piece) (cur : Cursor) : Except LexError (Option Token) :=
  let mk := fun (kind : TokenKind) (value : Atom) =>
    Except.ok (some { kind, value, position := cur.position, line := cur.line,
                      column := cur.column })
  match p with
  | .blank => .ok none
  | .integer ds =>
    if ds.length > integerDigitLimit then .error (.integerTooLong ds.length)
    else mk .number (.int (Int.ofNat (digitsToNat ds)))
  | .decimal whole frac => mk .number (.float (decimalToFloat whole frac))
  | .text body => mk .string (.str (String.ofList (unescape body)))
  | .name s => let (kind, value) := nameToken s; mk kind value
  | .operator kind =>
    let text := ((operatorTable.find? (·.2 == kind)).map (·.1)).getD []
    mk kind (.str (String.ofList text))

/-- Scans the rest of the text from a cursor, appending tokens, and ends with the
  end-of-input token. -/
def scanFrom (cs : List Char) (cur : Cursor) (acc : Array Token) : Except LexError (Array Token) :=
  match scanFront cs with
  | none =>
    match cs with
    | [] => .ok (acc.push { kind := .eof, value := .null, position := cur.position,
                            line := cur.line, column := cur.column })
    | c :: _ => .error (.unexpectedChar c cur.position cur.line cur.column)
  | some (piece, taken, rest) =>
    if _h : rest.length < cs.length then
      match piece with
      | .blank => scanFrom rest (cur.skipBlank taken) acc
      | _ =>
        match piece.token? cur with
        | .error e => .error e
        | .ok tok =>
          let next := { cur with position := cur.position + taken.length }
          scanFrom rest next (match tok with | some t => acc.push t | none => acc)
    else
      match cs with
      | [] => .ok acc
      | c :: _ => .error (.unexpectedChar c cur.position cur.line cur.column)
termination_by cs.length

/-- Merges a `not` keyword followed by `in` into one `not in` token. -/
def mergeNotIn (tokens : List Token) : List Token :=
  (tokens.foldl (fun (acc : Array Token) t =>
    match t.kind, acc.back? with
    | .inKw, some prev =>
      match prev.kind, prev.value with
      | .not, .str "not" =>
        acc.pop.push { prev with kind := .notIn, value := .str "not in" }
      | _, _ => acc.push t
    | _, _ => acc.push t) #[]).toList

/-- The tokens of a rule text, ending with the end-of-input token. -/
def tokenize (source : String) : Except LexError (List Token) :=
  match scanFrom source.toList ⟨0, 1, 0⟩ #[] with
  | .error e => .error e
  | .ok tokens => .ok (mergeNotIn tokens.toList)

end FieldRules.Lang
