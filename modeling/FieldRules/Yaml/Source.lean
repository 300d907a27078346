import FieldRules.Text.Quote

/-! # YAML source text

The text of a document as its reader sees it: a line end `\r\n` or `\r` is read as `\n`, as a
text file read with universal newlines gives it, and a zero character marks the end. A text
that holds a character outside the printable set of YAML 1.1 is refused at once, naming the
character and its position counted in characters.

A cursor walks the text and keeps the line and column of its place: a line ends after `\n`,
NEL (`\x85`) and the line and paragraph separators, and a byte order mark takes no column.

Faults carry the words in which the reader reports them: what was being read and where it
began, what went wrong and where, each place as line and column counted from one in the named
source. -/

namespace FieldRules.Yaml

/-- A place in a document: line and column, both counted from zero. -/
structure Mark where
  line : Nat
  column : Nat
deriving Inhabited, BEq, DecidableEq

/-- The line that places a mark in a named source. -/
def Mark.describe (source : String) (m : Mark) : String :=
  "  in \"" ++ source ++ "\", line " ++ toString (m.line + 1) ++ ", column " ++
    toString (m.column + 1)

/-- Why a document cannot be read. -/
inductive ReadFault where
  /-- A character outside the printable set, by code point and position. -/
  | unprintable (code position : Nat)
  /-- A fault in the structure of the document: its kind, what was being read and where it
    began, what went wrong and where. -/
  | marked (kind : String) (context : Option String) (contextMark : Option Mark)
      (problem : String) (place : Mark)
  /-- A fault in building a value, with the kind and message of the host's error. -/
  | host (kind message : String)
deriving Inhabited

/-- The kind of a fault, as the host names the error. -/
def ReadFault.kind : ReadFault → String
  | .unprintable .. => "ReaderError"
  | .marked kind .. => kind
  | .host kind _ => kind

/-- The message of a fault in a named source. The place where reading began is left out when
  it is the place of the fault. -/
def ReadFault.message (source : String) : ReadFault → String
  | .unprintable code position =>
    "unacceptable character #x" ++ Text.hexDigits 4 code ++
      ": special characters are not allowed\n  in \"" ++ source ++ "\", position " ++
      toString position
  | .marked _ context contextMark problem place =>
    let contextLines := match context with
      | some c => [c]
      | none => []
    let markLines := match contextMark with
      | some m => if m == place then [] else [m.describe source]
      | none => []
    "\n".intercalate (contextLines ++ markLines ++ [problem, place.describe source])
  | .host _ message => message

/-- Whether a character may stand in a document: tab, line ends, and the printable characters
  of YAML 1.1. -/
def isYamlPrintable (c : Char) : Bool :=
  let n := c.toNat
  c == '\t' || c == '\n' || c == '\r' || (0x20 ≤ n && n ≤ 0x7E) || n == 0x85 ||
    (0xA0 ≤ n && n ≤ 0xD7FF) || (0xE000 ≤ n && n ≤ 0xFFFD) || 0x10000 ≤ n

/-- Reads the line ends `\r\n` and `\r` as `\n`; `acc` holds what is read, last first. -/
def normalizeBreaks (acc : List Char) : List Char → List Char
  | '\r' :: '\n' :: rest => normalizeBreaks ('\n' :: acc) rest
  | '\r' :: rest => normalizeBreaks ('\n' :: acc) rest
  | c :: rest => normalizeBreaks (c :: acc) rest
  | [] => acc.reverse

/-- Whether a character ends a line. -/
def isBreak (c : Char) : Bool := c == '\n' || c == '\x85' || c == '\u2028' || c == '\u2029'

/-- Whether a character ends a line or the text. -/
def isBreakOrEnd (c : Char) : Bool := c == '\x00' || isBreak c

/-- Whether a character is a space, a line end or the end of the text. -/
def isSpaceOrEnd (c : Char) : Bool := c == ' ' || isBreakOrEnd c

/-- Whether a character is a space, a tab, a line end or the end of the text. -/
def isBlankOrEnd (c : Char) : Bool := c == '\t' || isSpaceOrEnd c

/-- Whether a character is an ASCII letter or digit, `-` or `_`: the characters of names. -/
def isWordChar (c : Char) : Bool :=
  ('0' ≤ c && c ≤ '9') || ('A' ≤ c && c ≤ 'Z') || ('a' ≤ c && c ≤ 'z') || c == '-' || c == '_'

/-- Whether a character is an ASCII digit. -/
def isAsciiDigit (c : Char) : Bool := '0' ≤ c && c ≤ '9'

/-- Whether a character is an ASCII hexadecimal digit. -/
def isHexChar (c : Char) : Bool :=
  isAsciiDigit c || ('a' ≤ c && c ≤ 'f') || ('A' ≤ c && c ≤ 'F')

/-- A place in the text of a document, with its line and column. -/
structure Cursor where
  chars : Array Char
  index : Nat := 0
  line : Nat := 0
  column : Nat := 0
deriving Inhabited

namespace Cursor

/-- The cursor at the start of a text, the text followed by the zero character that marks its
  end; or the first character that may not stand in a document, with its position. -/
def ofText (text : String) : Except ReadFault Cursor :=
  let cs := normalizeBreaks [] text.toList
  match (cs.zipIdx.find? fun (c, _) => !isYamlPrintable c) with
  | some (c, i) => .error (.unprintable c.toNat i)
  | none => .ok { chars := (cs ++ ['\x00']).toArray }

/-- The character `k` places ahead, the zero character past the end. -/
def peekAt (c : Cursor) (k : Nat) : Char := c.chars[c.index + k]?.getD '\x00'

/-- The character at the cursor. -/
def peek (c : Cursor) : Char := c.peekAt 0

/-- The mark of the cursor's place. -/
def mark (c : Cursor) : Mark := ⟨c.line, c.column⟩

/-- The cursor one character on. -/
def step (c : Cursor) : Cursor :=
  match c.chars[c.index]? with
  | none => c
  | some ch =>
    if isBreak ch then { c with index := c.index + 1, line := c.line + 1, column := 0 }
    else if ch == '\uFEFF' then { c with index := c.index + 1 }
    else { c with index := c.index + 1, column := c.column + 1 }

/-- The cursor `n` characters on. -/
def forward (c : Cursor) : Nat → Cursor
  | 0 => c
  | n + 1 => c.step.forward n

/-- The next `n` characters. -/
def ahead (c : Cursor) (n : Nat) : String :=
  String.ofList ((c.chars.extract c.index (c.index + n)).toList)

/-- How many characters from `k` places ahead on satisfy `p`. -/
def countFrom (c : Cursor) (p : Char → Bool) (k : Nat) : Nat :=
  go k (c.chars.size + 1)
where
  /-- Counts on from `j`; `fuel` bounds the steps. -/
  go (j : Nat) : Nat → Nat
    | 0 => j - k
    | fuel + 1 => if p (c.peekAt j) then go (j + 1) fuel else j - k

/-- How many characters the cursor has left before the end mark. -/
def remaining (c : Cursor) : Nat := c.chars.size - c.index

end Cursor

/-- Reading from a document: a cursor that moves, and a fault that ends the reading. -/
abbrev ReadM := StateT Cursor (Except ReadFault)

namespace ReadM

/-- The character `k` places ahead. -/
def peekAt (k : Nat) : ReadM Char := do return (← get).peekAt k

/-- The character at the cursor. -/
def peek : ReadM Char := peekAt 0

/-- The mark of the cursor's place. -/
def mark : ReadM Mark := do return (← get).mark

/-- Moves `n` characters on. -/
def forward (n : Nat) : ReadM Unit := modify fun c => c.forward n

/-- The next `n` characters. -/
def ahead (n : Nat) : ReadM String := do return (← get).ahead n

/-- How many characters from `k` places ahead on satisfy `p`. -/
def countFrom (p : Char → Bool) (k : Nat) : ReadM Nat := do return (← get).countFrom p k

/-- Takes the next `n` characters. -/
def take (n : Nat) : ReadM String := do
  let s ← ahead n
  forward n
  return s

/-- Moves over the characters that satisfy `p`. -/
def skipWhile (p : Char → Bool) : ReadM Unit := do forward (← countFrom p 0)

/-- Reads a line end: `\n` for `\n` and NEL, the separator itself for a line or paragraph
  separator, and nothing when no line ends here. -/
def lineBreak : ReadM String := do
  let ch ← peek
  if ch == '\n' || ch == '\x85' then
    forward 1
    return "\n"
  else if ch == '\u2028' || ch == '\u2029' then
    forward 1
    return String.singleton ch
  else return ""

/-- A fault of the scanner at the cursor: what was being read and where it began, and what
  went wrong. -/
def scanFault (context : Option String) (start : Option Mark) (problem : String) :
    ReadM α := do
  throw (.marked "ScannerError" context start problem (← mark))

end ReadM

/-- The text of a character as a message shows it, in quotes. -/
def charText (c : Char) : String := Text.quoteText (String.singleton c)

end FieldRules.Yaml
