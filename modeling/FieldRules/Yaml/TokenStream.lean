import FieldRules.Yaml.Token.Scalar

/-! # YAML token streams

The tokens of a document in order, read on demand. Reading them needs more than the text of
each: a block collection opens where a line is indented deeper than the enclosing block and
closes where the indentation falls back, and a key that is not marked by `?` is only known to
be one when the `:` after it is read. So a stream keeps the indentation levels of the open
block collections, the flow nesting level, whether a key may start here, and per flow level the
place of a possible key. When `:` follows a possible key, a key token (and in block context a
block mapping start) is put in front of the key's tokens; a possible key that reaches the end
of its line, or more than 1024 characters, is given up, and a fault if the key was required
(a block-context key at the block's own indentation). -/

namespace FieldRules.Yaml

/-- The place of a possible key: the number of its first token, whether it is required, and
  where it starts. -/
structure PossibleKey where
  tokenNumber : Nat
  required : Bool
  index : Nat
  mark : Mark
deriving Inhabited

/-- A stream of tokens being read from a document. -/
structure TokenStream where
  source : Cursor
  done : Bool := false
  flowLevel : Int := 0
  /-- Tokens read and not yet taken. -/
  queue : List Token := []
  /-- How many tokens have been taken. -/
  taken : Nat := 0
  indent : Int := -1
  indents : List Int := []
  allowKey : Bool := true
  /-- Possible keys by flow level, in the order they were noted. -/
  keys : List (Int × PossibleKey) := []
deriving Inhabited

/-- Reading tokens: a stream that moves on, and a fault that ends the reading. -/
abbrev ScanM := StateT TokenStream (Except ReadFault)

/-- Inserts an item at a position of a list, at its end when the list is shorter. -/
def insertAt : List α → Nat → α → List α
  | l, 0, a => a :: l
  | [], _, a => [a]
  | x :: xs, n + 1, a => x :: insertAt xs n a

namespace TokenStream

/-- The stream of a document's text, holding its stream start. -/
def ofText (text : String) : Except ReadFault TokenStream := do
  let c ← Cursor.ofText text
  return { source := c, queue := [⟨.streamStart, c.mark, c.mark⟩] }

/-- Runs a reading of the text at the stream's place. -/
def read (r : ReadM α) : ScanM α := do
  let s ← get
  let (a, c) ← liftM (r.run s.source)
  set { s with source := c }
  return a

/-- The mark of the stream's place. -/
def mark : ScanM Mark := do return (← get).source.mark

/-- The character at the stream's place. -/
def peek : ScanM Char := do return (← get).source.peek

/-- The character `k` places ahead. -/
def peekAt (k : Nat) : ScanM Char := do return (← get).source.peekAt k

/-- The column of the stream's place. -/
def column : ScanM Int := do return Int.ofNat (← get).source.column

/-- Whether the stream is in flow context. -/
def inFlow : ScanM Bool := do return (← get).flowLevel != 0

/-- Adds a token at the end. -/
def push (t : Token) : ScanM Unit := modify fun s => { s with queue := s.queue ++ [t] }

/-- The fault of a possible key that is required and given up. -/
def keyFault (key : PossibleKey) : ScanM α := do
  throw (.marked "ScannerError" (some "while scanning a simple key") (some key.mark)
    "could not find expected ':'" (← mark))

/-- Gives up the possible keys that can no longer be keys: those whose line has ended or that
  started more than 1024 characters ago. -/
def dropStaleKeys : ScanM Unit := do
  let s ← get
  let stale (k : PossibleKey) : Bool :=
    k.mark.line != s.source.line || s.source.index - k.index > 1024
  match s.keys.find? fun (_, k) => stale k && k.required with
  | some (_, k) => keyFault k
  | none => set { s with keys := s.keys.filter fun (_, k) => !stale k }

/-- The number of the first token of the earliest possible key. -/
def nextKeyToken (s : TokenStream) : Option Nat :=
  s.keys.foldl (fun acc (_, k) => match acc with
    | some n => some (Nat.min n k.tokenNumber)
    | none => some k.tokenNumber) none

/-- Gives up the possible key of the current flow level; a fault if it is required. -/
def removeKey : ScanM Unit := do
  let s ← get
  match s.keys.lookup s.flowLevel with
  | some k =>
    if k.required then keyFault k
    else set { s with keys := s.keys.filter (·.1 != s.flowLevel) }
  | none => pure ()

/-- Notes that a key may start here, when one may. -/
def saveKey : ScanM Unit := do
  let s ← get
  let required := s.flowLevel == 0 && s.indent == Int.ofNat s.source.column
  if s.allowKey then
    removeKey
    let s ← get
    let key : PossibleKey :=
      { tokenNumber := s.taken + s.queue.length, required := required,
        index := s.source.index, mark := s.source.mark }
    set { s with keys := s.keys ++ [(s.flowLevel, key)] }

/-- Closes the block collections indented deeper than a column, in block context. -/
def unwindIndent (col : Int) : ScanM Unit := do
  let s ← get
  if s.flowLevel != 0 then return
  let m := s.source.mark
  let (indent, indents, closed) := pop s.indent s.indents 0
  set { s with
    indent := indent
    indents := indents
    queue := s.queue ++ List.replicate closed (Token.mk .blockEnd m m) }
where
  /-- Pops the levels deeper than the column, counting them. -/
  pop (indent : Int) : List Int → Nat → Int × List Int × Nat
    | i :: rest, n => if indent > col then pop i rest (n + 1) else (indent, i :: rest, n)
    | [], n => (indent, [], n)

/-- Opens a block level at a column deeper than the current one; whether it did. -/
def addIndent (col : Int) : ScanM Bool := do
  let s ← get
  if s.indent < col then
    set { s with indents := s.indent :: s.indents, indent := col }
    return true
  else return false

/-- Moves over blanks, comments and line ends to the next token. A line end in block context
  lets a key start. -/
def skipToToken : ScanM Unit := do
  let s ← get
  if s.source.index == 0 && s.source.peek == '\uFEFF' then read (ReadM.forward 1)
  go ((← get).source.remaining + 1)
where
  /-- Moves on line by line; `fuel` bounds the steps. -/
  go : Nat → ScanM Unit
    | 0 => pure ()
    | fuel + 1 => do
      read (ReadM.skipWhile (· == ' '))
      if (← peek) == '#' then read (ReadM.skipWhile fun c => !isBreakOrEnd c)
      let b ← read ReadM.lineBreak
      if b != "" then
        if !(← inFlow) then modify fun s => { s with allowKey := true }
        go fuel

/-- Reads a token of one character, or of three for document markers. -/
def pushIndicator (kind : TokenKind) (width : Nat) : ScanM Unit := do
  let start ← mark
  read (ReadM.forward width)
  push ⟨kind, start, ← mark⟩

/-- Reads the end of the stream. -/
def fetchStreamEnd : ScanM Unit := do
  unwindIndent (-1)
  removeKey
  modify fun s => { s with allowKey := false, keys := [] }
  let m ← mark
  push ⟨.streamEnd, m, m⟩
  modify fun s => { s with done := true }

/-- Reads a directive. -/
def fetchDirective : ScanM Unit := do
  unwindIndent (-1)
  removeKey
  modify fun s => { s with allowKey := false }
  push (← read ReadM.directive)

/-- Reads a document start or end marker. -/
def fetchDocumentMarker (kind : TokenKind) : ScanM Unit := do
  unwindIndent (-1)
  removeKey
  modify fun s => { s with allowKey := false }
  pushIndicator kind 3

/-- Reads `[` or `{`. -/
def fetchFlowStart (kind : TokenKind) : ScanM Unit := do
  saveKey
  modify fun s => { s with flowLevel := s.flowLevel + 1, allowKey := true }
  pushIndicator kind 1

/-- Reads `]` or `}`. -/
def fetchFlowEnd (kind : TokenKind) : ScanM Unit := do
  removeKey
  modify fun s => { s with flowLevel := s.flowLevel - 1, allowKey := false }
  pushIndicator kind 1

/-- Reads `,`. -/
def fetchFlowEntry : ScanM Unit := do
  modify fun s => { s with allowKey := true }
  removeKey
  pushIndicator .flowEntry 1

/-- Reads `-` of a block sequence entry. -/
def fetchBlockEntry : ScanM Unit := do
  if !(← inFlow) then
    if !(← get).allowKey then
      throw (.marked "ScannerError" none none "sequence entries are not allowed here" (← mark))
    if ← addIndent (← column) then
      let m ← mark
      push ⟨.blockSequenceStart, m, m⟩
  modify fun s => { s with allowKey := true }
  removeKey
  pushIndicator .blockEntry 1

/-- Reads `?` of a key. -/
def fetchKey : ScanM Unit := do
  let flow ← inFlow
  if !flow then
    if !(← get).allowKey then
      throw (.marked "ScannerError" none none "mapping keys are not allowed here" (← mark))
    if ← addIndent (← column) then
      let m ← mark
      push ⟨.blockMappingStart, m, m⟩
  modify fun s => { s with allowKey := !flow }
  removeKey
  pushIndicator .key 1

/-- Reads `:` of a value: a possible key at this level becomes a key. -/
def fetchValue : ScanM Unit := do
  let s ← get
  let flow := s.flowLevel != 0
  match s.keys.lookup s.flowLevel with
  | some key =>
    let place := key.tokenNumber - s.taken
    let queue := insertAt s.queue place ⟨.key, key.mark, key.mark⟩
    set { s with keys := s.keys.filter (·.1 != s.flowLevel), queue }
    if !flow then
      if ← addIndent (Int.ofNat key.mark.column) then
        modify fun s => { s with
          queue := insertAt s.queue place ⟨.blockMappingStart, key.mark, key.mark⟩ }
    modify fun s => { s with allowKey := false }
  | none =>
    if !flow then
      if !s.allowKey then
        throw (.marked "ScannerError" none none "mapping values are not allowed here" (← mark))
      if ← addIndent (← column) then
        let m ← mark
        push ⟨.blockMappingStart, m, m⟩
    modify fun s => { s with allowKey := !flow }
    removeKey
  pushIndicator .value 1

/-- Reads a token that may start a key and after which none may: an alias, an anchor, a tag
  or a quoted scalar. -/
def fetchKeyStart (r : ReadM Token) : ScanM Unit := do
  saveKey
  modify fun s => { s with allowKey := false }
  push (← read r)

/-- Reads a block scalar; a key may follow it. -/
def fetchBlockScalar (folded : Bool) : ScanM Unit := do
  modify fun s => { s with allowKey := true }
  removeKey
  let indent := (← get).indent
  push (← read (ReadM.blockScalar folded indent))

/-- Reads a plain scalar; a key may follow it when a line end follows. -/
def fetchPlain : ScanM Unit := do
  saveKey
  modify fun s => { s with allowKey := false }
  let s ← get
  let (t, broke) ← read (ReadM.plainScalar s.indent (s.flowLevel != 0))
  modify fun s => { s with allowKey := broke }
  push t

/-- Whether three characters at the cursor, at the start of a line, are a document marker
  made of a character. -/
def atMarker (c : Char) : ScanM Bool := do
  let s ← get
  return s.source.column == 0 && s.source.ahead 3 == String.ofList [c, c, c] &&
    isBlankOrEnd (s.source.peekAt 3)

/-- Reads the next token or tokens. -/
def fetchMore : ScanM Unit := do
  skipToToken
  dropStaleKeys
  unwindIndent (← column)
  let ch ← peek
  let next ← peekAt 1
  let flow ← inFlow
  if ch == '\x00' then fetchStreamEnd
  else if ch == '%' && (← column) == 0 then fetchDirective
  else if ch == '-' && (← atMarker '-') then fetchDocumentMarker .documentStart
  else if ch == '.' && (← atMarker '.') then fetchDocumentMarker .documentEnd
  else if ch == '[' then fetchFlowStart .flowSequenceStart
  else if ch == '{' then fetchFlowStart .flowMappingStart
  else if ch == ']' then fetchFlowEnd .flowSequenceEnd
  else if ch == '}' then fetchFlowEnd .flowMappingEnd
  else if ch == ',' then fetchFlowEntry
  else if ch == '-' && isBlankOrEnd next then fetchBlockEntry
  else if ch == '?' && (flow || isBlankOrEnd next) then fetchKey
  else if ch == ':' && (flow || isBlankOrEnd next) then fetchValue
  else if ch == '*' then fetchKeyStart (ReadM.anchorOrAlias true)
  else if ch == '&' then fetchKeyStart (ReadM.anchorOrAlias false)
  else if ch == '!' then fetchKeyStart ReadM.tag
  else if ch == '|' && !flow then fetchBlockScalar false
  else if ch == '>' && !flow then fetchBlockScalar true
  else if ch == '\'' then fetchKeyStart (ReadM.quotedScalar false)
  else if ch == '"' then fetchKeyStart (ReadM.quotedScalar true)
  else if !(isBlankOrEnd ch || "-?:,[]\x7b\x7d#&*!|>'\"%@`".toList.contains ch) ||
      (!isBlankOrEnd next && (ch == '-' || (!flow && (ch == '?' || ch == ':')))) then
    fetchPlain
  else
    throw (.marked "ScannerError" (some "while scanning for the next token") none
      ("found character " ++ charText ch ++ " that cannot start any token") (← mark))

/-- Whether more tokens must be read before the first one can be taken: none is read yet, or
  it may still turn out to follow an implied key. -/
def needMore : ScanM Bool := do
  let s ← get
  if s.done then return false
  if s.queue.isEmpty then return true
  dropStaleKeys
  return nextKeyToken (← get) == some (← get).taken

/-- Reads tokens until the first one can be taken. -/
def ensure : ScanM Unit := do
  go ((← get).source.remaining + 2)
where
  /-- Reads on; `fuel` bounds the steps. -/
  go : Nat → ScanM Unit
    | 0 => pure ()
    | fuel + 1 => do
      if ← needMore then
        fetchMore
        go fuel

/-- The next token, without taking it. -/
def peekToken : ScanM (Option Token) := do
  ensure
  return (← get).queue.head?

/-- Takes the next token. -/
def nextToken : ScanM (Option Token) := do
  ensure
  let s ← get
  match s.queue with
  | t :: rest =>
    set { s with queue := rest, taken := s.taken + 1 }
    return some t
  | [] => return none

end TokenStream

end FieldRules.Yaml
