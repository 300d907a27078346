import FieldRules.Yaml.Token

/-! # YAML scalar tokens

How the text of a scalar token is read.

A quoted scalar ends at its closing quote wherever the lines fall. Inside single quotes a
quote is written twice; inside double quotes a backslash escapes a character or a line end,
and `\x`, `\u`, `\U` take two, four and eight hexadecimal digits. A line end between words is
folded: a single `\n` becomes a space, and of several the first is dropped. Blanks around line
ends are dropped, and a line that starts a document marker inside quotes is refused.

A block scalar (`|` literal, `>` folded) takes the lines indented at least as its first
nonempty line, or as its indentation indicator says; the chomping indicator `-` drops the final
line ends, `+` keeps them all, and none keeps one. Folding joins lines that start with no
blank, with a space for one line end and the further ones kept.

A plain scalar runs to `: ` or ` #`, in flow context also to `,`, `[`, `]`, `{`, `}` and `?`,
and on the next lines while they are indented beyond the enclosing block; its line ends fold as
in quoted scalars. -/

namespace FieldRules.Yaml

namespace ReadM

/-- The character that a single-character escape after a backslash stands for. -/
def escapeReplacement? (c : Char) : Option Char :=
  match c with
  | '0' => some '\x00' | 'a' => some '\x07' | 'b' => some '\x08' | 't' => some '\t'
  | '\t' => some '\t' | 'n' => some '\n' | 'v' => some '\x0b' | 'f' => some '\x0c'
  | 'r' => some '\r' | 'e' => some '\x1b' | ' ' => some ' ' | '"' => some '"'
  | '\\' => some '\\' | '/' => some '/' | 'N' => some '\x85' | '_' => some '\xa0'
  | 'L' => some '\u2028' | 'P' => some '\u2029'
  | _ => none

/-- How many hexadecimal digits a numeric escape letter takes. -/
def escapeWidth? (c : Char) : Option Nat :=
  match c with
  | 'x' => some 2 | 'u' => some 4 | 'U' => some 8
  | _ => none

/-- The value of hexadecimal digits. -/
def hexValue (s : String) : Nat :=
  s.toList.foldl (fun acc d =>
    acc * 16 + (if isAsciiDigit d then d.toNat - 48 else d.toLower.toNat - 87)) 0

/-- The fault of a quoted scalar. -/
def quotedFault (start : Mark) (problem : String) : ReadM α :=
  scanFault (some "while scanning a quoted scalar") (some start) problem

/-- Whether the cursor stands before a document marker `---` or `...` and a blank. -/
def atDocumentMarker : ReadM Bool := do
  let pre ← ahead 3
  return (pre == "---" || pre == "...") && isBlankOrEnd (← peekAt 3)

/-- Reads the line ends inside a quoted scalar, passing over blanks; a document marker at the
  start of a line is refused. -/
def quotedBreaks (start : Mark) : ReadM (List String) := do
  go ((← get).remaining + 1) []
where
  /-- Reads on; `fuel` bounds the steps. -/
  go : Nat → List String → ReadM (List String)
    | 0, acc => return acc.reverse
    | fuel + 1, acc => do
      if ← atDocumentMarker then quotedFault start "found unexpected document separator"
      skipWhile fun c => c == ' ' || c == '\t'
      if isBreak (← peek) then
        let b ← lineBreak
        go fuel (b :: acc)
      else return acc.reverse

/-- Reads the characters of a quoted scalar up to a blank, a line end or its closing quote. -/
def quotedNonSpaces (double : Bool) (start : Mark) : ReadM (List String) := do
  go ((← get).remaining + 1) []
where
  /-- Reads on; `fuel` bounds the steps. -/
  go : Nat → List String → ReadM (List String)
    | 0, acc => return acc.reverse
    | fuel + 1, acc => do
      let n ← countFrom (fun c => !(c == '\'' || c == '"' || c == '\\' || isBlankOrEnd c)) 0
      let acc ← if n > 0 then do pure ((← take n) :: acc) else pure acc
      let ch ← peek
      if !double && ch == '\'' && (← peekAt 1) == '\'' then
        forward 2
        go fuel ("'" :: acc)
      else if (double && ch == '\'') || (!double && (ch == '"' || ch == '\\')) then
        forward 1
        go fuel (String.singleton ch :: acc)
      else if double && ch == '\\' then
        forward 1
        let ch ← peek
        match escapeReplacement? ch, escapeWidth? ch with
        | some r, _ =>
          forward 1
          go fuel (String.singleton r :: acc)
        | none, some width =>
          forward 1
          for k in List.range width do
            let d ← peekAt k
            if !isHexChar d then
              scanFault (some "while scanning a double-quoted scalar") (some start)
                ("expected escape sequence of " ++ toString width ++
                  " hexdecimal numbers, but found " ++ charText d)
          let code := hexValue (← take width)
          if code > 0x10FFFF then throw (.host "ValueError" "chr() arg not in range(0x110000)")
          go fuel (String.singleton (Char.ofNat code) :: acc)
        | none, none =>
          if isBreak ch then
            discard lineBreak
            let breaks ← quotedBreaks start
            go fuel (breaks.reverse ++ acc)
          else
            scanFault (some "while scanning a double-quoted scalar") (some start)
              ("found unknown escape character " ++ charText ch)
      else return acc.reverse

/-- Reads the blanks and line ends inside a quoted scalar, folding the line ends. -/
def quotedSpaces (start : Mark) : ReadM (List String) := do
  let n ← countFrom (fun c => c == ' ' || c == '\t') 0
  let blanks ← take n
  let ch ← peek
  if ch == '\x00' then quotedFault start "found unexpected end of stream"
  else if isBreak ch then
    let first ← lineBreak
    let breaks ← quotedBreaks start
    let joint := if first != "\n" then [first] else if breaks.isEmpty then [" "] else []
    return joint ++ breaks
  else return [blanks]

/-- Reads a quoted scalar from its opening quote. -/
def quotedScalar (double : Bool) : ReadM Token := do
  let start ← mark
  let quote ← peek
  forward 1
  let first ← quotedNonSpaces double start
  let chunks ← go quote start ((← get).remaining + 1) first.reverse
  forward 1
  return ⟨.scalar (String.join chunks) false, start, ← mark⟩
where
  /-- Reads blanks and words up to the closing quote; `fuel` bounds the steps. -/
  go (quote : Char) (start : Mark) : Nat → List String → ReadM (List String)
    | 0, acc => return acc.reverse
    | fuel + 1, acc => do
      if (← peek) == quote then return acc.reverse
      let spaces ← quotedSpaces start
      let words ← quotedNonSpaces double start
      go quote start fuel (words.reverse ++ spaces.reverse ++ acc)

/-- Reads the chomping and indentation indicators of a block scalar. -/
def blockIndicators (start : Mark) : ReadM (Option Bool × Option Nat) := do
  let context := some "while scanning a block scalar"
  let digit (ch : Char) : ReadM Nat := do
    if ch == '0' then
      scanFault context (some start)
        "expected indentation indicator in the range 1-9, but found 0"
    forward 1
    return ch.toNat - 48
  let ch ← peek
  let (chomping, increment) ← if ch == '+' || ch == '-' then do
      forward 1
      let d ← peek
      let inc ← if isAsciiDigit d then do pure (some (← digit d)) else pure none
      pure (some (ch == '+'), inc)
    else if isAsciiDigit ch then do
      let inc ← digit ch
      let c ← peek
      if c == '+' || c == '-' then
        forward 1
        pure (some (c == '+'), some inc)
      else pure (none, some inc)
    else pure (none, none)
  let ch ← peek
  if !isSpaceOrEnd ch then
    scanFault context (some start)
      ("expected chomping or indentation indicators, but found " ++ charText ch)
  return (chomping, increment)

/-- Reads the first lines of a block scalar that hold only spaces: their line ends, the
  deepest column reached, and the mark after the last line end. -/
def blockIndentation : ReadM (List String × Nat × Mark) := do
  go ((← get).remaining + 1) [] 0 (← mark)
where
  /-- Reads on; `fuel` bounds the steps. -/
  go : Nat → List String → Nat → Mark → ReadM (List String × Nat × Mark)
    | 0, acc, deepest, stop => return (acc.reverse, deepest, stop)
    | fuel + 1, acc, deepest, stop => do
      let ch ← peek
      if ch == ' ' then
        forward 1
        go fuel acc (Nat.max deepest (← get).column) stop
      else if isBreak ch then
        let b ← lineBreak
        go fuel (b :: acc) deepest (← mark)
      else return (acc.reverse, deepest, stop)

/-- Reads the line ends before the next line of a block scalar indented by `indent`, passing
  over the indentation: the line ends and the mark after the last one. -/
def blockBreaks (indent : Nat) : ReadM (List String × Mark) := do
  let stop ← mark
  skipIndent ((← get).remaining + 1)
  go ((← get).remaining + 1) [] stop
where
  /-- Passes over spaces up to the indentation. -/
  skipIndent : Nat → ReadM Unit
    | 0 => pure ()
    | fuel + 1 => do
      if (← get).column < indent && (← peek) == ' ' then
        forward 1
        skipIndent fuel
  /-- Reads on; `fuel` bounds the steps. -/
  go : Nat → List String → Mark → ReadM (List String × Mark)
    | 0, acc, stop => return (acc.reverse, stop)
    | fuel + 1, acc, stop => do
      if isBreak (← peek) then
        let b ← lineBreak
        let stop ← mark
        skipIndent ((← get).remaining + 1)
        go fuel (b :: acc) stop
      else return (acc.reverse, stop)

/-- Reads a block scalar from its indicator, inside a block indented by `parent`. -/
def blockScalar (folded : Bool) (parent : Int) : ReadM Token := do
  let start ← mark
  forward 1
  let (chomping, increment) ← blockIndicators start
  ignoredLine "while scanning a block scalar" start
  let least := Nat.max (parent + 1).toNat 1
  let (indent, breaks, stop) ← match increment with
    | none => do
      let (breaks, deepest, stop) ← blockIndentation
      pure (Nat.max least deepest, breaks, stop)
    | some inc => do
      let indent := least + inc - 1
      let (breaks, stop) ← blockBreaks indent
      pure (indent, breaks, stop)
  let (chunks, lastBreak, breaks, stop) ←
    lines indent ((← get).remaining + 1) [] "" breaks stop
  let tail := (if chomping != some false then [lastBreak] else []) ++
    (if chomping == some true then breaks else [])
  return ⟨.scalar (String.join (chunks ++ tail)) false, start, stop⟩
where
  /-- Reads the lines of the scalar: the text so far, the last line end read, the line ends
    after it and the mark after them; `fuel` bounds the steps. -/
  lines (indent : Nat) : Nat → List String → String → List String → Mark →
      ReadM (List String × String × List String × Mark)
    | 0, acc, lastBreak, breaks, stop => return (acc.reverse, lastBreak, breaks, stop)
    | fuel + 1, acc, lastBreak, breaks, stop => do
      if (← get).column != indent || (← peek) == '\x00' then
        return (acc.reverse, lastBreak, breaks, stop)
      let acc := breaks.reverse ++ acc
      let leadingNonBlank := !((← peek) == ' ' || (← peek) == '\t')
      let n ← countFrom (fun c => !isBreakOrEnd c) 0
      let acc := (← take n) :: acc
      let lineEnd ← lineBreak
      let (breaks, stop) ← blockBreaks indent
      if (← get).column == indent && (← peek) != '\x00' then
        let next ← peek
        let joint := if folded && lineEnd == "\n" && leadingNonBlank && !(next == ' ' || next == '\t')
          then (if breaks.isEmpty then [" "] else [])
          else [lineEnd]
        lines indent fuel (joint.reverse ++ acc) lineEnd breaks stop
      else return (acc.reverse, lineEnd, breaks, stop)

/-- Reads the blanks and line ends after a word of a plain scalar in a block indented by
  `indent`: none when a document marker follows a line end. Whether a line end was read is
  returned with them. -/
def plainSpaces : ReadM (Option (List String) × Bool) := do
  let n ← countFrom (· == ' ') 0
  let blanks ← take n
  if isBreak (← peek) then
    let first ← lineBreak
    if ← atDocumentMarker then return (none, true)
    match ← go ((← get).remaining + 1) [] with
    | none => return (none, true)
    | some breaks =>
      let joint := if first != "\n" then [first] else if breaks.isEmpty then [" "] else []
      return (some (joint ++ breaks), true)
  else if blanks.isEmpty then return (some [], false)
  else return (some [blanks], false)
where
  /-- Reads further spaces and line ends; none at a document marker. -/
  go : Nat → List String → ReadM (Option (List String))
    | 0, acc => return some acc.reverse
    | fuel + 1, acc => do
      let ch ← peek
      if ch == ' ' then
        forward 1
        go fuel acc
      else if isBreak ch then
        let b ← lineBreak
        if ← atDocumentMarker then return none
        go fuel (b :: acc)
      else return some acc.reverse

/-- Whether a character ends a word of a plain scalar, given the character after it. -/
def endsPlainWord (flow : Bool) (c next : Char) : Bool :=
  isBlankOrEnd c ||
    (c == ':' && (isBlankOrEnd next || (flow && ",[]\x7b\x7d".toList.contains next))) ||
    (flow && ",?[]\x7b\x7d".toList.contains c)

/-- Reads a plain scalar inside a block indented by `parent`, in flow context when `flow`:
  the token, and whether a line end was read after its last word. -/
def plainScalar (parent : Int) (flow : Bool) : ReadM (Token × Bool) := do
  let start ← mark
  let (chunks, stop, broke) ← go ((← get).remaining + 1) [] [] start false
  return (⟨.scalar (String.join chunks) true, start, stop⟩, broke)
where
  /-- The length of the word at the cursor. -/
  wordLength : Nat → Nat → ReadM Nat
    | 0, n => pure n
    | fuel + 1, n => do
      if endsPlainWord flow (← peekAt n) (← peekAt (n + 1)) then pure n
      else wordLength fuel (n + 1)
  /-- Reads words and the spaces between them; `fuel` bounds the steps. -/
  go : Nat → List String → List String → Mark → Bool →
      ReadM (List String × Mark × Bool)
    | 0, acc, _, stop, broke => return (acc.reverse, stop, broke)
    | fuel + 1, acc, spaces, stop, broke => do
      if (← peek) == '#' then return (acc.reverse, stop, broke)
      let n ← wordLength ((← get).remaining + 1) 0
      if n == 0 then return (acc.reverse, stop, broke)
      let word ← take n
      let acc := word :: spaces.reverse ++ acc
      let stop ← mark
      let (spaces?, broke) ← plainSpaces
      match spaces? with
      | none => return (acc.reverse, stop, broke)
      | some spaces =>
        if spaces.isEmpty || (← peek) == '#' ||
            (!flow && Int.ofNat (← get).column < parent + 1) then
          return (acc.reverse, stop, broke)
        go fuel acc spaces stop broke

end ReadM

end FieldRules.Yaml
