import FieldRules.Yaml.Source

/-! # YAML tokens

The tokens of a YAML 1.1 document and how the text of each is read. Indicators, directives,
anchors, aliases and tags are read here; scalars in `Yaml.Token.Scalar`, and the order of tokens
with the places of implied keys and block boundaries in `Yaml.TokenStream`.

An anchor or alias name is made of ASCII letters, digits, `-` and `_`. A tag is `!<uri>`, `!`
alone, `!suffix`, or `!handle!suffix`, where a handle is made of the same characters and a
suffix of URI characters with `%` escapes of UTF-8 bytes. A directive is `%YAML major.minor`,
`%TAG handle prefix`, or another name whose line is passed over. -/

namespace FieldRules.Yaml

/-- The value of a directive. -/
inductive DirectiveValue where
  | version (major minor : Nat)
  | tagPrefix (handle pre : String)
  | other
deriving Inhabited

/-- What a token is. -/
inductive TokenKind where
  | streamStart
  | streamEnd
  | directive (name : String) (value : DirectiveValue)
  | documentStart
  | documentEnd
  | blockSequenceStart
  | blockMappingStart
  | blockEnd
  | flowSequenceStart
  | flowMappingStart
  | flowSequenceEnd
  | flowMappingEnd
  | key
  | value
  | blockEntry
  | flowEntry
  | alias (name : String)
  | anchor (name : String)
  | tag (handle : Option String) (suffix : String)
  | scalar (text : String) (plain : Bool)
deriving Inhabited

/-- A token with the marks where it starts and ends. -/
structure Token where
  kind : TokenKind
  start : Mark
  stop : Mark
deriving Inhabited

/-- The name of a kind of token, as messages show it. -/
def TokenKind.name : TokenKind → String
  | .streamStart => "<stream start>"
  | .streamEnd => "<stream end>"
  | .directive .. => "<directive>"
  | .documentStart => "<document start>"
  | .documentEnd => "<document end>"
  | .blockSequenceStart => "<block sequence start>"
  | .blockMappingStart => "<block mapping start>"
  | .blockEnd => "<block end>"
  | .flowSequenceStart => "["
  | .flowMappingStart => "\x7b"
  | .flowSequenceEnd => "]"
  | .flowMappingEnd => "\x7d"
  | .key => "?"
  | .value => ":"
  | .blockEntry => "-"
  | .flowEntry => ","
  | .alias _ => "<alias>"
  | .anchor _ => "<anchor>"
  | .tag .. => "<tag>"
  | .scalar .. => "<scalar>"

/-- The name of a token's kind, in quotes. -/
def Token.quotedName (t : Token) : String := Text.quoteText t.kind.name

namespace ReadM

/-- The fault of a directive. -/
def directiveFault (start : Mark) (problem : String) : ReadM α :=
  scanFault (some "while scanning a directive") (some start) problem

/-- Reads a directive's name. -/
def directiveName (start : Mark) : ReadM String := do
  let n ← countFrom isWordChar 0
  if n == 0 then
    directiveFault start ("expected alphabetic or numeric character, but found " ++
      charText (← peek))
  let name ← take n
  let ch ← peek
  if !isSpaceOrEnd ch then
    directiveFault start ("expected alphabetic or numeric character, but found " ++
      charText ch)
  return name

/-- Reads a number of the version directive. -/
def versionNumber (start : Mark) : ReadM Nat := do
  let ch ← peek
  if !isAsciiDigit ch then directiveFault start ("expected a digit, but found " ++ charText ch)
  let n ← countFrom isAsciiDigit 0
  let digits ← take n
  return digits.toList.foldl (fun acc d => acc * 10 + (d.toNat - 48)) 0

/-- Reads the version of a `%YAML` directive. -/
def versionValue (start : Mark) : ReadM DirectiveValue := do
  skipWhile (· == ' ')
  let major ← versionNumber start
  if (← peek) != '.' then
    directiveFault start ("expected a digit or '.', but found " ++ charText (← peek))
  forward 1
  let minor ← versionNumber start
  if !isSpaceOrEnd (← peek) then
    directiveFault start ("expected a digit or ' ', but found " ++ charText (← peek))
  return .version major minor

/-- Reads a tag handle `!`, `!!` or `!name!`; `what` names what is being read. -/
def tagHandle (what : String) (start : Mark) : ReadM String := do
  let context := some ("while scanning a " ++ what)
  let ch ← peek
  if ch != '!' then scanFault context (some start) ("expected '!', but found " ++ charText ch)
  if (← peekAt 1) == ' ' then take 1
  else
    let n := 1 + (← countFrom isWordChar 1)
    let ch ← peekAt n
    if ch != '!' then
      forward n
      scanFault context (some start) ("expected '!', but found " ++ charText ch)
    take (n + 1)

/-- Whether a character may stand in a tag's URI. -/
def isUriChar (c : Char) : Bool :=
  ('0' ≤ c && c ≤ '9') || ('A' ≤ c && c ≤ 'Z') || ('a' ≤ c && c ≤ 'z') ||
    "-;/?:@&=+$,_.!~*'()[]%".toList.contains c

/-- The description of bytes that are not UTF-8: the span of the bytes at fault and the
  reason, as a decoder reports them. -/
def utf8Fault (bytes : List Nat) : Option (Nat × Nat × String) :=
  go 0 bytes (bytes.length + 1)
where
  /-- Decodes from position `i`; `fuel` bounds the steps. -/
  go (i : Nat) (bs : List Nat) : Nat → Option (Nat × Nat × String)
    | 0 => none
    | fuel + 1 =>
      match bs with
      | [] => none
      | b :: rest =>
        if b < 0x80 then go (i + 1) rest fuel
        else
          let need := if 0xC2 ≤ b && b ≤ 0xDF then 1 else if 0xE0 ≤ b && b ≤ 0xEF then 2
            else if 0xF0 ≤ b && b ≤ 0xF4 then 3 else 0
          if need == 0 then some (i, i + 1, "invalid start byte")
          else
            -- the range of the first continuation byte depends on the start byte
            let lo := if b == 0xE0 then 0xA0 else if b == 0xF0 then 0x90 else 0x80
            let hi := if b == 0xED then 0x9F else if b == 0xF4 then 0x8F else 0xBF
            let conts := rest.take need
            let good := (conts.zipIdx.takeWhile fun (c, j) =>
              if j == 0 then lo ≤ c && c ≤ hi else 0x80 ≤ c && c ≤ 0xBF).length
            if good == need then go (i + need + 1) (rest.drop need) fuel
            else if good == conts.length then some (i, i + 1 + good, "unexpected end of data")
            else some (i, i + 1 + good, "invalid continuation byte")

/-- The message of bytes that are not UTF-8, or none when they are. -/
def utf8FaultText (bytes : List Nat) : Option String :=
  (utf8Fault bytes).map fun (lo, hi, reason) =>
    if hi == lo + 1 then
      "'utf-8' codec can't decode byte 0x" ++ Text.hexDigits 2 (bytes.getD lo 0) ++
        " in position " ++ toString lo ++ ": " ++ reason
    else
      "'utf-8' codec can't decode bytes in position " ++ toString lo ++ "-" ++
        toString (hi - 1) ++ ": " ++ reason

/-- The text of UTF-8 bytes. -/
def utf8Text (bytes : List Nat) : String :=
  (String.fromUTF8? (ByteArray.mk (bytes.map UInt8.ofNat).toArray)).getD ""

/-- Reads `%` escapes of UTF-8 bytes in a URI. -/
def uriEscapes (what : String) (start : Mark) : ReadM String := do
  let m ← mark
  let bytes ← go ((← get).remaining + 1) []
  match utf8FaultText bytes with
  | some problem => throw (.marked "ScannerError" (some ("while scanning a " ++ what))
      (some start) problem m)
  | none => return utf8Text bytes
where
  /-- Reads escapes while they last; `fuel` bounds the steps. -/
  go : Nat → List Nat → ReadM (List Nat)
    | 0, acc => return acc.reverse
    | fuel + 1, acc => do
      if (← peek) != '%' then return acc.reverse
      forward 1
      for k in [0, 1] do
        let ch ← peekAt k
        if !isHexChar ch then
          scanFault (some ("while scanning a " ++ what)) (some start)
            ("expected URI escape sequence of 2 hexdecimal numbers, but found " ++ charText ch)
      let digits ← take 2
      let value := digits.toList.foldl (fun acc d =>
        acc * 16 + (if isAsciiDigit d then d.toNat - 48 else (d.toLower.toNat - 87))) 0
      go fuel (value :: acc)

/-- Reads the URI of a tag or of a `%TAG` prefix. -/
def tagUri (what : String) (start : Mark) : ReadM String := do
  let chunks ← go ((← get).remaining + 1) 0 []
  if chunks.isEmpty then
    scanFault (some ("while parsing a " ++ what)) (some start)
      ("expected URI, but found " ++ charText (← peek))
  return String.join chunks
where
  /-- Reads URI characters, `n` of them pending; `fuel` bounds the steps. -/
  go : Nat → Nat → List String → ReadM (List String)
    | 0, _, acc => return acc.reverse
    | fuel + 1, n, acc => do
      let ch ← peekAt n
      if !isUriChar ch then
        if n == 0 then return acc.reverse
        let s ← take n
        return (s :: acc).reverse
      else if ch == '%' then
        let s ← take n
        let e ← uriEscapes what start
        go fuel 0 (e :: s :: acc)
      else go fuel (n + 1) acc

/-- Reads the handle and prefix of a `%TAG` directive. -/
def tagPrefixValue (start : Mark) : ReadM DirectiveValue := do
  skipWhile (· == ' ')
  let handle ← tagHandle "directive" start
  if (← peek) != ' ' then directiveFault start ("expected ' ', but found " ++ charText (← peek))
  skipWhile (· == ' ')
  let pre ← tagUri "directive" start
  if !isSpaceOrEnd (← peek) then
    directiveFault start ("expected ' ', but found " ++ charText (← peek))
  return .tagPrefix handle pre

/-- Passes over the rest of a line: spaces and a comment up to the line end, which is read. -/
def ignoredLine (context : String) (start : Mark) : ReadM Unit := do
  skipWhile (· == ' ')
  if (← peek) == '#' then skipWhile fun c => !isBreakOrEnd c
  let ch ← peek
  if !isBreakOrEnd ch then
    scanFault (some context) (some start)
      ("expected a comment or a line break, but found " ++ charText ch)
  discard lineBreak

/-- Reads a directive from its `%`. -/
def directive : ReadM Token := do
  let start ← mark
  forward 1
  let name ← directiveName start
  let value ← if name == "YAML" then versionValue start
    else if name == "TAG" then tagPrefixValue start
    else pure .other
  let stop ← mark
  if name != "YAML" && name != "TAG" then skipWhile fun c => !isBreakOrEnd c
  ignoredLine "while scanning a directive" start
  return ⟨.directive name value, start, stop⟩

/-- Reads an anchor from its `&`, or an alias from its `*`. -/
def anchorOrAlias (isAlias : Bool) : ReadM Token := do
  let start ← mark
  let what := if isAlias then "alias" else "anchor"
  forward 1
  let n ← countFrom isWordChar 0
  if n == 0 then
    scanFault (some ("while scanning an " ++ what)) (some start)
      ("expected alphabetic or numeric character, but found " ++ charText (← peek))
  let name ← take n
  let ch ← peek
  if !(isBlankOrEnd ch || "?:,]\x7d%@`".toList.contains ch) then
    scanFault (some ("while scanning an " ++ what)) (some start)
      ("expected alphabetic or numeric character, but found " ++ charText ch)
  let stop ← mark
  return ⟨if isAlias then .alias name else .anchor name, start, stop⟩

/-- Reads a tag from its `!`. -/
def tag : ReadM Token := do
  let start ← mark
  let ch ← peekAt 1
  let (handle, suffix) ← if ch == '<' then do
      forward 2
      let suffix ← tagUri "tag" start
      if (← peek) != '>' then
        scanFault (some "while parsing a tag") (some start)
          ("expected '>', but found " ++ charText (← peek))
      forward 1
      pure (none, suffix)
    else if isBlankOrEnd ch then do
      forward 1
      pure (none, "!")
    else do
      -- a second `!` before the next blank makes the first part a handle
      let n ← countFrom (fun c => !isSpaceOrEnd c && c != '!') 1
      let handle ← if (← peekAt (n + 1)) == '!' then tagHandle "tag" start
        else do
          forward 1
          pure "!"
      let suffix ← tagUri "tag" start
      pure (some handle, suffix)
  let ch ← peek
  if !isSpaceOrEnd ch then
    scanFault (some "while scanning a tag") (some start) ("expected ' ', but found " ++ charText ch)
  let stop ← mark
  return ⟨.tag handle suffix, start, stop⟩

end ReadM

end FieldRules.Yaml
