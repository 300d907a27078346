import FieldRules.Pattern.Syntax
import FieldRules.Text.Quote
import FieldRules.Text.Word
import FieldRules.Text.Identifier
import FieldRules.Text.CharName
import FieldRules.Text.Digit
import FieldRules.Text.Blank

/-! # Reading patterns

A pattern is read token by token, where a token is one character or a backslash with the
character after it. A backslash that ends the pattern is an error as soon as the reader steps
onto it. The reader keeps the groups opened so far, their names, and the widths of the groups
already closed; a back reference must name a closed group, and inside a look-behind it must name
a group opened before the look-behind.

Every error names the position of the reader, less an offset that points back at the start of
the offending piece; when the pattern holds a line feed the line and column follow. After
reading, each look-behind must have a single width. -/

namespace FieldRules.Pattern

/-- Why a pattern cannot be used. -/
inductive PatternError where
  /-- A syntax error, with the position it points at (if any) and the pattern's text. -/
  | malformed (msg : String) (pos : Option Nat) (pattern : String)
  /-- A repetition count at or above the limit. -/
  | countTooLarge
  /-- Flags that exclude each other. -/
  | flagConflict (msg : String)
  /-- A look-behind too wide for the matcher's code, whose widths have 31 bits. -/
  | lookbehindTooWide
deriving Inhabited, BEq

/-- The message of a pattern error. -/
def PatternError.message : PatternError → String
  | .malformed msg none _ => msg
  | .malformed msg (some pos) pattern =>
    let before := pattern.toList.take pos
    let lines := before.count '\n'
    let column := pos - (match (before.reverse.findIdx? (· == '\n')) with
      | some k => pos - k - 1
      | none => 0) + (if lines == 0 then 1 else 0)
    let base := msg ++ " at position " ++ toString pos
    if pattern.toList.contains '\n' then
      base ++ " (line " ++ toString (lines + 1) ++ ", column " ++ toString column ++ ")"
    else base
  | .countTooLarge => "the repetition number is too large"
  | .flagConflict msg => msg
  | .lookbehindTooWide => "invalid SRE code"

/-- A token: one character, or a backslash and the character after it. -/
inductive Tok where
  | plain (c : Char)
  | escape (c : Char)
deriving Inhabited, BEq

/-- The number of characters of a token. -/
def Tok.size : Tok → Nat
  | .plain _ => 1
  | .escape _ => 2

/-- The text of a token. -/
def Tok.text : Tok → String
  | .plain c => String.singleton c
  | .escape c => "\\" ++ String.singleton c

/-- Whether a token is the plain character `c`. -/
def Tok.is (t : Tok) (c : Char) : Bool := t == .plain c

/-- The state of the reader: the pattern, the start of the next token, the global flags, and
  what is known of the groups. -/
structure Reader where
  chars : Array Char
  pos : Nat := 0
  flags : FlagSet := {}
  names : List (String × Nat) := []
  /-- The width of each group once it is closed; group 0 is the whole pattern. -/
  widths : Array (Option Width) := #[none]
  /-- The number of groups when the enclosing look-behind started. -/
  lookbehindGroups : Option Nat := none
  /-- Group numbers named by conditionals, with the position of each first mention. -/
  condRefs : List (Nat × Nat) := []

/-- Reading a pattern. -/
abbrev ReadM := StateT Reader (Except PatternError)

/-- The text of the pattern being read. -/
def patternText : ReadM String := return String.ofList (← get).chars.toList

/-- A syntax error at the reader's position less `offset`. -/
def failAt (msg : String) (offset : Nat) : ReadM α := do
  let r ← get
  throw (.malformed msg (some (r.pos - offset)) (← patternText))

/-- A syntax error at a given position. -/
def failAtPos (msg : String) (pos : Nat) : ReadM α := do
  throw (.malformed msg (some pos) (← patternText))

/-- The token at a position. -/
def tokenAt (chars : Array Char) (i : Nat) : Option Tok :=
  match chars[i]? with
  | none => none
  | some '\\' =>
    match chars[i + 1]? with
    | some c => some (.escape c)
    | none => none
  | some c => some (.plain c)

/-- Moves the reader to a position; stepping onto a final backslash is an error. -/
def seek (i : Nat) : ReadM Unit := do
  let r ← get
  if r.chars[i]? == some '\\' && i + 1 == r.chars.size then
    throw (.malformed "bad escape (end of pattern)" (some (r.chars.size - 1)) (← patternText))
  set { r with pos := i }

/-- The next token, without taking it. -/
def peek : ReadM (Option Tok) := do
  let r ← get
  return tokenAt r.chars r.pos

/-- Takes the next token. -/
def take : ReadM (Option Tok) := do
  match ← peek with
  | none => return none
  | some t => do seek ((← get).pos + t.size); return some t

/-- Takes the next token if it is the plain character `c`. -/
def accept (c : Char) : ReadM Bool := do
  match ← peek with
  | some t => if t.is c then do let _ ← take; return true else return false
  | none => return false

/-- The reader's position. -/
def tell : ReadM Nat := return (← get).pos

/-- Takes up to `n` plain characters that satisfy `p`. -/
def takeWhileN (n : Nat) (p : Char → Bool) : ReadM String := do
  let mut out := ""
  for _ in [0:n] do
    match ← peek with
    | some (.plain c) =>
      if p c then
        let _ ← take
        out := out.push c
      else break
    | _ => break
  return out

/-- Reads the text up to a terminator, as a group name; `what` names it in errors. -/
def takeUntil (terminator : Char) (what : String) : ReadM String := do
  let mut out := ""
  let n := (← get).chars.size + 1
  for _ in [0:n] do
    match ← take with
    | none =>
      if out.isEmpty then failAt ("missing " ++ what) 0
      else failAt ("missing " ++ String.singleton terminator ++ ", unterminated name") out.length
    | some t =>
      if t.is terminator then
        if out.isEmpty then failAt ("missing " ++ what) 1
        return out
      out := out ++ t.text
  return out

/-- Whether a name can name a group: it must be an identifier. -/
def isGroupName (name : String) : Bool := Text.isIdentifier name

/-- Checks that a group name is well formed. -/
def checkGroupName (name : String) (offset : Nat) : ReadM Unit := do
  if !isGroupName name then
    failAt ("bad character in group name " ++ Text.quoteText name) (name.length + offset)

/-- The number of groups opened so far, group 0 included. -/
def groupCount : ReadM Nat := return (← get).widths.size

/-- Whether a group exists and is closed. -/
def groupClosed (g : Nat) : ReadM Bool := do
  match (← get).widths[g]? with
  | some (some _) => return true
  | _ => return false

/-- Checks that a look-behind refers only to groups opened and closed before it. -/
def checkLookbehindRef (g : Nat) : ReadM Unit := do
  match (← get).lookbehindGroups with
  | none => pure ()
  | some start =>
    if !(← groupClosed g) then failAt "cannot refer to an open group" 0
    if g ≥ start then failAt "cannot refer to group defined in the same lookbehind subpattern" 0

/-- Opens a group, with an optional name. -/
def openGroup (name : Option String) : ReadM Nat := do
  let r ← get
  let gid := r.widths.size
  match name with
  | some n =>
    match r.names.lookup n with
    | some old =>
      failAt ("redefinition of group name " ++ Text.quoteText n ++ " as group " ++ toString gid ++
        "; was group " ++ toString old) (n.length + 1)
    | none => set { r with widths := r.widths.push none, names := (n, gid) :: r.names }
  | none => set { r with widths := r.widths.push none }
  return gid

/-- The width of a closed group. -/
def Reader.groupWidth (r : Reader) (g : Nat) : Width :=
  match r.widths[g]? with
  | some (some w) => w
  | _ => (0, 0)

/-- Closes a group, recording its width. -/
def closeGroup (g : Nat) (body : List Node) : ReadM Unit := do
  let r ← get
  set { r with widths := r.widths.set! g (some (widthOf r.groupWidth body)) }

/-- Whether a character is an octal digit. -/
def isOctal (c : Char) : Bool := '0' ≤ c && c ≤ '7'

/-- Whether a character is a hexadecimal digit. -/
def isHex (c : Char) : Bool := c.isDigit || ('a' ≤ c && c ≤ 'f') || ('A' ≤ c && c ≤ 'F')

/-- The value of digits in a base. -/
def digitsIn (base : Nat) (s : String) : Nat :=
  s.toList.foldl (fun acc c =>
    let d := if c.isDigit then c.toNat - 48
      else if 'a' ≤ c && c ≤ 'f' then c.toNat - 87 else c.toNat - 55
    acc * base + d) 0

/-- What an escape stands for: a character, a class, an anchor or a back reference. -/
inductive EscapeCode where
  | char (c : Nat)
  | category (k : Category)
  | anchor (a : Anchor)
  | backref (g : Nat)

/-- The escapes that stand for a control character or the backslash. -/
def controlEscape : Char → Option Nat
  | 'a' => some 7 | 'b' => some 8 | 'f' => some 12 | 'n' => some 10 | 'r' => some 13
  | 't' => some 9 | 'v' => some 11 | '\\' => some 92
  | _ => none

/-- The escapes that stand for a class. -/
def categoryEscape : Char → Option Category
  | 'd' => some .digit | 'D' => some .notDigit | 's' => some .space | 'S' => some .notSpace
  | 'w' => some .word | 'W' => some .notWord
  | _ => none

/-- The escapes that stand for an anchor. -/
def anchorEscape : Char → Option Anchor
  | 'A' => some .textStart | 'b' => some .boundary | 'B' => some .notBoundary
  | 'Z' => some .textEnd
  | _ => none

/-- Reads the digits of a `\x`, `\u` or `\U` escape and the character they name. -/
def hexEscape (c : Char) : ReadM (Option Nat) := do
  let count := if c == 'x' then 2 else if c == 'u' then 4 else 8
  let ds ← takeWhileN count isHex
  let text := "\\" ++ String.singleton c ++ ds
  if ds.length != count then failAt ("incomplete escape " ++ text) text.length
  let v := digitsIn 16 ds
  if c == 'U' && v > 0x10FFFF then failAt ("bad escape " ++ text) text.length
  return some v

/-- Reads a named character escape: the name between braces, matched as a character's name or
  alias. -/
def namedEscape : ReadM Nat := do
  if !(← accept '{') then failAt "missing \x7b" 0
  let name ← takeUntil '}' "character name"
  match Text.codePointOfName? name with
  | some v => return v
  | none => failAt ("undefined character name " ++ Text.quoteText name) (name.length + 4)

/-- An escape inside a set. -/
def classEscape (c : Char) : ReadM EscapeCode := do
  match controlEscape c with
  | some n => return .char n
  | none =>
  match categoryEscape c with
  | some k => return .category k
  | none =>
  if c == 'x' || c == 'u' || c == 'U' then
    return .char ((← hexEscape c).getD 0)
  else if c == 'N' then return .char (← namedEscape)
  else if isOctal c then
    let more ← takeWhileN 2 isOctal
    let text := "\\" ++ String.singleton c ++ more
    let v := digitsIn 8 (String.singleton c ++ more)
    if v > 0o377 then
      failAt ("octal escape value " ++ text ++ " outside of range 0-0o377") text.length
    return .char v
  else if c.isDigit || (c.toNat < 128 && c.isAlpha) then
    failAt ("bad escape \\" ++ String.singleton c) 2
  else return .char c.toNat

/-- An escape outside a set. -/
def plainEscape (c : Char) : ReadM EscapeCode := do
  match categoryEscape c with
  | some k => return .category k
  | none =>
  match anchorEscape c with
  | some a => return .anchor a
  | none =>
  match controlEscape c with
  | some n => return .char n
  | none =>
  if c == 'x' || c == 'u' || c == 'U' then
    return .char ((← hexEscape c).getD 0)
  else if c == 'N' then return .char (← namedEscape)
  else if c == '0' then
    let more ← takeWhileN 2 isOctal
    return .char (digitsIn 8 more)
  else if c.isDigit then
    let mut text := String.singleton c
    match ← peek with
    | some (.plain d) =>
      if d.isDigit then
        let _ ← take
        text := text.push d
        match ← peek with
        | some (.plain e) =>
          if isOctal c && isOctal d && isOctal e then
            let _ ← take
            text := text.push e
            let v := digitsIn 8 text
            if v > 0o377 then
              failAt ("octal escape value \\" ++ text ++ " outside of range 0-0o377")
                (text.length + 1)
            return .char v
        | _ => pure ()
    | _ => pure ()
    let g := digitsIn 10 text
    if g < (← groupCount) then
      if !(← groupClosed g) then failAt "cannot refer to an open group" (text.length + 1)
      checkLookbehindRef g
      return .backref g
    failAt ("invalid group reference " ++ toString g) text.length
  else if c.toNat < 128 && c.isAlpha then failAt ("bad escape \\" ++ String.singleton c) 2
  else return .char c.toNat

/-- The characters that are special outside a set. -/
def isSpecial (c : Char) : Bool := ".\\[\x7b()*+?^$|".toList.contains c

/-- Whether a character is blank in a verbose pattern. -/
def isVerboseBlank (c : Char) : Bool := " \t\n\r".toList.contains c || c.toNat == 11 || c.toNat == 12

/-- The set item of an escape inside a set; anchors and references do not occur there. -/
def EscapeCode.setItem : EscapeCode → SetItem
  | .char c => .char c
  | .category k => .category k
  | _ => .char 0

/-- The items of a set without repeats, first occurrences kept. -/
def uniqueItems (items : List SetItem) : List SetItem :=
  items.foldl (fun acc x => if acc.contains x then acc else acc ++ [x]) []

/-- Reads a set after its `[`, which stood at `here`. -/
def readSet (here : Nat) : ReadM Node := do
  let negate ← accept '^'
  let mut items : Array SetItem := #[]
  let n := (← get).chars.size + 1
  for _ in [0:n] do
    let this ← take
    match this with
    | none => failAt "unterminated character set" ((← tell) - here)
    | some t =>
      if t.is ']' && !items.isEmpty then break
      let code1 ← match t with
        | .escape c => classEscape c
        | .plain c => pure (EscapeCode.char c.toNat)
      if ← accept '-' then
        match ← take with
        | none => failAt "unterminated character set" ((← tell) - here)
        | some that =>
          if that.is ']' then
            items := items.push code1.setItem |>.push (.char 45)
            break
          let code2 ← match that with
            | .escape c => classEscape c
            | .plain c => pure (EscapeCode.char c.toNat)
          let bad := "bad character range " ++ t.text ++ "-" ++ that.text
          match code1, code2 with
          | .char lo, .char hi =>
            if hi < lo then failAt bad (t.size + 1 + that.size)
            items := items.push (.range lo hi)
          | _, _ => failAt bad (t.size + 1 + that.size)
      else items := items.push code1.setItem
  match uniqueItems items.toList with
  | [.char c] => return if negate then .notChar c else .char c
  | xs => return .set negate xs

/-- Whether a piece is a repetition. -/
def Node.isRepeat : Node → Bool
  | .rep .. => true
  | _ => false

/-- Whether a piece is an anchor. -/
def Node.isAnchor : Node → Bool
  | .anchor _ => true
  | _ => false

/-- Splices groups that neither capture nor set flags into the sequence around them. -/
def spliceGroups (nodes : List Node) : List Node :=
  nodes.flatMap fun n =>
    match n with
    | .group none add del body => if add.isEmpty && del.isEmpty then body else [n]
    | _ => [n]

/-- Whether a character reads as a letter: a word character that is neither a digit nor the
  underscore. -/
def isLetterLike (c : Char) : Bool := Text.isWordChar c && c != '_' && !Text.isDecimalDigit c

/-- Reads the letters of an inline flag group after `(?` and its first letter: `none` for
  global flags (the group ends with `)`), else the flags turned on and off for a scoped group. -/
def readFlags (first : Char) : ReadM (Option (FlagSet × FlagSet)) := do
  let mut add : FlagSet := {}
  let mut del : FlagSet := {}
  let mut cur : Tok := .plain first
  let n := (← get).chars.size + 1
  if first != '-' then
    for _ in [0:n] do
      let c := match cur with | .plain c => c | .escape c => c
      let flag := (FlagSet.ofLetter? c).getD {}
      if c == 'L' then failAt "bad inline flags: cannot use 'L' flag with a str pattern" 0
      add := add.union flag
      if flag.hasTypeFlag && ((add.inter { ascii := true, locale := true, unicode := true }) != flag) then
        failAt "bad inline flags: flags 'a', 'u' and 'L' are incompatible" 0
      match ← take with
      | none => failAt "missing -, : or )" 0
      | some t =>
        cur := t
        if t.is ')' || t.is '-' || t.is ':' then break
        match t with
        | .plain c' =>
          if (FlagSet.ofLetter? c').isNone then
            failAt (if isLetterLike c' then "unknown flag" else "missing -, : or )") 1
        | .escape _ => failAt "missing -, : or )" 2
  if cur.is ')' then
    let r ← get
    set { r with flags := r.flags.union add }
    return none
  if add.template then failAt "bad inline flags: cannot turn on global flag" 1
  if cur.is '-' then
    match ← take with
    | none => failAt "missing flag" 0
    | some t =>
      cur := t
      match t with
      | .plain c' =>
        if (FlagSet.ofLetter? c').isNone then
          failAt (if isLetterLike c' then "unknown flag" else "missing flag") 1
      | .escape _ => failAt "missing flag" 2
    for _ in [0:n] do
      let c := match cur with | .plain c => c | .escape c => c
      let flag := (FlagSet.ofLetter? c).getD {}
      if flag.hasTypeFlag then failAt "bad inline flags: cannot turn off flags 'a', 'u' and 'L'" 0
      del := del.union flag
      match ← take with
      | none => failAt "missing :" 0
      | some t =>
        cur := t
        if t.is ':' then break
        match t with
        | .plain c' =>
          if (FlagSet.ofLetter? c').isNone then
            failAt (if isLetterLike c' then "unknown flag" else "missing :") 1
        | .escape _ => failAt "missing :" 2
  if del.template then failAt "bad inline flags: cannot turn off global flag" 1
  if !(add.inter del).isEmpty then failAt "bad inline flags: flag turned on and off" 1
  return some (add, del)

/-- Reads an integer as a conditional names a group by number: blanks around, a sign, and
  digits of any script with single underscores between them. -/
def readGroupNumber (s : String) : Option Int :=
  let cs := ((s.toList.dropWhile Text.isBlank).reverse.dropWhile Text.isBlank).reverse
  let (neg, body) := match cs with
    | '-' :: r => (true, r)
    | '+' :: r => (false, r)
    | r => (false, r)
  let rec digits : List Char → Bool → Option (List Nat)
    | [], _ => some []
    | '_' :: r, true => match r with
      | c :: _ => if (Text.digitValue? c).isSome then digits r false else none
      | [] => none
    | c :: r, _ => do
      let d ← Text.digitValue? c
      let ds ← digits r true
      return d :: ds
  match body with
  | [] => none
  | c :: _ =>
    if (Text.digitValue? c).isNone then none
    else (digits body false).map fun ds =>
      let v := Int.ofNat (ds.foldl (fun acc d => acc * 10 + d) 0)
      if neg then -v else v

/-- Reads the bounds of a `{m,n}` repetition after its `{`, which ended at `here`; `none` when
  the brace is not a repetition, and the reader is back at `here`. -/
def readBraces (here : Nat) : ReadM (Option (Nat × Option Nat)) := do
  let lo ← takeWhileN (← get).chars.size Char.isDigit
  let hi ← do
    if ← accept ',' then takeWhileN (← get).chars.size Char.isDigit
    else pure lo
  if !(← accept '}') then
    seek here
    return none
  let min := if lo.isEmpty then 0 else digitsIn 10 lo
  if !lo.isEmpty && min ≥ repeatBound then throw .countTooLarge
  let max := if hi.isEmpty then none else some (digitsIn 10 hi)
  match max with
  | some m =>
    if m ≥ repeatBound then throw .countTooLarge
    if m < min then failAt "min repeat greater than max repeat" ((← tell) - here)
  | none => pure ()
  return some (min, max)

mutual

/-- Reads alternatives separated by `|` until `)` or the end. -/
def readAlternatives (fuel : Nat) (verbose : Bool) (nested : Nat) : ReadM (List Node) := do
  match fuel with
  | 0 => failAt "pattern too deeply nested" 0
  | fuel + 1 =>
    let first ← readSequence fuel verbose (nested + 1) (nested == 0) #[]
    if !(← accept '|') then return first
    let rest ← readMoreAlternatives fuel verbose nested
    return [.branch (first :: rest)]
termination_by (fuel, 0)

/-- Reads the alternatives after a `|`. -/
def readMoreAlternatives (fuel : Nat) (verbose : Bool) (nested : Nat) :
    ReadM (List (List Node)) := do
  match fuel with
  | 0 => failAt "pattern too deeply nested" 0
  | fuel + 1 =>
    let globalVerbose := (← get).flags.verbose
    let verbose := if nested == 0 then globalVerbose else verbose
    let alt ← readSequence fuel verbose (nested + 1) false #[]
    if !(← accept '|') then return [alt]
    let rest ← readMoreAlternatives fuel verbose nested
    return alt :: rest
termination_by (fuel, 0)

/-- Reads a sequence of pieces until `|`, `)` or the end; `first` tells whether global flags
  may still come, and `acc` holds the pieces read so far. -/
def readSequence (fuel : Nat) (verbose : Bool) (nested : Nat) (first : Bool)
    (acc : Array Node) : ReadM (List Node) := do
  match fuel with
  | 0 => failAt "pattern too deeply nested" 0
  | fuel + 1 =>
  match ← peek with
  | none => return spliceGroups acc.toList
  | some this =>
  if this.is '|' || this.is ')' then return spliceGroups acc.toList
  let _ ← take
  let again (acc : Array Node) := readSequence fuel verbose nested first acc
  match this with
  | .escape c =>
    match ← plainEscape c with
    | .char n => again (acc.push (.char n))
    | .category k => again (acc.push (.set false [.category k]))
    | .anchor a => again (acc.push (.anchor a))
    | .backref g => again (acc.push (.backref g))
  | .plain c =>
  if verbose && isVerboseBlank c then again acc
  else if verbose && c == '#' then
    let n := (← get).chars.size + 1
    for _ in [0:n] do
      match ← take with
      | none => break
      | some t => if t.is '\n' then break
    again acc
  else if !isSpecial c then again (acc.push (.char c.toNat))
  else if c == '[' then
    let here := (← tell) - 1
    again (acc.push (← readSet here))
  else if c == '.' then again (acc.push .any)
  else if c == '^' then again (acc.push (.anchor .lineStart))
  else if c == '$' then again (acc.push (.anchor .lineEnd))
  else if c == '*' || c == '+' || c == '?' || c == '{' then
    let here ← tell
    let bounds : Option (Nat × Option Nat) ← do
      if c == '?' then pure (some (0, some 1))
      else if c == '*' then pure (some (0, none))
      else if c == '+' then pure (some (1, none))
      else
        match ← peek with
        | some t =>
          if t.is '}' then pure Option.none
          else readBraces here
        | none => readBraces here
    match bounds with
    | none => again (acc.push (.char c.toNat))
    | some (lo, hi) =>
      let item := acc.back?
      let offset := (← tell) - here + 1
      match item with
      | none => failAt "nothing to repeat" offset
      | some it =>
        if it.isAnchor then failAt "nothing to repeat" offset
        if it.isRepeat then failAt "multiple repeat" offset
        let body := match it with
          | .group none add del p => if add.isEmpty && del.isEmpty then p else [it]
          | _ => [it]
        let greed ← do
          if ← accept '?' then pure Greed.lazy
          else if ← accept '+' then pure Greed.possessive
          else pure Greed.greedy
        again (acc.pop.push (.rep lo hi greed body))
  else if c == '(' then
    let start := (← tell) - 1
    if ← accept '?' then
      match ← take with
      | none => failAt "unexpected end of pattern" 0
      | some (.escape e) => failAt ("unknown extension ?\\" ++ String.singleton e) 3
      | some (.plain k) =>
      if k == 'P' then
        if ← accept '<' then
          let name ← takeUntil '>' "group name"
          checkGroupName name 1
          again (acc.push (← readGroupBody fuel verbose nested start true (some name) {} {} false))
        else if ← accept '=' then
          let name ← takeUntil ')' "group name"
          checkGroupName name 1
          match (← get).names.lookup name with
          | none => failAt ("unknown group name " ++ Text.quoteText name) (name.length + 1)
          | some gid =>
            if !(← groupClosed gid) then failAt "cannot refer to an open group" (name.length + 1)
            checkLookbehindRef gid
            again (acc.push (.backref gid))
        else
          match ← take with
          | none => failAt "unexpected end of pattern" 0
          | some t => failAt ("unknown extension ?P" ++ t.text) (t.size + 2)
      else if k == ':' then
        again (acc.push (← readGroupBody fuel verbose nested start false none {} {} false))
      else if k == '#' then
        let n := (← get).chars.size + 1
        for _ in [0:n] do
          match ← peek with
          | none => failAt "missing ), unterminated comment" ((← tell) - start)
          | some _ =>
            match ← take with
            | some t => if t.is ')' then break
            | none => pure ()
        again acc
      else if k == '=' || k == '!' || k == '<' then
        let (behind, kind) ← do
          if k == '<' then
            match ← take with
            | none => failAt "unexpected end of pattern" 0
            | some t =>
              if t.is '=' || t.is '!' then pure (true, t)
              else failAt ("unknown extension ?<" ++ t.text) (t.size + 2)
          else pure (false, Tok.plain k)
        let saved := (← get).lookbehindGroups
        if behind && saved.isNone then
          let r ← get
          set { r with lookbehindGroups := some r.widths.size }
        let body ← readAlternatives fuel verbose (nested + 1)
        if behind && saved.isNone then
          let r ← get
          set { r with lookbehindGroups := none }
        if !(← accept ')') then
          failAt "missing ), unterminated subpattern" ((← tell) - start)
        again (acc.push (.look behind (kind.is '!') body))
      else if k == '(' then
        let condName ← takeUntil ')' "group name"
        let gid ← do
          if isGroupName condName then
            match (← get).names.lookup condName with
            | none => failAt ("unknown group name " ++ Text.quoteText condName) (condName.length + 1)
            | some g => pure g
          else
            match readGroupNumber condName with
            | none =>
              failAt ("bad character in group name " ++ Text.quoteText condName)
                (condName.length + 1)
            | some v =>
              if v < 0 then
                failAt ("bad character in group name " ++ Text.quoteText condName)
                  (condName.length + 1)
              let g := v.toNat
              if g == 0 then failAt "bad group number" (condName.length + 1)
              if g ≥ Nat.pow 2 30 - 1 then
                failAt ("invalid group reference " ++ toString g) (condName.length + 1)
              let r ← get
              if (r.condRefs.lookup g).isNone then
                set { r with condRefs := r.condRefs ++ [(g, r.pos - condName.length - 1)] }
              pure g
        checkLookbehindRef gid
        let yes ← readSequence fuel verbose (nested + 1) false #[]
        let no ← do
          if ← accept '|' then
            let n ← readSequence fuel verbose (nested + 1) false #[]
            match ← peek with
            | some t =>
              if t.is '|' then failAt "conditional backref with more than two branches" 0
            | none => pure ()
            pure (some n)
          else pure none
        if !(← accept ')') then
          failAt "missing ), unterminated subpattern" ((← tell) - start)
        again (acc.push (.conditional gid yes no))
      else if k == '>' then
        again (acc.push (← readGroupBody fuel verbose nested start false none {} {} true))
      else if (FlagSet.ofLetter? k).isSome || k == '-' then
        match ← readFlags k with
        | none =>
          if !first || !acc.isEmpty then
            failAt "global flags not at the start of the expression" ((← tell) - start)
          readSequence fuel (← get).flags.verbose nested first acc
        | some (add, del) =>
          again (acc.push (← readGroupBody fuel verbose nested start false none add del false))
      else failAt ("unknown extension ?" ++ String.singleton k) 2
    else
      again (acc.push (← readGroupBody fuel verbose nested start true none {} {} false))
  else again (acc.push (.char c.toNat))
termination_by (fuel, 0)

/-- Reads the body of a group after its opening: a capturing group (named or not), an atomic
  group, or a group that only scopes flags. -/
def readGroupBody (fuel : Nat) (verbose : Bool) (nested : Nat) (start : Nat)
    (capture : Bool) (name : Option String) (add del : FlagSet) (atomic : Bool) :
    ReadM Node := do
  let gid ← if capture then some <$> openGroup name else pure none
  let subVerbose := (verbose || add.verbose) && !del.verbose
  let body ← readAlternatives fuel subVerbose (nested + 1)
  if !(← accept ')') then
    failAt "missing ), unterminated subpattern" ((← tell) - start)
  match gid with
  | some g => closeGroup g body
  | none => pure ()
  if atomic then return .atomic body
  return .group gid add del body
termination_by (fuel, 1)

end

/-- A pattern ready for matching: its pieces, its global flags and its number of groups (group
  0, the whole match, included). -/
structure Compiled where
  nodes : List Node
  flags : FlagSet
  groups : Nat
  /-- The width of each group. -/
  widths : Array (Option Width)
  /-- The number of characters of the pattern's text. -/
  size : Nat

/-- The name of a repetition as messages give it. -/
def Greed.opName : Greed → String
  | .greedy => "MAX_REPEAT"
  | .lazy => "MIN_REPEAT"
  | .possessive => "POSSESSIVE_REPEAT"

/-- The greatest width a look-behind may have. -/
def lookbehindBound : Nat := Nat.pow 2 32 - 1

/-- The least look-behind width that the matcher's code cannot hold. -/
def lookbehindCodeBound : Nat := Nat.pow 2 31

mutual

/-- Checks a piece for what matching cannot do: a repetition under the template flag, and a
  look-behind without a single width. -/
def checkNode (groupWidth : Nat → Width) (flags : FlagSet) : Node → Except PatternError Unit
  | .rep _ _ greed body => do
    if flags.template then
      throw (.malformed ("internal: unsupported template operator " ++ greed.opName) none "")
    checkNodes groupWidth flags body
  | .look behind _ body => do
    if behind then
      let (lo, hi) := widthOf groupWidth body
      if lo > lookbehindBound then throw (.malformed "looks too much behind" none "")
      if lo != hi then throw (.malformed "look-behind requires fixed-width pattern" none "")
    checkNodes groupWidth flags body
  | .group _ add del body => checkNodes groupWidth (flags.within add del) body
  | .atomic body => checkNodes groupWidth flags body
  | .conditional _ yes no => do
    checkNodes groupWidth flags yes
    match no with
    | some n => checkNodes groupWidth flags n
    | none => pure ()
  | .branch alts => checkAlternatives groupWidth flags alts
  | _ => pure ()

/-- Checks a sequence of pieces in order. -/
def checkNodes (groupWidth : Nat → Width) (flags : FlagSet) : List Node → Except PatternError Unit
  | [] => pure ()
  | n :: rest => do
    checkNode groupWidth flags n
    checkNodes groupWidth flags rest

/-- Checks the alternatives of an alternation in order. -/
def checkAlternatives (groupWidth : Nat → Width) (flags : FlagSet) :
    List (List Node) → Except PatternError Unit
  | [] => pure ()
  | alt :: rest => do
    checkNodes groupWidth flags alt
    checkAlternatives groupWidth flags rest

end

mutual

/-- Whether a piece holds a look-behind at least as wide as the matcher's code can hold. -/
def Node.hasWideLookbehind (groupWidth : Nat → Width) : Node → Bool
  | .look behind _ body =>
    (behind && lookbehindCodeBound ≤ (widthOf groupWidth body).1) ||
      anyWideLookbehind groupWidth body
  | .rep _ _ _ body | .group _ _ _ body | .atomic body => anyWideLookbehind groupWidth body
  | .conditional _ yes no =>
    anyWideLookbehind groupWidth yes ||
      (match no with
        | some n => anyWideLookbehind groupWidth n
        | none => false)
  | .branch alts => altsWideLookbehind groupWidth alts
  | _ => false

/-- Whether a sequence holds a look-behind too wide for the matcher's code. -/
def anyWideLookbehind (groupWidth : Nat → Width) : List Node → Bool
  | [] => false
  | n :: rest => n.hasWideLookbehind groupWidth || anyWideLookbehind groupWidth rest

/-- Whether an alternative holds a look-behind too wide for the matcher's code. -/
def altsWideLookbehind (groupWidth : Nat → Width) : List (List Node) → Bool
  | [] => false
  | alt :: rest => anyWideLookbehind groupWidth alt || altsWideLookbehind groupWidth rest

end

/-- Reads a pattern and checks that it can be matched. -/
def compile (text : String) : Except PatternError Compiled := do
  let chars := text.toList.toArray
  let read : ReadM (List Node) := do
    seek 0
    let nodes ← readAlternatives (4 * chars.size + 16) false 0
    let r ← get
    if r.flags.ascii && r.flags.unicode then
      throw (.flagConflict "ASCII and UNICODE flags are incompatible")
    if (← peek).isSome then failAt "unbalanced parenthesis" 0
    for (g, pos) in r.condRefs do
      if g ≥ r.widths.size then failAtPos ("invalid group reference " ++ toString g) pos
    return nodes
  let (nodes, r) ← read.run { chars := chars }
  let flags := { r.flags with unicode := !r.flags.ascii }
  match checkNodes r.groupWidth flags nodes with
  | .error (.malformed msg none _) => throw (.malformed msg none text)
  | .error e => throw e
  | .ok () => pure ()
  if anyWideLookbehind r.groupWidth nodes then throw .lookbehindTooWide
  return ⟨nodes, flags, r.widths.size, r.widths, chars.size⟩

end FieldRules.Pattern
