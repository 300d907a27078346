import FieldRules.Yaml.Source
import FieldRules.Value.Basic
import FieldRules.Number.FloatText
import FieldRules.Time.Calendar
import FieldRules.Text.Case

/-! # YAML scalar values

The values of tagged scalars, as the safe types of YAML 1.1 read them:

* `bool`: the text in lower case is `yes`, `no`, `true`, `false`, `on` or `off`;
* `int`: underscores are dropped; after an optional sign, `0` is zero, `0b` and `0x` start
  binary and hexadecimal digits, a leading `0` octal ones, colons separate base 60 parts, and
  anything else is decimal. Digits are read as the host's integer reading does: blanks around,
  digits of any script, one underscore between digits, and a prefix of the base allowed;
* `float`: underscores are dropped and letters lowered; `.inf` and `.nan` with an optional
  sign, base 60 parts, or float text;
* `timestamp`: a date, or a date and time with an optional fraction (six digits count) and an
  optional zone `Z` or `±hh[:mm]`;
* `binary`: base 64 text, characters outside the alphabet passed over.

Text that a type cannot read is refused with the fault the host's reading reports. -/

namespace FieldRules.Yaml

/-- The truth values by their lower-case words. -/
def truthWords : List (String × Bool) :=
  [("yes", true), ("no", false), ("true", true), ("false", false), ("on", true), ("off", false)]

/-- The truth value of a `bool` scalar. -/
def boolValue (text : String) : Except ReadFault Value :=
  let key := Text.lowerText text
  match truthWords.lookup key with
  | some b => .ok (.bool b)
  | none => .error (.host "KeyError" (Text.quoteText key))

/-- The fault of indexing empty text. -/
def emptyIndexFault : ReadFault := .host "IndexError" "string index out of range"

/-- The value of a digit or letter as a digit of a base up to 36. -/
def digitOfBase (c : Char) : Option Nat :=
  if isAsciiDigit c then some (c.toNat - 48)
  else if 'a' ≤ c && c ≤ 'z' then some (c.toNat - 87)
  else if 'A' ≤ c && c ≤ 'Z' then some (c.toNat - 55)
  else none

/-- The value of a character as a digit of a base, if it is one. -/
def digitIn (base : Nat) (c : Char) : Option Nat := (digitOfBase c).filter (· < base)

/-- Reads digits of a base with single underscores between them; none when there are none or
  another character stands among them. -/
def readDigitsIn (base : Nat) (cs : List Char) : Option (List Nat) :=
  go cs [] true
where
  /-- Reads on; `first` while no digit is read. -/
  go : List Char → List Nat → Bool → Option (List Nat)
    | [], acc, first => if first then none else some acc.reverse
    | '_' :: c :: rest, acc, false => (digitIn base c).bind fun d => go rest (d :: acc) false
    | c :: rest, acc, _ => (digitIn base c).bind fun d => go rest (d :: acc) false

/-- The most decimal digits that integer text may have. -/
def intDigitLimit : Nat := 4300

/-- Reads integer text in a base as the host's integer reading does. -/
def readIntIn (base : Nat) (s : String) : Except ReadFault Int :=
  let refuse : Except ReadFault Int := .error (.host "ValueError" ("invalid literal for int() with base " ++
    toString base ++ ": " ++ String.ofList ((Text.quoteText s).toList.take 200)))
  let cs := s.toList.map fun c =>
    if Text.isBlank c then ' '
    else match Text.digitValue? c with
      | some d => Char.ofNat (48 + d)
      | none => c
  let cs := cs.dropWhile (· == ' ')
  let (neg, cs) := match cs with
    | '-' :: r => (true, r)
    | '+' :: r => (false, r)
    | r => (false, r)
  let mark := if base == 16 then 'x' else if base == 8 then 'o' else if base == 2 then 'b' else ' '
  let cs := match cs with
    | '0' :: m :: r => if mark != ' ' && m.toLower == mark then
        (match r with
         | '_' :: r' => r'
         | _ => r)
      else cs
    | _ => cs
  let body := cs.takeWhile (· != ' ')
  if (cs.drop body.length).any (· != ' ') then refuse
  else
    match readDigitsIn base body with
    | none => refuse
    | some ds =>
      if base == 10 && ds.length > intDigitLimit then
        .error (.host "ValueError" ("Exceeds the limit (4300 digits) for integer string " ++
          "conversion: value has " ++ toString ds.length ++
          " digits; use sys.set_int_max_str_digits() to increase the limit"))
      else
        let n := ds.foldl (fun acc d => acc * base + d) 0
        .ok (if neg then -Int.ofNat n else Int.ofNat n)

/-- The sign of a number's text and the text after it. -/
def splitSign : List Char → Int × List Char
  | '-' :: r => (-1, r)
  | '+' :: r => (1, r)
  | r => (1, r)

/-- The value of an `int` scalar. -/
def intValue (text : String) : Except ReadFault Value := do
  let v := text.toList.filter (· != '_')
  if v.isEmpty then throw emptyIndexFault
  let (sign, v) := splitSign v
  match v with
  | ['0'] => return .int 0
  | '0' :: 'b' :: r => return .int (sign * (← readIntIn 2 (String.ofList r)))
  | '0' :: 'x' :: r => return .int (sign * (← readIntIn 16 (String.ofList r)))
  | '0' :: _ => return .int (sign * (← readIntIn 8 (String.ofList v)))
  | [] => throw emptyIndexFault
  | _ =>
    if v.contains ':' then
      let parts ← (v.splitOn ':').mapM fun p => readIntIn 10 (String.ofList p)
      return .int (sign * parts.foldl (fun acc d => acc * 60 + d) 0)
    else return .int (sign * (← readIntIn 10 (String.ofList v)))

/-- Reads float text as the host's float reading does. -/
def readFloat (s : String) : Except ReadFault Float :=
  match Number.parseFloat? s with
  | some x => .ok x
  | none => .error (.host "ValueError" ("could not convert string to float: " ++ Text.quoteText s))

/-- The value of a `float` scalar. -/
def floatValue (text : String) : Except ReadFault Value := do
  let v := (Text.lowerText (String.ofList (text.toList.filter (· != '_')))).toList
  if v.isEmpty then throw emptyIndexFault
  let (sign, v) := splitSign v
  let signed (x : Float) : Float := if sign < 0 then -x else x
  let word := String.ofList v
  if word == ".inf" then return .float (signed (1.0 / 0.0))
  else if word == ".nan" then return .float (0.0 / 0.0)
  else if v.contains ':' then
    let parts ← (v.splitOn ':').mapM fun p => readFloat (String.ofList p)
    let (sum, _) := parts.reverse.foldl (fun (acc, base) d => (acc + d * base.toFloat, base * 60))
      (0.0, (1 : Nat))
    return .float (signed sum)
  else return .float (signed (← readFloat word))

/-- The zone of a timestamp. -/
inductive StampZone where
  | naive
  | utc
  | offset (negative : Bool) (hours minutes : Nat)
deriving Inhabited

/-- The time part of a timestamp's text. -/
structure StampTime where
  hour : Nat
  minute : Nat
  second : Nat
  fraction : List Char
  zone : StampZone
deriving Inhabited

/-- The parts of a timestamp's text. -/
structure Stamp where
  year : Nat
  month : Nat
  day : Nat
  time : Option StampTime
deriving Inhabited

/-- The value of decimal digits. -/
def decimalValue (cs : List Char) : Nat := cs.foldl (fun acc d => acc * 10 + (d.toNat - 48)) 0

/-- Reads between one and `most` digits, as many as stand there: their value and the rest. -/
def readDigitRun (most : Nat) (cs : List Char) : Option (Nat × List Char) :=
  let ds := (cs.takeWhile isAsciiDigit).take most
  if ds.isEmpty then none else some (decimalValue ds, cs.drop ds.length)

/-- Reads exactly `n` digits: their value and the rest. -/
def readDigitsExactly (n : Nat) (cs : List Char) : Option (Nat × List Char) :=
  let ds := cs.take n
  if ds.length == n && ds.all isAsciiDigit then some (decimalValue ds, cs.drop n) else none

/-- Reads one character. -/
def readChar (c : Char) : List Char → Option (List Char)
  | d :: r => if d == c then some r else none
  | [] => none

/-- Whether text is at its end, a final line end aside. -/
def atTextEnd (cs : List Char) : Bool := cs.isEmpty || cs == ['\n']

/-- Reads a zone after the time of a timestamp; the rest must be the end. -/
def readStampZone (cs : List Char) : Option StampZone :=
  if atTextEnd cs then some .naive
  else
    match cs.dropWhile fun c => c == ' ' || c == '\t' with
    | 'Z' :: r => if atTextEnd r then some .utc else none
    | s :: r =>
      if s != '-' && s != '+' then none
      else do
        let (h, r) ← readDigitRun 2 r
        let (m, r) ← match r with
          | ':' :: r => readDigitsExactly 2 r
          | r => some (0, r)
        if atTextEnd r then some (.offset (s == '-') h m) else none
    | [] => none

/-- Reads the time part of a timestamp after its date. -/
def readStampTime (cs : List Char) : Option StampTime := do
  let cs ← match cs with
    | 'T' :: r | 't' :: r => some r
    | ' ' :: r | '\t' :: r => some (r.dropWhile fun c => c == ' ' || c == '\t')
    | _ => none
  let (hour, cs) ← readDigitRun 2 cs
  let (minute, cs) ← readDigitsExactly 2 (← readChar ':' cs)
  let (second, cs) ← readDigitsExactly 2 (← readChar ':' cs)
  let (fraction, cs) := match cs with
    | '.' :: r => (r.takeWhile isAsciiDigit, r.dropWhile isAsciiDigit)
    | r => ([], r)
  let zone ← readStampZone cs
  return ⟨hour, minute, second, fraction, zone⟩

/-- Reads the parts of a timestamp's text. -/
def readStamp (cs : List Char) : Option Stamp := do
  let (year, cs) ← readDigitsExactly 4 cs
  let (month, cs) ← readDigitRun 2 (← readChar '-' cs)
  let (day, cs) ← readDigitRun 2 (← readChar '-' cs)
  if atTextEnd cs then return ⟨year, month, day, none⟩
  return ⟨year, month, day, some (← readStampTime cs)⟩

/-- The date of year, month and day, or the fault of one out of range. -/
def checkedDate (y m d : Nat) : Except ReadFault Time.Date :=
  if y < 1 || y > 9999 then .error (.host "ValueError" ("year " ++ toString y ++ " is out of range"))
  else if m < 1 || m > 12 then .error (.host "ValueError" "month must be in 1..12")
  else if d < 1 || d > Time.daysInMonth y m then
    .error (.host "ValueError" "day is out of range for month")
  else .ok ⟨y, m, d⟩

/-- The value of a `timestamp` scalar: a date, or a datetime. -/
def timestampValue (text : String) : Except ReadFault Value := do
  let some st := readStamp text.toList
    | throw (.host "AttributeError" "'NoneType' object has no attribute 'groupdict'")
  match st.time with
  | none => return .date (← checkedDate st.year st.month st.day)
  | some t =>
    let micro := if t.fraction.isEmpty then 0
      else decimalValue ((t.fraction.take 6) ++ List.replicate (6 - t.fraction.length) '0')
    let offset : Option Int ← match t.zone with
      | .naive => pure none
      | .utc => pure (some 0)
      | .offset negative h m =>
        let us : Int := (Int.ofNat (h * 3600 + m * 60)) * 1000000
        let us := if negative then -us else us
        if us.natAbs ≥ Time.microsPerDay.natAbs then
          throw (.host "ValueError" ("offset must be a timedelta strictly between " ++
            "-timedelta(hours=24) and timedelta(hours=24), not " ++
            (Time.Duration.ofMicros us).repr ++ "."))
        else pure (some us)
    let date ← checkedDate st.year st.month st.day
    if t.hour > 23 then throw (.host "ValueError" "hour must be in 0..23")
    if t.minute > 59 then throw (.host "ValueError" "minute must be in 0..59")
    if t.second > 59 then throw (.host "ValueError" "second must be in 0..59")
    return .dateTime ⟨date, ⟨t.hour, t.minute, t.second, micro⟩, offset⟩

/-- The value of a base 64 character. -/
def base64Digit (c : Char) : Option Nat :=
  if 'A' ≤ c && c ≤ 'Z' then some (c.toNat - 65)
  else if 'a' ≤ c && c ≤ 'z' then some (c.toNat - 71)
  else if isAsciiDigit c then some (c.toNat + 4)
  else if c == '+' then some 62
  else if c == '/' then some 63
  else none

/-- The text of a character that cannot be written in ASCII, as an encoding fault shows it. -/
def escapedCodePoint (c : Char) : String :=
  let n := c.toNat
  if n < 0x100 then "\\x" ++ Text.hexDigits 2 n
  else if n < 0x10000 then "\\u" ++ Text.hexDigits 4 n
  else "\\U" ++ Text.hexDigits 8 n

/-- The fault of text that is not ASCII, if it is not. -/
def asciiFault (cs : List Char) : Option String :=
  match (cs.zipIdx.find? fun (c, _) => c.toNat ≥ 128) with
  | none => none
  | some (c, i) =>
    let run := ((cs.drop i).takeWhile fun c => c.toNat ≥ 128).length
    some (if run == 1 then
        "'ascii' codec can't encode character '" ++ escapedCodePoint c ++ "' in position " ++
          toString i ++ ": ordinal not in range(128)"
      else
        "'ascii' codec can't encode characters in position " ++ toString i ++ "-" ++
          toString (i + run - 1) ++ ": ordinal not in range(128)")

/-- The state of base 64 decoding: the position in the group of four, the bits left over,
  the padding seen, and the bytes so far, last first. -/
structure Base64State where
  position : Nat := 0
  left : Nat := 0
  pads : Nat := 0
  bytes : List UInt8 := []
  done : Bool := false

/-- Decodes base 64 text, passing over characters outside the alphabet; the fault of a wrong
  length or padding. -/
def decodeBase64 (cs : List Char) : Except String (List UInt8) :=
  let st := cs.foldl step {}
  if st.done || st.position == 0 then .ok st.bytes.reverse
  else if st.position == 1 then
    .error ("Invalid base64-encoded string: number of data characters (" ++
      toString (st.bytes.length / 3 * 4 + 1) ++ ") cannot be 1 more than a multiple of 4")
  else .error "Incorrect padding"
where
  /-- Takes one character. -/
  step (st : Base64State) (c : Char) : Base64State :=
    if st.done then st
    else if c == '=' then
      if st.position ≥ 2 && st.position + st.pads + 1 ≥ 4 then { st with done := true }
      else if st.position ≥ 2 then { st with pads := st.pads + 1 }
      else st
    else
      match base64Digit c with
      | none => st
      | some v =>
        let st := { st with pads := 0 }
        match st.position with
        | 0 => { st with position := 1, left := v }
        | 1 => { st with position := 2, left := v % 16,
                         bytes := UInt8.ofNat (st.left * 4 + v / 16) :: st.bytes }
        | 2 => { st with position := 3, left := v % 4,
                         bytes := UInt8.ofNat (st.left * 16 + v / 4) :: st.bytes }
        | _ => { st with position := 0, left := 0,
                         bytes := UInt8.ofNat (st.left * 64 + v) :: st.bytes }

/-- The bytes of a `binary` scalar, or the problem that refuses it. -/
def binaryValue (text : String) : Except String Value :=
  match asciiFault text.toList with
  | some t => .error ("failed to convert base64 data into ascii: " ++ t)
  | none =>
    match decodeBase64 text.toList with
    | .ok bytes => .ok (.bytes bytes)
    | .error t => .error ("failed to decode base64 data: " ++ t)

end FieldRules.Yaml
