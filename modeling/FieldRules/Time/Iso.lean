import FieldRules.Time.Calendar

/-! # Reading ISO 8601 text

Dates, datetimes and times of day are read from ISO 8601 text. The text is read byte by byte
in its UTF-8 form, and a position past its end reads as a zero byte.

A date is `YYYY-MM-DD` or `YYYYMMDD`, or a week date `YYYY-Www-D` or `YYYYWwwD`, where the day
of the week may be left out (it is then Monday). Date text alone has 7, 8 or 10 bytes, and what
follows a complete date within them is not looked at.

A datetime is a date, one separator character of any kind, and a time of day. Where the
separator stands is decided from the shape of the date alone: after 10 bytes for `YYYY-MM-DD`,
after 8 for `YYYYMMDD`, and for week dates by the dashes and by how many digits follow the
week. A time of day is `HH[:MM[:SS]]` with colons everywhere or nowhere, then a fraction
after `.` or `,` of which six digits count, then `Z` or a signed offset of the same shape. An
offset of zero whole seconds is UTC whatever its fraction. -/

namespace FieldRules.Time

/-- The byte at a position of a text, zero past its end. -/
def byteAt (a : Array UInt8) (i : Nat) : UInt8 := a[i]?.getD 0

/-- Whether a byte is an ASCII digit. -/
def isDigitByte (b : UInt8) : Bool := 48 ≤ b && b ≤ 57

/-- The value of `n` digits at position `i`, and the position after them. -/
def digitsAt (a : Array UInt8) (i n : Nat) : Option (Nat × Nat) :=
  ((List.range n).foldlM (fun acc k =>
    let b := byteAt a (i + k)
    if isDigitByte b then some (acc * 10 + (b.toNat - 48)) else none) 0).map (·, i + n)

/-- The position after the digits from position `i` on; `fuel` bounds the steps. -/
def skipDigits (a : Array UInt8) (i : Nat) : (fuel : Nat) → Nat
  | 0 => i
  | fuel + 1 => if isDigitByte (byteAt a i) then skipDigits a (i + 1) fuel else i

/-- The ISO weekday of January 1 of a year, Monday being 0. -/
def newYearWeekday (y : Nat) : Nat := ((Date.ordinal ⟨y, 1, 1⟩ + 6) % 7).toNat

/-- The ordinal of the Monday of week 1 of an ISO year, the week that holds January 4. -/
def weekOneMonday (y : Nat) : Int :=
  let weekday := newYearWeekday y
  let monday := Date.ordinal ⟨y, 1, 1⟩ - Int.ofNat weekday
  if weekday > 3 then monday + 7 else monday

/-- Whether an ISO year has 53 weeks: it starts on a Thursday, or is a leap year starting on
  a Wednesday. -/
def hasLongWeekYear (y : Nat) : Bool :=
  newYearWeekday y == 3 || (newYearWeekday y == 2 && isLeap y)

/-- The date of a week date, if its week and day exist and it falls in years 1 to 9999. -/
def Date.ofWeekDate? (y week day : Nat) : Option Date :=
  if y == 0 || week == 0 || week > 53 || (week == 53 && !hasLongWeekYear y) then none
  else if day == 0 || day > 7 then none
  else (Date.ofOrdinal (weekOneMonday y + Int.ofNat ((week - 1) * 7 + day - 1))).toOption

/-- Reads the date at the start of a text whose date part has `len` bytes. -/
def readDatePart (a : Array UInt8) (len : Nat) : Option Date := do
  let (y, p) ← digitsAt a 0 4
  let dashed := byteAt a p == 45
  let p := if dashed then p + 1 else p
  -- a dash after the year asks for a dash before the day as well
  let dash (p : Nat) : Option Nat :=
    if !dashed then some p else if byteAt a p == 45 then some (p + 1) else none
  if byteAt a p == 87 then
    let (week, p) ← digitsAt a (p + 1) 2
    let day ← if p < len then do
        let (d, _) ← digitsAt a (← dash p) 1
        some d
      else some 1
    Date.ofWeekDate? y week day
  else
    let (m, p) ← digitsAt a p 2
    let (d, _) ← digitsAt a (← dash p) 2
    let date : Date := ⟨y, m, d⟩
    if date.valid then some date else none

/-- Where the separator of a datetime's text stands, decided from the shape of its date. -/
def separatorAt (a : Array UInt8) : Option Nat :=
  let len := a.size
  if len == 7 then some 7
  else if byteAt a 4 == 45 then
    if byteAt a 5 == 87 then
      if len > 8 && byteAt a 8 == 45 then
        if len == 9 then none
        else if len > 10 && isDigitByte (byteAt a 10) then some 8
        else some 10
      else some 8
    else some 10
  else if byteAt a 4 == 87 then
    let stop := skipDigits a 7 len
    if stop < 9 then some stop else if stop % 2 == 0 then some 7 else some 8
  else some 8

/-- Hours, minutes, seconds and microseconds read from a text. -/
structure ClockFields where
  hour : Nat := 0
  minute : Nat := 0
  second : Nat := 0
  micro : Nat := 0

/-- Reads `HH[:?MM[:?SS[{.,}ffffff]]]` from position `p` with the time ending at `stop`: the
  fields, and whether a byte other than zero follows where reading stopped. -/
def readClockFields (a : Array UInt8) (p stop : Nat) : Option (ClockFields × Bool) := do
  let (h, p) ← digitsAt a p 2
  let c := byteAt a p
  let p := p + 1
  let colons := c == 58
  if p ≥ stop then return ({ hour := h }, c != 0)
  if c == 46 || c == 44 then return ← fraction { hour := h } p
  let p ← if colons && c == 58 then some p else if !colons then some (p - 1) else none
  let (m, p) ← digitsAt a p 2
  let c := byteAt a p
  let p := p + 1
  if p ≥ stop then return ({ hour := h, minute := m }, c != 0)
  if c == 46 || c == 44 then return ← fraction { hour := h, minute := m } p
  let p ← if colons && c == 58 then some p else if !colons then some (p - 1) else none
  let (s, p) ← digitsAt a p 2
  let c := byteAt a p
  let p := p + 1
  let fields : ClockFields := { hour := h, minute := m, second := s }
  if p ≥ stop then return (fields, c != 0)
  if c == 46 || c == 44 || (colons && c == 58) then fraction fields p
  else if !colons then fraction fields (p - 1)
  else none
where
  /-- Reads the fraction at `p`: up to six digits count, further digits are passed over. -/
  fraction (fields : ClockFields) (p : Nat) : Option (ClockFields × Bool) := do
    let count := Nat.min (stop - p) 6
    let (us, p) ← digitsAt a p count
    let q := skipDigits a p a.size
    return ({ fields with micro := us * Nat.pow 10 (6 - count) }, byteAt a q != 0)

/-- Reads a time of day with its offset from position `start` to the end of the text: the
  fields and the offset in microseconds, if one is written. -/
def readTimePart (a : Array UInt8) (start : Nat) : Option (ClockFields × Option Int) := do
  let stop := a.size
  let zone := ((List.range (stop - start)).map (start + ·)).find? fun i =>
    let b := byteAt a i
    b == 90 || b == 43 || b == 45
  match zone with
  | none =>
    let (fields, more) ← readClockFields a start stop
    if more then none else some (fields, none)
  | some z =>
    let (fields, _) ← readClockFields a start z
    if byteAt a z == 90 then
      if byteAt a (z + 1) != 0 then none else some (fields, some 0)
    else
      let (off, more) ← readClockFields a (z + 1) stop
      if more then none
      else
        let whole := Int.ofNat ((off.hour * 60 + off.minute) * 60 + off.second)
        let sign : Int := if byteAt a z == 45 then -1 else 1
        -- a zero count of whole seconds is UTC, whatever the fraction
        if whole == 0 then some (fields, some 0)
        else
          let us := sign * (whole * 1000000 + Int.ofNat off.micro)
          if us.natAbs ≥ microsPerDay.toNat then none else some (fields, some us)

/-- The time of day that fields name, if each is in range. -/
def ClockFields.toClock? (f : ClockFields) : Option Clock :=
  if f.hour < 24 && f.minute < 60 && f.second < 60 then some ⟨f.hour, f.minute, f.second, f.micro⟩
  else none

/-- The number of bytes of the UTF-8 character that starts with a byte. -/
def utf8Width (b : UInt8) : Nat :=
  if b < 0x80 then 1 else if b &&& 0xF0 == 0xE0 then 3 else if b &&& 0xF0 == 0xF0 then 4 else 2

/-- Reads ISO date text. -/
def Date.ofIso? (s : String) : Option Date :=
  let a := s.toUTF8.data
  if a.size == 7 || a.size == 8 || a.size == 10 then readDatePart a a.size else none

/-- Reads ISO datetime text: a date, then optionally a separator and a time with an offset. -/
def DateTime.ofIso? (s : String) : Option DateTime := do
  if s.length < 7 then none
  let a := s.toUTF8.data
  let sep ← separatorAt a
  let date ← readDatePart a sep
  if a.size ≤ sep then return ⟨date, ⟨0, 0, 0, 0⟩, none⟩
  let (fields, offset) ← readTimePart a (sep + utf8Width (byteAt a sep))
  return ⟨date, ← fields.toClock?, offset⟩

/-- Reads ISO time text, with an optional `T` in front and an optional offset. -/
def TimeOfDay.ofIso? (s : String) : Option TimeOfDay := do
  let a := s.toUTF8.data
  let start := if byteAt a 0 == 84 then 1 else 0
  let (fields, offset) ← readTimePart a start
  return ⟨← fields.toClock?, offset⟩

end FieldRules.Time
