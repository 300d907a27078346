import FieldRules.Number.Shortest

/-! # Dates, times of day, instants and durations

Dates are proleptic Gregorian, years 1 to 9999, numbered by ordinal (day 1 is 0001-01-01).
A time of day has hours, minutes, seconds and microseconds, and a datetime is a date and a
time of day with an optional fixed offset from UTC in microseconds. A duration is normalized
to days, seconds below a day and microseconds below a second; only the days may be
negative. ISO text writes dates as `YYYY-MM-DD`, times as `HH:MM:SS` with `.ffffff` when the
microseconds are not zero, and offsets as `±HH:MM` with seconds and microseconds when they are
not zero. -/

namespace FieldRules.Time

/-- A calendar date. -/
structure Date where
  year : Nat
  month : Nat
  day : Nat
deriving Inhabited, BEq, DecidableEq

/-- A time of day. -/
structure Clock where
  hour : Nat
  minute : Nat
  second : Nat
  micro : Nat
deriving Inhabited, BEq, DecidableEq

/-- A date and time of day, naive (`offset = none`) or at a fixed offset from UTC. -/
structure DateTime where
  date : Date
  clock : Clock
  offset : Option Int
deriving Inhabited, BEq, DecidableEq

/-- A time of day, naive or at a fixed offset. -/
structure TimeOfDay where
  clock : Clock
  offset : Option Int
deriving Inhabited, BEq, DecidableEq

/-- A duration: days, seconds in `[0, 86400)` and microseconds in `[0, 10^6)`. -/
structure Duration where
  days : Int
  seconds : Nat
  micros : Nat
deriving Inhabited, BEq, DecidableEq

/-- Whether a year is a leap year. -/
def isLeap (y : Nat) : Bool := y % 4 == 0 && (y % 100 != 0 || y % 400 == 0)

/-- The number of days in a month of a year. -/
def daysInMonth (y m : Nat) : Nat :=
  match m with
  | 1 | 3 | 5 | 7 | 8 | 10 | 12 => 31
  | 4 | 6 | 9 | 11 => 30
  | 2 => if isLeap y then 29 else 28
  | _ => 0

/-- The number of days before January 1 of a year. -/
def daysBeforeYear (y : Nat) : Nat :=
  let p := y - 1
  p * 365 + p / 4 - p / 100 + p / 400

/-- The number of days in a year before the first of a month. -/
def daysBeforeMonth (y m : Nat) : Nat :=
  ((List.range (m - 1)).map fun i => daysInMonth y (i + 1)).foldl (· + ·) 0

/-- Whether a date is a valid calendar date of years 1 to 9999. -/
def Date.valid (d : Date) : Bool :=
  1 ≤ d.year && d.year ≤ 9999 && 1 ≤ d.month && d.month ≤ 12 && 1 ≤ d.day &&
    d.day ≤ daysInMonth d.year d.month

/-- The ordinal of a date: 0001-01-01 is day 1. -/
def Date.ordinal (d : Date) : Int :=
  Int.ofNat (daysBeforeYear d.year + daysBeforeMonth d.year d.month + d.day)

/-- The year containing an ordinal day (of any sign), by the 400-year cycle. -/
def yearOfOrdinal (n : Int) : Int :=
  -- day 1 of year y is ordinal daysBeforeYear y + 1; the 400-year cycle has 146097 days
  let n0 := n - 1
  let cycles := n0 / 146097
  let r := (n0 % 146097).toNat
  let c100 := min (r / 36524) 3
  let r := r - c100 * 36524
  let c4 := r / 1461
  let r := r - c4 * 1461
  let c1 := min (r / 365) 3
  cycles * 400 + Int.ofNat (c100 * 100 + c4 * 4 + c1) + 1

/-- The month and day of a day-of-year (from 1) in a year. -/
def monthDayOf (y : Nat) (doy : Nat) : Nat × Nat :=
  let rec go (m : Nat) (left : Nat) (fuel : Nat) : Nat × Nat :=
    match fuel with
    | 0 => (m, left)
    | fuel + 1 =>
      let dim := daysInMonth y m
      if left ≤ dim then (m, left) else go (m + 1) (left - dim) fuel
  go 1 doy 12

/-- The date of an ordinal, or the year that falls outside 1 to 9999. -/
def Date.ofOrdinal (n : Int) : Except Int Date :=
  let y := yearOfOrdinal n
  if y < 1 || y > 9999 then .error y
  else
    let doy := (n - Int.ofNat (daysBeforeYear y.toNat)).toNat
    let (m, d) := monthDayOf y.toNat doy
    .ok ⟨y.toNat, m, d⟩

/-- Microseconds in a day. -/
def microsPerDay : Int := 86400000000

/-- The microseconds since midnight of a time of day. -/
def Clock.micros (c : Clock) : Int :=
  Int.ofNat (((c.hour * 60 + c.minute) * 60 + c.second) * 1000000 + c.micro)

/-- The time of day of a microsecond count in `[0, microsPerDay)`. -/
def Clock.ofMicros (us : Nat) : Clock :=
  let s := us / 1000000
  ⟨s / 3600, s / 60 % 60, s % 60, us % 1000000⟩

/-- The microseconds of a datetime's wall time since 0001-01-01 00:00, ignoring the offset. -/
def DateTime.wallMicros (t : DateTime) : Int :=
  (t.date.ordinal - 1) * microsPerDay + t.clock.micros

/-- The microseconds since 0001-01-01 00:00 UTC of an instant (naive times count as UTC). -/
def DateTime.utcMicros (t : DateTime) : Int := t.wallMicros - t.offset.getD 0

/-- The ordinal of 1970-01-01. -/
def epochOrdinal : Int := 719163

/-- The microseconds since the Unix epoch of a datetime (naive times count as UTC). -/
def DateTime.epochMicros (t : DateTime) : Int := t.utcMicros - (epochOrdinal - 1) * microsPerDay

/-- The UTC datetime of a microsecond count since the Unix epoch, or the year out of range. -/
def DateTime.ofEpochMicros (us : Int) : Except Int DateTime :=
  let total := us + (epochOrdinal - 1) * microsPerDay
  let dayIndex := total / microsPerDay
  let inDay := (total % microsPerDay).toNat
  match Date.ofOrdinal (dayIndex + 1) with
  | .error y => .error y
  | .ok d => .ok ⟨d, Clock.ofMicros inDay, some 0⟩

/-- A duration from a microsecond count. -/
def Duration.ofMicros (us : Int) : Duration :=
  let days := us / microsPerDay
  let rest := (us % microsPerDay).toNat
  ⟨days, rest / 1000000, rest % 1000000⟩

/-- The microseconds of a duration. -/
def Duration.toMicros (d : Duration) : Int :=
  d.days * microsPerDay + Int.ofNat (d.seconds * 1000000 + d.micros)

/-- Pads a number with zeros on the left to a width. -/
def pad (width : Nat) (n : Nat) : String := Number.padZeros width (toString n)

/-- ISO text of a date. -/
def Date.iso (d : Date) : String := pad 4 d.year ++ "-" ++ pad 2 d.month ++ "-" ++ pad 2 d.day

/-- ISO text of a time of day. -/
def Clock.iso (c : Clock) : String :=
  pad 2 c.hour ++ ":" ++ pad 2 c.minute ++ ":" ++ pad 2 c.second ++
    (if c.micro == 0 then "" else "." ++ pad 6 c.micro)

/-- ISO text of an offset. -/
def offsetIso (us : Int) : String :=
  let sign := if us < 0 then "-" else "+"
  let a := us.natAbs
  let s := a / 1000000
  let micro := a % 1000000
  sign ++ pad 2 (s / 3600) ++ ":" ++ pad 2 (s / 60 % 60) ++
    (if s % 60 == 0 && micro == 0 then "" else ":" ++ pad 2 (s % 60)) ++
    (if micro == 0 then "" else "." ++ pad 6 micro)

/-- ISO text of a datetime with a separator between date and time. -/
def DateTime.isoWith (t : DateTime) (sep : String) : String :=
  t.date.iso ++ sep ++ t.clock.iso ++ (match t.offset with | some o => offsetIso o | none => "")

/-- ISO text of a datetime. -/
def DateTime.iso (t : DateTime) : String := t.isoWith "T"

/-- ISO text of a time of day with its offset. -/
def TimeOfDay.iso (t : TimeOfDay) : String :=
  t.clock.iso ++ (match t.offset with | some o => offsetIso o | none => "")

/-- The constructor text of a duration: the nonzero fields by name, or `0`. -/
def Duration.repr (d : Duration) : String :=
  let parts := (if d.days != 0 then ["days=" ++ toString d.days] else []) ++
    (if d.seconds != 0 then ["seconds=" ++ toString d.seconds] else []) ++
    (if d.micros != 0 then ["microseconds=" ++ toString d.micros] else [])
  "datetime.timedelta(" ++ (if parts.isEmpty then "0" else ", ".intercalate parts) ++ ")"

/-- The text of a duration: days when not zero, then `H:MM:SS` and microseconds. -/
def Duration.text (d : Duration) : String :=
  let dayPart := if d.days == 0 then ""
    else toString d.days ++ (if d.days.natAbs == 1 then " day, " else " days, ")
  let s := d.seconds
  dayPart ++ toString (s / 3600) ++ ":" ++ pad 2 (s / 60 % 60) ++ ":" ++ pad 2 (s % 60) ++
    (if d.micros == 0 then "" else "." ++ pad 6 d.micros)

/-- The constructor text of a fixed offset zone. -/
def zoneRepr (us : Int) : String :=
  if us == 0 then "datetime.timezone.utc"
  else "datetime.timezone(" ++ (Duration.ofMicros us).repr ++ ")"

/-- The constructor text of a date. -/
def Date.repr (d : Date) : String :=
  "datetime.date(" ++ toString d.year ++ ", " ++ toString d.month ++ ", " ++ toString d.day ++ ")"

/-- The clock fields of a constructor text: hour and minute always, then seconds and
  microseconds when needed. -/
def Clock.reprFields (c : Clock) : List String :=
  [toString c.hour, toString c.minute] ++
    (if c.second != 0 || c.micro != 0 then [toString c.second] else []) ++
    (if c.micro != 0 then [toString c.micro] else [])

/-- The constructor text of a datetime. -/
def DateTime.repr (t : DateTime) : String :=
  let fields := [toString t.date.year, toString t.date.month, toString t.date.day] ++
    t.clock.reprFields ++ (match t.offset with | some o => ["tzinfo=" ++ zoneRepr o] | none => [])
  "datetime.datetime(" ++ ", ".intercalate fields ++ ")"

/-- The constructor text of a time of day. -/
def TimeOfDay.repr (t : TimeOfDay) : String :=
  let fields := t.clock.reprFields ++
    (match t.offset with | some o => ["tzinfo=" ++ zoneRepr o] | none => [])
  "datetime.time(" ++ ", ".intercalate fields ++ ")"

end FieldRules.Time
