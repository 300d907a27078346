import FieldRules.Time.Calendar
import FieldRules.Number.Binary64

/-! # Instants as counts of seconds

A count of seconds since the Unix epoch, given as a float, names a UTC datetime. The count
splits into whole seconds toward zero and a fraction; the fraction, scaled to microseconds by
one rounded float product, is rounded to a whole number of microseconds with ties to even,
and a negative fraction borrows a second. A count that is not a number, one beyond 64-bit
seconds, one whose year does not fit a 32-bit year counter, and one whose year lies outside 1
to 9999 name no datetime, and are told apart in that order.

The other way, a datetime with an offset gives its exact count of seconds rounded once to a
float. A naive datetime counts as UTC: its whole seconds and its microseconds are rounded to
floats apart and then added. A naive datetime on the first day of year 1 has no count, since
finding it looks at the day before. -/

namespace FieldRules.Time

open Number

/-- Why a count of seconds names no datetime. -/
inductive InstantError where
  | notANumber
  | beyondSeconds
  | beyondYearCounter
  | yearOutOfRange (year : Int)
deriving Inhabited, BEq

/-- Rounds the exact value of a finite float to an integer, ties to even. -/
def roundFloatEven (x : Float) : Int :=
  match Binary64.ofFloat x with
  | .finite neg m e =>
    let (num, den) := scaleByTwo m 1 e
    let r := Int.ofNat (roundHalfEven (num / den) (num % den) den)
    if neg then -r else r
  | _ => 0

/-- The whole seconds and the microseconds of the count `n / d`: whole seconds toward zero,
  the rest scaled to microseconds as a float and rounded half to even, then a second carried
  or borrowed so that the microseconds lie in `[0, 10^6)`. -/
def splitSeconds (n : Int) (d : Nat) : Int × Int :=
  let whole := n.tdiv (Int.ofNat d)
  let rest := n - whole * Int.ofNat d
  let micros := roundFloatEven (nearestOfRatio (rest * 1000000) d)
  if micros ≥ 1000000 then (whole + 1, micros - 1000000)
  else if micros < 0 then (whole - 1, micros + 1000000)
  else (whole, micros)

/-- The duration of a count of seconds given as a float. The whole seconds toward zero give
  whole microseconds exactly; the fraction, scaled to microseconds by one rounded float product,
  adds its whole part, and what is left of it rounds to the nearest microsecond, a tie going to
  the even total. -/
def Duration.ofSecondsFloat? (x : Float) : Option Duration :=
  match Binary64.ofFloat x with
  | .finite neg m e =>
    let (n, d) := exactFraction neg m e
    let whole := n.tdiv (Int.ofNat d)
    match Binary64.ofFloat (nearestOfRatio ((n - whole * Int.ofNat d) * 1000000) d) with
    | .finite sneg sm se =>
      let (sn, sd) := exactFraction sneg sm se
      let part := sn.tdiv (Int.ofNat sd)
      let left := sn - part * Int.ofNat sd
      let total := whole * 1000000 + part
      let away : Int := if left < 0 then -1 else 1
      let twice := 2 * left.natAbs
      let step : Int :=
        if twice < sd then 0 else if twice > sd then away else if total % 2 == 0 then 0 else away
      some (Duration.ofMicros (total + step))
    | _ => some (Duration.ofMicros (whole * 1000000))
  | _ => none

/-- The greatest magnitude of a count of whole seconds. -/
def secondsLimit : Int := Int.pow 2 63

/-- Whether a year fits the 32-bit counter of years since 1900. -/
def yearCounterFits (year : Int) : Bool :=
  -2147483648 ≤ year - 1900 && year - 1900 ≤ 2147483647

/-- The UTC datetime a count of seconds since the epoch names. -/
def DateTime.ofEpochSeconds (x : Float) : Except InstantError DateTime :=
  match Binary64.ofFloat x with
  | .nan => .error .notANumber
  | .inf _ => .error .beyondSeconds
  | .finite neg m e =>
    let (n, d) := exactFraction neg m e
    let (secs, micros) := splitSeconds n d
    if secs < -secondsLimit || secs > secondsLimit then .error .beyondSeconds
    else if !yearCounterFits (yearOfOrdinal (secs / 86400 + epochOrdinal)) then
      .error .beyondYearCounter
    else
      match DateTime.ofEpochMicros (secs * 1000000 + micros) with
      | .ok t => .ok t
      | .error y => .error (.yearOutOfRange y)

/-- The count of seconds since the epoch of a datetime as a float, or the year (0) that the
  count of a naive datetime on the first day of year 1 runs into. -/
def DateTime.epochSeconds (t : DateTime) : Except Int Float :=
  match t.offset with
  | some _ => .ok (nearestOfRatio t.epochMicros 1000000)
  | none =>
    if t.date.ordinal == 1 then .error 0
    else
      let whole := (t.epochMicros - Int.ofNat t.clock.micro) / 1000000
      .ok (addNearest (floatOfInt whole) (nearestFloat false t.clock.micro 1000000))

end FieldRules.Time
