import Mathlib
import FieldRules.Proofs.Rounding
import FieldRules.Proofs.HostOrder
import FieldRules.Rule.Mapper
import FieldRules.Lang.Builtin.Apply

/-! # The timestamp mapper and whole seconds

The timestamp mapper renders a datetime as `fromTimestamp(m)`: `m` is the datetime's float
count of seconds since the epoch times the float `1000.0`, cut toward zero. Running the snippet
divides `m` by a thousand as a float and reads the datetime of that count. Each of the three
float steps rounds. For a whole number of seconds `k` with `1000 k` of at most 53 bits every
step is exact, so the rule sees a UTC datetime at the very instant it was given, a naive
datetime counting as UTC (`timestamp_mapper_keeps_whole_seconds`). Between whole seconds a
step may round down: at 00:00:01.005 UTC the count is the double just below 1.005, the product
is just below 1005, and the rule sees 00:00:01.004 (`timestamp_mapper_drops_a_millisecond`).

Reading an instant back goes through the calendar: the date of an ordinal has that ordinal
(`Date.ordinal_ofOrdinal`), so the UTC datetime of a count of microseconds lies that many
microseconds after the epoch (`DateTime.epochMicros_ofEpochMicros`). -/

namespace FieldRules.Time

open Number

section Calendar

/-- A time of day read from its microseconds gives them back. -/
theorem Clock.micros_ofMicros {r : Nat} (h : r < 86400000000) : (Clock.ofMicros r).micros = r := by
  simp only [Clock.ofMicros, Clock.micros, Int.ofNat_eq_natCast]
  omega

/-- Each month the search for a day of the year passes over adds its days to the count before
  the month it stops at. -/
theorem monthDayOf_go (y : Nat) : ∀ (fuel m left : Nat), 1 ≤ m →
    daysBeforeMonth y (monthDayOf.go y m left fuel).1 + (monthDayOf.go y m left fuel).2 =
      daysBeforeMonth y m + left := by
  intro fuel
  induction fuel with
  | zero => intro m left _; rfl
  | succ fuel ih =>
    intro m left hm
    simp only [monthDayOf.go]
    split_ifs with hle
    · rfl
    · rw [ih (m + 1) (left - daysInMonth y m) (by omega), daysBeforeMonth_succ y m hm]
      omega

/-- The days before a year, counted by whole 400-, 100-, 4- and 1-year blocks. -/
theorem daysBeforeYear_blocks (C a b c : Nat) (ha : a ≤ 3) (hb : b ≤ 24) (hc : c ≤ 3) :
    daysBeforeYear (400 * C + 100 * a + 4 * b + c + 1) = 146097 * C + 36524 * a + 1461 * b + 365 * c := by
  simp only [daysBeforeYear, Nat.add_sub_cancel]
  omega

/-- The year an ordinal falls in begins before it. -/
theorem daysBeforeYear_yearOfOrdinal (n : Int) (hy : 1 ≤ yearOfOrdinal n) :
    (daysBeforeYear (yearOfOrdinal n).toNat : Int) < n := by
  unfold yearOfOrdinal at hy ⊢
  simp only [Int.ofNat_eq_natCast] at hy ⊢
  -- name the whole cycles and the blocks of what is left of them
  have hsplit : n - 1 = 146097 * ((n - 1) / 146097) + ((n - 1) % 146097).toNat := by omega
  have hr : ((n - 1) % 146097).toNat < 146097 := by omega
  generalize ((n - 1) % 146097).toNat = r at hy hsplit hr ⊢
  generalize (n - 1) / 146097 = C at hy hsplit ⊢
  generalize ha : min (r / 36524) 3 = a at hy ⊢
  generalize hb : (r - a * 36524) / 1461 = b at hy ⊢
  generalize hc : min ((r - a * 36524 - b * 1461) / 365) 3 = c at hy ⊢
  have hb24 : b ≤ 24 := by omega
  have hC : 0 ≤ C := by omega
  -- the blocks fit in what is left of the cycles
  have hfit : a * 36524 + b * 1461 + c * 365 ≤ r := by omega
  have hblocks := daysBeforeYear_blocks C.toNat a b c (by omega) hb24 (by omega)
  rw [show (C * 400 + ((a * 100 + b * 4 + c : Nat) : Int) + 1).toNat =
    400 * C.toNat + 100 * a + 4 * b + c + 1 by omega, hblocks]
  push_cast
  omega

/-- The month and day found for a day of the year count that day from the year's start. -/
theorem daysBeforeMonth_monthDayOf (y doy : Nat) :
    daysBeforeMonth y (monthDayOf y doy).1 + (monthDayOf y doy).2 = doy := by
  have hfirst : daysBeforeMonth y 1 = 0 := rfl
  unfold monthDayOf
  rw [monthDayOf_go y 12 1 doy le_rfl, hfirst, Nat.zero_add]

/-- A date read from an ordinal has that ordinal. -/
theorem Date.ordinal_ofOrdinal {n : Int} {d : Date} (h : Date.ofOrdinal n = .ok d) :
    d.ordinal = n := by
  unfold Date.ofOrdinal at h
  dsimp only at h
  split_ifs at h with hy
  simp only [Bool.or_eq_true, decide_eq_true_eq, not_or, not_lt] at hy
  have hstart := daysBeforeYear_yearOfOrdinal n hy.1
  have hsum := daysBeforeMonth_monthDayOf (yearOfOrdinal n).toNat
    (n - daysBeforeYear (yearOfOrdinal n).toNat).toNat
  generalize monthDayOf (yearOfOrdinal n).toNat
    (n - daysBeforeYear (yearOfOrdinal n).toNat).toNat = md at h hsum
  obtain ⟨m, day⟩ := md
  cases h
  simp only [Date.ordinal, Int.ofNat_eq_natCast] at hsum ⊢
  omega

/-- The UTC datetime of a microsecond count lies that many microseconds after the epoch. -/
theorem DateTime.epochMicros_ofEpochMicros {us : Int} {u : DateTime}
    (h : DateTime.ofEpochMicros us = .ok u) : u.offset = some 0 ∧ u.epochMicros = us := by
  unfold DateTime.ofEpochMicros at h
  dsimp only at h
  split at h
  · cases h
  · rename_i d hd
    cases h
    have hday := Date.ordinal_ofOrdinal hd
    have hin : ((us + (epochOrdinal - 1) * microsPerDay) % microsPerDay).toNat < 86400000000 := by
      simp only [microsPerDay]
      omega
    refine ⟨rfl, ?_⟩
    simp only [DateTime.epochMicros, DateTime.utcMicros, DateTime.wallMicros, hday,
      Clock.micros_ofMicros hin, Option.getD_some]
    simp only [microsPerDay, epochOrdinal]
    omega

end Calendar

section Seconds

/-- Rounding the float zero to a whole number gives zero. -/
theorem roundFloatEven_floatOfInt_zero : roundFloatEven (floatOfInt 0) = 0 := by
  have hread : Binary64.ofFloat (floatOfInt 0) = .finite false 0 minExponent := rfl
  have hzero : (scaleByTwo 0 1 minExponent).1 = 0 := by
    unfold scaleByTwo
    split <;> simp
  unfold roundFloatEven
  rw [hread]
  dsimp only
  generalize scaleByTwo 0 1 minExponent = p at hzero
  obtain ⟨num, den⟩ := p
  dsimp only at hzero ⊢
  subst hzero
  simp [roundHalfEven]

/-- The exact count of a whole number of seconds splits into those seconds and no
  microseconds. -/
theorem splitSeconds_whole (k : Int) {d : Nat} (hd : 0 < d) : splitSeconds (k * d) d = (k, 0) := by
  have hwhole : (k * d).tdiv d = k := Int.mul_tdiv_cancel k (by exact_mod_cast hd.ne')
  have hzero : nearestOfRatio 0 d = floatOfInt 0 :=
    nearestFloat_eq_of_ratio _ hd one_pos (by simp)
  unfold splitSeconds
  simp only [Int.ofNat_eq_natCast, hwhole, sub_self, zero_mul, hzero, roundFloatEven_floatOfInt_zero]
  simp

/-- A whole number of seconds since the epoch, of at most 53 bits, is counted exactly. -/
theorem DateTime.epochSeconds_whole (t : DateTime) {k : Int} (hk : t.epochMicros = k * 1000000)
    (hsmall : k.natAbs ≤ 2 ^ 53)
    (hnaive : t.offset = none → t.clock.micro < 1000000 ∧ t.date.ordinal ≠ 1) :
    t.epochSeconds = .ok (floatOfInt k) := by
  unfold DateTime.epochSeconds
  cases hoff : t.offset with
  | some o =>
    -- an aware datetime rounds its exact count once
    have hscale := nearestOfRatio_mul_mul k (show 0 < 1000000 by norm_num) one_pos
    simp only [Nat.cast_ofNat, one_mul] at hscale
    rw [hk, hscale]
    rfl
  | none =>
    -- a naive one has whole seconds and no microseconds left on its clock
    obtain ⟨hmicro, hord⟩ := hnaive hoff
    have hzero : t.clock.micro = 0 := by
      simp only [DateTime.epochMicros, DateTime.utcMicros, DateTime.wallMicros, Clock.micros, hoff,
        Option.getD_none, microsPerDay, epochOrdinal, Int.ofNat_eq_natCast] at hk
      omega
    have hwhole : (t.epochMicros - Int.ofNat t.clock.micro) / 1000000 = k := by
      rw [hk, hzero, Int.ofNat_eq_natCast, Nat.cast_zero, sub_zero]
      omega
    have hfrac : nearestFloat false t.clock.micro 1000000 = floatOfInt 0 := by
      rw [hzero]
      exact nearestFloat_eq_of_ratio false (by norm_num) one_pos rfl
    rw [if_neg (by simpa using hord)]
    simp only [hwhole, hfrac]
    rw [addNearest_floatOfInt hsmall (by norm_num), add_zero]

/-- The datetime of the float count of a whole number of seconds, of at most 53 bits, is the
  datetime of its microseconds. -/
theorem DateTime.ofEpochSeconds_floatOfInt {k : Int} (hk : k.natAbs ≤ 2 ^ 53) {u : DateTime}
    (h : DateTime.ofEpochSeconds (floatOfInt k) = .ok u) :
    DateTime.ofEpochMicros (k * 1000000) = .ok u := by
  obtain ⟨neg, m, e, d, hread, hd, hfrac⟩ := ofFloat_floatOfInt k hk
  unfold DateTime.ofEpochSeconds at h
  rw [hread] at h
  dsimp only at h
  rw [hfrac] at h
  dsimp only at h
  rw [splitSeconds_whole k hd] at h
  dsimp only at h
  -- past the range checks the count is the datetime of its microseconds
  split_ifs at h
  rw [add_zero] at h
  split at h
  · rename_i t hmicros
    cases h
    exact hmicros
  · cases h

end Seconds

end FieldRules.Time

namespace FieldRules

open Number Time

/-- Milliseconds that make a whole number of seconds, of at most 53 bits, name the datetime of
  those seconds, when they name one. -/
theorem Store.instantOfMillis_whole (s : Store) {k : Int} (hsmall : (k * 1000).natAbs ≤ 2 ^ 53)
    {v : Value} (hv : s.instantOfMillis (.int (k * 1000)) = .ok v) :
    ∃ u, v = .dateTime u ∧ DateTime.ofEpochMicros (k * 1000000) = .ok u := by
  have hk : k.natAbs ≤ 2 ^ 53 := by
    rw [Int.natAbs_mul, show Int.natAbs 1000 = 1000 from rfl] at hsmall
    omega
  -- a thousandth of the milliseconds of whole seconds is exact
  have hsecs : floatOfRatio (k * 1000) 1000 = .ok (floatOfInt k) := by
    have hscale := nearestOfRatio_mul_mul k (show 0 < 1000 by norm_num) one_pos
    simp only [Nat.cast_ofNat, one_mul] at hscale
    have hx : nearestFloat (decide (k * 1000 < 0)) (k * 1000).natAbs 1000 = floatOfInt k :=
      hscale.trans (floatOfInt_eq_nearestOfRatio k).symm
    unfold floatOfRatio
    dsimp only
    rw [hx, isInfinite_floatOfInt k hk]
    rfl
  unfold Store.instantOfMillis at hv
  dsimp only [Store.resolve] at hv
  rw [hsecs] at hv
  dsimp only [bind, Except.bind] at hv
  split at hv
  · rename_i u hu
    cases hv
    exact ⟨u, rfl, DateTime.ofEpochSeconds_floatOfInt hk hu⟩
  · cases hv

end FieldRules

namespace FieldRules.Rule

open Number

/-- An integer of at most 53 bits survives the trip through its float and back. -/
theorem truncateFloat_floatOfInt (n : Int) (h : n.natAbs ≤ 2 ^ 53) :
    truncateFloat (floatOfInt n) = n := by
  obtain ⟨d, hd, hexact⟩ := exactValue?_floatOfInt n h
  rw [truncateFloat, hexact]
  exact Int.mul_tdiv_cancel n (by exact_mod_cast hd.ne')

/-- The snippet of a whole number of seconds builds its milliseconds exactly. -/
theorem timestampSnippet_whole (t : Time.DateTime) {k : Int} (hk : t.epochMicros = k * 1000000)
    (hsmall : (k * 1000).natAbs ≤ 2 ^ 53)
    (hnaive : t.offset = none → t.clock.micro < 1000000 ∧ t.date.ordinal ≠ 1) :
    timestampSnippet t = .ok ("fromTimestamp(" ++ toString (k * 1000) ++ ")") := by
  have hk' : k.natAbs ≤ 2 ^ 53 := by
    rw [Int.natAbs_mul, show Int.natAbs 1000 = 1000 from rfl] at hsmall
    omega
  have hthousand : (1000.0 : Float) = floatOfInt 1000 := rfl
  rw [timestampSnippet, Time.DateTime.epochSeconds_whole t hk hk' hnaive]
  dsimp only
  rw [hthousand, mulNearest_floatOfInt hk' (by decide), truncateFloat_floatOfInt _ hsmall]

/-- The timestamp mapper keeps a whole number of seconds: a datetime at `k` whole seconds from
  the epoch, `1000 k` of at most 53 bits, is rendered as `fromTimestamp(1000 k)`, and the value
  that snippet builds, when it builds one, is a UTC datetime at the same instant. A naive
  datetime counts as UTC, except on the first day of year 1, which has no count. -/
theorem timestamp_mapper_keeps_whole_seconds (s : Store) (t : Time.DateTime) (k : Int)
    (hk : t.epochMicros = k * 1000000) (hsmall : (k * 1000).natAbs ≤ 2 ^ 53)
    (hnaive : t.offset = none → t.clock.micro < 1000000 ∧ t.date.ordinal ≠ 1) :
    Mapper.render s .timestamp (.dateTime t) = .ok ("fromTimestamp(" ++ toString (k * 1000) ++ ")") ∧
      ∀ v, s.instantOfMillis (.int (k * 1000)) = .ok v →
        ∃ u, v = .dateTime u ∧ u.offset = some 0 ∧ u.epochMicros = t.epochMicros := by
  refine ⟨timestampSnippet_whole t hk hsmall hnaive, fun v hv => ?_⟩
  obtain ⟨u, rfl, hu⟩ := s.instantOfMillis_whole hsmall hv
  obtain ⟨hoff, hmicros⟩ := Time.DateTime.epochMicros_ofEpochMicros hu
  exact ⟨u, rfl, hoff, hmicros.trans hk.symm⟩

/-- Midnight of 2000-01-01, naive, is 946684800 whole seconds after the epoch. -/
theorem timestamp_mapper_keeps_midnight :
    let t : Time.DateTime := ⟨⟨2000, 1, 1⟩, ⟨0, 0, 0, 0⟩, none⟩
    (t.epochMicros = 946684800 * 1000000 ∧ ((946684800 : Int) * 1000).natAbs ≤ 2 ^ 53 ∧
        (t.offset = none → t.clock.micro < 1000000 ∧ t.date.ordinal ≠ 1)) ∧
      Mapper.render default .timestamp (.dateTime t) =
          .ok ("fromTimestamp(" ++ toString ((946684800 : Int) * 1000) ++ ")") ∧
        ∀ v, Store.instantOfMillis default (.int (946684800 * 1000)) = .ok v →
          ∃ u, v = .dateTime u ∧ u.offset = some 0 ∧ u.epochMicros = t.epochMicros :=
  ⟨⟨by decide, by decide, fun _ => ⟨by decide, by decide⟩⟩,
    timestamp_mapper_keeps_whole_seconds default _ 946684800 (by decide) (by decide)
      (fun _ => ⟨by decide, by decide⟩)⟩

/-- Between whole seconds the mapper may lose a millisecond: 00:00:01.005 UTC on the first day
  of 1970 is rendered as `fromTimestamp(1004)`, which builds 00:00:01.004 UTC. -/
theorem timestamp_mapper_drops_a_millisecond (s : Store) :
    let t : Time.DateTime := ⟨⟨1970, 1, 1⟩, ⟨0, 0, 1, 5000⟩, some 0⟩
    Mapper.render s .timestamp (.dateTime t) = .ok "fromTimestamp(1004)" ∧
      ∃ u, s.instantOfMillis (.int 1004) = .ok (.dateTime u) ∧ u.offset = some 0 ∧
        u.epochMicros = t.epochMicros - 1000 :=
  ⟨rfl, ⟨⟨1970, 1, 1⟩, ⟨0, 0, 1, 4000⟩, some 0⟩, rfl, rfl, rfl⟩

end FieldRules.Rule
