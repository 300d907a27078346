import Mathlib
import FieldRules.Value.Order
import FieldRules.Value.Compare

/-! # How the host orders and equates texts, dates and datetimes

The host orders texts by their characters, dates by their day numbers and datetimes of one kind
by one instant each (the UTC time of those with an offset, the wall time of naive ones); a naive
and an aware datetime are not ordered at all. Equality agrees with that order: texts are equal
when their characters are, and valid dates when they are the same date, since a day number
determines its year, month and day (`Date.eq_of_ordinal_eq`). Days are counted in blocks, the
years and the months of a year, and a day number falls in exactly one block of each. -/

namespace FieldRules

namespace Time

theorem daysBeforeYear_succ (p : Nat) :
    daysBeforeYear (p + 2) = daysBeforeYear (p + 1) + (if isLeap (p + 1) then 366 else 365) := by
  simp only [daysBeforeYear, isLeap, Nat.add_sub_cancel, show p + 2 - 1 = p + 1 by omega]
  -- each count of multiples grows by one exactly when p + 1 is one more multiple
  rw [@Nat.succ_div p 4, @Nat.succ_div p 100, @Nat.succ_div p 400]
  have hq : p / 100 ≤ p / 4 := Nat.div_le_div_left (by norm_num) (by norm_num)
  simp only [Nat.dvd_iff_mod_eq_zero]
  split_ifs <;> simp_all <;> omega

theorem daysBeforeMonth_succ (y m : Nat) (hm : 1 ≤ m) :
    daysBeforeMonth y (m + 1) = daysBeforeMonth y m + daysInMonth y m := by
  unfold daysBeforeMonth
  obtain ⟨k, rfl⟩ : ∃ k, m = k + 1 := ⟨m - 1, by omega⟩
  simp [List.range_succ, List.foldl_append]

theorem daysBeforeMonth_thirteen (y : Nat) :
    daysBeforeMonth y 13 = if isLeap y then 366 else 365 := by
  unfold daysBeforeMonth daysInMonth
  split_ifs <;> simp_all [List.range_succ]

section Blocks

/-! Days are counted in blocks (the years, the months of a year): `F k` days come before block
`k`, which is `len k` days long. A day number then determines its block and its place in it. -/

variable {F len : Nat → Nat} {lo : Nat} (hF : ∀ k ≥ lo, F (k + 1) = F k + len k)
include hF

theorem block_end_le {k k' : Nat} (hk : lo ≤ k) (hlt : k < k') : F k + len k ≤ F k' := by
  induction k' with
  | zero => omega
  | succ k' ih =>
    rw [hF k' (by omega)]
    rcases Nat.lt_succ_iff_lt_or_eq.mp hlt with h | rfl
    · have := ih h
      omega
    · omega

theorem block_inj {k k' j j' : Nat} (hk : lo ≤ k) (hk' : lo ≤ k') (hj : 1 ≤ j) (hjl : j ≤ len k)
    (hj' : 1 ≤ j') (hjl' : j' ≤ len k') (h : F k + j = F k' + j') : k = k' ∧ j = j' := by
  rcases lt_trichotomy k k' with hlt | rfl | hlt
  · have := block_end_le hF hk hlt
    omega
  · omega
  · have := block_end_le hF hk' hlt
    omega

end Blocks

theorem daysBeforeMonth_le_thirteen (y m : Nat) (hm : 1 ≤ m) (hm' : m ≤ 12) :
    daysBeforeMonth y m + daysInMonth y m ≤ daysBeforeMonth y 13 := by
  rcases Nat.lt_or_ge m 12 with h | h
  · have := block_end_le (fun k hk => daysBeforeMonth_succ y k hk) hm (show m < 13 by omega)
    omega
  · obtain rfl : m = 12 := by omega
    rw [daysBeforeMonth_succ y 12 (by omega)]

/-- Valid dates are told apart by their ordinals. -/
theorem Date.eq_of_ordinal_eq {x y : Date} (hx : x.valid = true) (hy : y.valid = true)
    (h : x.ordinal = y.ordinal) : x = y := by
  simp only [Date.valid, Bool.and_eq_true, decide_eq_true_eq] at hx hy
  simp only [Date.ordinal, Int.ofNat_eq_natCast, Nat.cast_inj] at h
  obtain ⟨⟨⟨⟨⟨hx1, hx2⟩, hx3⟩, hx4⟩, hx5⟩, hx6⟩ := hx
  obtain ⟨⟨⟨⟨⟨hy1, hy2⟩, hy3⟩, hy4⟩, hy5⟩, hy6⟩ := hy
  -- the year is the block of days the ordinal falls in
  have hyear : ∀ k ≥ 1, daysBeforeYear (k + 1) = daysBeforeYear k + daysBeforeMonth k 13 := by
    intro k hk
    obtain ⟨p, rfl⟩ : ∃ p, k = p + 1 := ⟨k - 1, by omega⟩
    rw [daysBeforeYear_succ, daysBeforeMonth_thirteen]
  have hxin := daysBeforeMonth_le_thirteen x.year x.month hx3 hx4
  have hyin := daysBeforeMonth_le_thirteen y.year y.month hy3 hy4
  have hsum : daysBeforeYear x.year + (daysBeforeMonth x.year x.month + x.day) =
      daysBeforeYear y.year + (daysBeforeMonth y.year y.month + y.day) := by omega
  obtain ⟨hyr, hdoy⟩ := block_inj hyear hx1 hy1 (by omega) (by omega) (by omega) (by omega) hsum
  -- then the month is the block of days of that year the day of the year falls in
  rw [← hyr] at hdoy
  obtain ⟨hmo, hday⟩ := block_inj (fun k hk => daysBeforeMonth_succ x.year k hk) hx3 hy3 hx5 hx6
    hy5 (hyr ▸ hy6) hdoy
  cases x
  cases y
  simp_all

theorem Date.beq_iff (x y : Date) : (x == y) = true ↔ x = y := by
  obtain ⟨a, b, c⟩ := x
  obtain ⟨d, e, f⟩ := y
  show (a == d && (b == e && c == f)) = true ↔ _
  simp

/-- Valid dates compare as equal exactly when they are the same date. -/
theorem Date.compare_ordinal_eq_iff {x y : Date} (hx : x.valid = true) (hy : y.valid = true) :
    compare x.ordinal y.ordinal = .eq ↔ x = y :=
  ⟨fun h => Date.eq_of_ordinal_eq hx hy (compare_eq_iff_eq.mp h),
    fun h => compare_eq_iff_eq.mpr (h ▸ rfl)⟩

end Time

section Lex

variable {α : Type} [Ord α]

theorem lexOrder_swap [Std.OrientedOrd α] (xs ys : List α) :
    lexOrder ys xs = (lexOrder xs ys).swap := by
  fun_induction lexOrder xs ys with
  | case1 => rfl
  | case2 xs hxs =>
    cases xs with
    | nil => exact absurd rfl hxs
    | cons => rfl
  | case3 ys hys =>
    cases ys with
    | nil => exact absurd rfl hys
    | cons => rfl
  | case4 x xs y ys hxy ih =>
    have hyx : compare y x = .eq := by rw [Std.OrientedOrd.eq_swap, hxy]; rfl
    simp only [lexOrder, hyx, ih]
  | case5 x xs y ys hxy =>
    have hyx : compare y x = (compare x y).swap := Std.OrientedOrd.eq_swap
    simp only [lexOrder]
    split
    · rename_i heq
      rw [hyx] at heq
      exact absurd (Ordering.swap_eq_eq.mp heq) hxy
    · exact hyx

theorem lexOrder_eq_iff [Std.LawfulEqOrd α] (xs ys : List α) :
    lexOrder xs ys = .eq ↔ xs = ys := by
  fun_induction lexOrder xs ys with
  | case1 => simp
  | case2 xs hxs => simp [Ne.symm hxs]
  | case3 ys hys => simpa using hys
  | case4 x xs y ys hxy ih => simp [ih, Std.compare_eq_iff_eq.mp hxy]
  | case5 x xs y ys hxy =>
    have hne : x ≠ y := fun h => hxy (Std.compare_eq_iff_eq.mpr h)
    simp [hne]

end Lex

/-- The instant a datetime is ordered by against one of its own kind: its UTC time when it
  carries an offset, its wall time when naive. -/
def Time.DateTime.orderKey (t : Time.DateTime) : Int :=
  if t.offset.isSome then t.utcMicros else t.wallMicros

/-- Datetimes of one kind are equal exactly when their instants are. -/
theorem Time.dateTimeEq_of_offsets {x y : Time.DateTime} (h : x.offset.isSome = y.offset.isSome) :
    dateTimeEq x y = (x.orderKey == y.orderKey) := by
  unfold dateTimeEq Time.DateTime.orderKey
  cases hx : x.offset <;> cases hy : y.offset <;> simp_all

namespace Store

variable (s : Store) (d : Direction)

theorem hostOrdered_str (x y : String) :
    s.hostOrdered d (.str x) (.str y) = .ok (d.holds (lexOrder x.toList y.toList)) := by
  unfold hostOrdered
  rw [ordered]
  simp [resolve, Value.real?, Value.numeric?]

theorem hostOrdered_date (x y : Time.Date) :
    s.hostOrdered d (.date x) (.date y) = .ok (d.holds (compare x.ordinal y.ordinal)) := by
  unfold hostOrdered
  rw [ordered]
  simp [resolve, Value.real?, Value.numeric?]

theorem hostOrdered_dateTime (x y : Time.DateTime) (h : x.offset.isSome = y.offset.isSome) :
    s.hostOrdered d (.dateTime x) (.dateTime y) =
      .ok (d.holds (compare x.orderKey y.orderKey)) := by
  unfold hostOrdered
  rw [ordered]
  cases hx : x.offset <;> cases hy : y.offset <;>
    simp_all [resolve, Value.real?, Value.numeric?, Time.DateTime.orderKey]

theorem hostOrdered_dateTime_mixed (x y : Time.DateTime) (h : x.offset.isSome ≠ y.offset.isSome) :
    ∃ f, s.hostOrdered d (.dateTime x) (.dateTime y) = .error f := by
  unfold hostOrdered
  rw [ordered]
  cases hx : x.offset <;> cases hy : y.offset <;> simp_all [resolve, Value.real?, Value.numeric?]

theorem eqvSignaling_str (k : Nat) (x y : String) :
    s.eqvSignaling k (.str x) (.str y) = .ok (x == y) := by
  simp [eqvSignaling, signalsOnEquality, Value.isSignalingNaN, eqv]

theorem compareBudget_pos (a b : Value) : 0 < s.compareBudget a b := by
  unfold compareBudget
  positivity

/-- A value resolves to a text when it is that text or refers to a stored one. -/
theorem resolve_eq_str {v : Value} {x : String} (h : s.resolve v = .str x) :
    v = .str x ∨ ∃ l, v = .shared l ∧ (s.get? l).getD .none = .str x := by
  cases v <;> simp_all [resolve]

/-- Two operands that resolve to texts are equal as rules compare them exactly when the texts
  are. -/
theorem ruleEqual_texts {a b : Value} {x y : String} (ha : s.resolve a = .str x)
    (hb : s.resolve b = .str y) : s.ruleEqual a b = .ok (x == y) := by
  unfold ruleEqual
  obtain ⟨k, hk⟩ : ∃ k, s.compareBudget a b = k + 1 :=
    ⟨s.compareBudget a b - 1, by have := s.compareBudget_pos a b; omega⟩
  rw [hk]
  -- a reference is followed once, and two references to one value are equal at once
  rcases s.resolve_eq_str ha with rfl | ⟨l, rfl, hla⟩ <;>
    rcases s.resolve_eq_str hb with rfl | ⟨l', rfl, hlb⟩
  · exact s.eqvSignaling_str _ _ _
  · simp [eqvSignaling, hlb, signalsOnEquality, Value.isSignalingNaN, eqv]
  · simp [eqvSignaling, hla, signalsOnEquality, Value.isSignalingNaN, eqv]
  · by_cases hl : l = l'
    · subst hl
      rw [hla, Value.str.injEq] at hlb
      subst hlb
      simp [eqvSignaling]
    · simp [eqvSignaling, hla, hlb, hl, signalsOnEquality, Value.isSignalingNaN, eqv]

theorem equal_date (x y : Time.Date) : s.equal (.date x) (.date y) = (x == y) := by
  simp [equal, eqv]

theorem equal_dateTime (x y : Time.DateTime) :
    s.equal (.dateTime x) (.dateTime y) = dateTimeEq x y := by
  simp [equal, eqv]

end Store

end FieldRules
