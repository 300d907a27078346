import Mathlib
import FieldRules.Proofs.FloatOrder
import FieldRules.Value.Number

/-! # Rounding to the nearest float

`nearestBits num den` aligns `num / den` at an exponent where its quotient has 53 bits and
rounds the remainder, ties to even. The first guess of the exponent comes from the bit lengths
of `num` and `den`, and is off by at most one place. Read as floors of `num / den / 2 ^ e`, the
quotient halves when the exponent grows by one, so after the correction it has at most 53 bits
(`quotient_aligned_lt`) and the bits are at most those of infinity (`nearestBits_le`): the
nearest float is never NaN (`nearestFloat_isNaN`), and it overflows exactly when its bits are
those of infinity (`isInfinite_nearestFloat`). A positive integer of at most 53 bits is exact,
in normal position (`nearestBits_small`), so such integers compare as floats exactly as they
compare as integers (`floatOrder_floatOfInt`, `floatOfInt_comparisons`). Since the exponent a
value aligns at is unique, the nearest float of a fraction depends only on its value
(`nearestBits_eq_of_ratio`); so the correctly rounded products and sums of such integers are
the floats of their products and sums (`mulNearest_floatOfInt`, `addNearest_floatOfInt`). -/

namespace FieldRules.Number

open Float.Model Float.Model.UnpackedFloat

section Quotient

variable (x : ℚ) (hx : 0 ≤ x)
include hx

omit hx in
theorem floor_div_zpow_succ (e : ℤ) : ⌊x / 2 ^ (e + 1)⌋₊ = ⌊x / 2 ^ e⌋₊ / 2 := by
  rw [zpow_add_one₀ (by norm_num), ← div_div, ← Nat.floor_div_natCast]
  norm_num

theorem floor_div_zpow_pred (e : ℤ) : ⌊x / 2 ^ (e - 1)⌋₊ ≤ 2 * ⌊x / 2 ^ e⌋₊ + 1 := by
  have hy : 0 ≤ x / 2 ^ e := div_nonneg hx (by positivity)
  have htwice : x / 2 ^ (e - 1) = 2 * (x / 2 ^ e) := by
    rw [zpow_sub_one₀ (by norm_num)]
    field_simp
  rw [htwice, ← Nat.lt_succ_iff, Nat.floor_lt (by positivity)]
  have := Nat.lt_floor_add_one (x / 2 ^ e)
  push_cast
  linarith

theorem floor_div_zpow_anti {e e' : ℤ} (h : e ≤ e') : ⌊x / 2 ^ e'⌋₊ ≤ ⌊x / 2 ^ e⌋₊ :=
  Nat.floor_le_floor (div_le_div_of_nonneg_left hx (by positivity)
    (zpow_le_zpow_right₀ (by norm_num) h))

end Quotient

theorem quotientAt_fst (num den : Nat) (e : Int) :
    (quotientAt num den e).1 = ⌊(num : ℚ) / den / 2 ^ e⌋₊ := by
  by_cases he : 0 ≤ -e
  · -- a nonpositive exponent scales the numerator up
    obtain ⟨k, hk⟩ : ∃ k : ℕ, -e = k := ⟨(-e).toNat, by omega⟩
    simp only [quotientAt, scaleByTwo, if_pos he]
    simp only [hk, Int.toNat_natCast, Nat.pow_eq]
    rw [← Rat.natFloor_natCast_div_natCast, show e = -(k : ℤ) by omega, zpow_neg, zpow_natCast]
    push_cast
    field_simp
  · -- a positive exponent scales the denominator up
    obtain ⟨k, hk⟩ : ∃ k : ℕ, e = k := ⟨e.toNat, by omega⟩
    simp only [quotientAt, scaleByTwo, if_neg he]
    simp only [show (- -e).toNat = k by omega, Nat.pow_eq]
    rw [← Rat.natFloor_natCast_div_natCast, hk, zpow_natCast]
    push_cast
    field_simp

/-- At the first guess of the exponent the quotient has at most 54 bits. -/
theorem quotient_first_guess_lt (num den : Nat) (hn : 0 < num) (hd : 0 < den) :
    ⌊(num : ℚ) / den / 2 ^ ((Nat.log2 num : Int) - Nat.log2 den - 53)⌋₊ < 2 ^ 54 := by
  have hnum : (num : ℚ) < 2 ^ (Nat.log2 num + 1) := by exact_mod_cast Nat.lt_log2_self
  have hden : (2 : ℚ) ^ Nat.log2 den ≤ den := by exact_mod_cast Nat.log2_self_le hd.ne'
  have hscale : (2 : ℚ) ^ ((Nat.log2 num : Int) - Nat.log2 den - 53) =
      2 ^ Nat.log2 num / 2 ^ Nat.log2 den / 2 ^ 53 := by
    rw [zpow_sub₀ (by norm_num), zpow_sub₀ (by norm_num), zpow_natCast, zpow_natCast]
    norm_num
  have hd' : (0 : ℚ) < den := by exact_mod_cast hd
  rw [Nat.floor_lt (by positivity), hscale, div_div, div_lt_iff₀ (by positivity)]
  push_cast
  calc (num : ℚ) < 2 ^ (Nat.log2 num + 1) := hnum
    _ = 2 ^ 54 * (2 ^ Nat.log2 den * (2 ^ Nat.log2 num / 2 ^ Nat.log2 den / 2 ^ 53)) := by
      field_simp
      ring
    _ ≤ 2 ^ 54 * (den * (2 ^ Nat.log2 num / 2 ^ Nat.log2 den / 2 ^ 53)) := by gcongr

/-- At the exponent the alignment settles on, the quotient has at most 53 bits: the first guess
  is off by at most one place, and raising the exponent to the least one only shrinks it. -/
theorem quotient_aligned_lt (num den : Nat) (hn : 0 < num) (hd : 0 < den) :
    ⌊(num : ℚ) / den / 2 ^ alignExponent num den⌋₊ < 2 ^ 53 := by
  have hx : (0 : ℚ) ≤ num / den := by positivity
  have hfirst := quotient_first_guess_lt num den hn hd
  unfold alignExponent
  simp only [quotientAt_fst, Nat.pow_eq]
  generalize hq : ⌊(num : ℚ) / den / 2 ^ ((Nat.log2 num : Int) - Nat.log2 den - 53)⌋₊ = q at hfirst
  generalize (Nat.log2 num : Int) - Nat.log2 den - 53 = e0 at hq
  -- the guessed exponent, corrected by the size of the first quotient
  have hcorr : ∀ e1 : Int, e1 = (if q ≥ 2 ^ 54 then e0 + 2 else if q ≥ 2 ^ 53 then e0 + 1
      else if q < 2 ^ 52 then e0 - 1 else e0) → ⌊(num : ℚ) / den / 2 ^ e1⌋₊ < 2 ^ 53 := by
    intro e1 he1
    split_ifs at he1 with h54 h53 h52 <;> subst he1
    · omega
    · rw [floor_div_zpow_succ, hq]
      omega
    · have := floor_div_zpow_pred _ hx e0
      omega
    · omega
  generalize he1 : (if q ≥ 2 ^ 54 then e0 + 2 else if q ≥ 2 ^ 53 then e0 + 1
      else if q < 2 ^ 52 then e0 - 1 else e0) = e1
  have hlt := hcorr e1 he1.symm
  split_ifs with hmin
  · exact lt_of_le_of_lt (floor_div_zpow_anti _ hx hmin.le) hlt
  · exact hlt

theorem roundHalfEven_le (q r d : Nat) : roundHalfEven q r d ≤ q + 1 := by
  unfold roundHalfEven
  split_ifs <;> omega

/-- A significand of at most 53 bits encodes at most the bits of infinity: never a NaN. -/
theorem encodeBits_le (q : Nat) (e : Int) (hq : q < 2 ^ 53) : encodeBits q e ≤ 2047 * 2 ^ 52 := by
  unfold encodeBits maxExponent
  simp only [Nat.pow_eq]
  split_ifs <;> omega

/-- The bits of a nearest value are at most those of infinity. -/
theorem nearestBits_le (num den : Nat) : nearestBits num den ≤ 2047 * 2 ^ 52 := by
  unfold nearestBits
  split_ifs with h0
  · omega
  · simp only [Bool.or_eq_true, beq_iff_eq, not_or] at h0
    have hq := quotient_aligned_lt num den (by omega) (by omega)
    rw [← quotientAt_fst] at hq
    dsimp only
    generalize quotientAt num den (alignExponent num den) = t at hq ⊢
    obtain ⟨q, r, d⟩ := t
    have hround := roundHalfEven_le q r d
    dsimp only at hq ⊢
    simp only [Nat.pow_eq]
    split_ifs with htop
    · exact encodeBits_le _ _ (by omega)
    · -- below the carry the rounded significand still has at most 53 bits
      simp only [beq_iff_eq] at htop
      exact encodeBits_le _ _ (by omega)

section Small

variable {m : Nat} (h0 : 0 < m) (h : m ≤ 2 ^ 53)
include h0 h

theorem log2_le_of_small : Nat.log2 m ≤ 53 :=
  (Nat.log2_lt h0.ne').mpr (by omega) |> Nat.lt_succ_iff.mp

/-- A positive integer of at most 53 bits is aligned at the exponent `log₂ m - 52`. -/
theorem alignExponent_small : alignExponent m 1 = (Nat.log2 m : Int) - 52 := by
  have hL := log2_le_of_small h0 h
  have hlo : 2 ^ Nat.log2 m ≤ m := Nat.log2_self_le h0.ne'
  have hhi : m < 2 ^ (Nat.log2 m + 1) := Nat.lt_log2_self
  -- the first guess scales m by 2 ^ (53 - log₂ m), which gives 54 bits
  have hq0 : 2 ^ 53 ≤ m * 2 ^ (53 - Nat.log2 m) ∧ m * 2 ^ (53 - Nat.log2 m) < 2 ^ 54 := by
    have hsplit : (2 : Nat) ^ 53 = 2 ^ Nat.log2 m * 2 ^ (53 - Nat.log2 m) := by
      rw [← Nat.pow_add]; congr 1; omega
    constructor
    · rw [hsplit]
      exact Nat.mul_le_mul_right _ hlo
    · calc m * 2 ^ (53 - Nat.log2 m) < 2 ^ (Nat.log2 m + 1) * 2 ^ (53 - Nat.log2 m) :=
          Nat.mul_lt_mul_of_pos_right hhi (by positivity)
        _ = 2 ^ 54 := by rw [← Nat.pow_add]; congr 1; omega
  have hone : Nat.log2 1 = 0 := rfl
  have hguess : (quotientAt m 1 ((Nat.log2 m : Int) - 53)).1 = m * 2 ^ (53 - Nat.log2 m) := by
    simp only [quotientAt, scaleByTwo, Nat.pow_eq]
    rw [if_pos (by omega)]
    simp only [Nat.div_one]
    congr 2
    omega
  unfold alignExponent
  simp only [Int.ofNat_eq_natCast, hone, Nat.cast_zero, sub_zero, hguess, Nat.pow_eq, minExponent]
  rw [if_neg (by omega), if_pos hq0.1, if_neg (by omega)]
  omega

/-- The significand of a positive integer of at most 53 bits, in normal position. -/
theorem quotientAt_small :
    ∃ q d, quotientAt m 1 ((Nat.log2 m : Int) - 52) = (q, 0, d) ∧ 0 < d ∧
      q * 2 ^ Nat.log2 m = m * 2 ^ 52 ∧ 2 ^ 52 ≤ q ∧ q < 2 ^ 53 := by
  have hL := log2_le_of_small h0 h
  have hlo : 2 ^ Nat.log2 m ≤ m := Nat.log2_self_le h0.ne'
  have hhi : m < 2 ^ (Nat.log2 m + 1) := Nat.lt_log2_self
  by_cases h53 : Nat.log2 m = 53
  · -- only 2 ^ 53 itself has 54 bits: it is 2 ^ 52 at exponent 1
    have hm : m = 2 ^ 53 := by rw [h53] at hlo; omega
    subst hm
    refine ⟨2 ^ 52, 2, ?_, by decide, by rw [h53]; norm_num, le_refl _, by norm_num⟩
    simp only [quotientAt, scaleByTwo, h53, Nat.pow_eq]
    decide
  · have hsplit : (2 : Nat) ^ 52 = 2 ^ Nat.log2 m * 2 ^ (52 - Nat.log2 m) := by
      rw [← Nat.pow_add]; congr 1; omega
    refine ⟨m * 2 ^ (52 - Nat.log2 m), 1, ?_, by decide, ?_, ?_, ?_⟩
    · simp only [quotientAt, scaleByTwo, Nat.pow_eq]
      rw [if_pos (by omega)]
      simp only [Nat.div_one, Nat.mod_one, Prod.mk.injEq, and_true]
      congr 2
      omega
    · rw [hsplit]; ring
    · rw [hsplit]; exact Nat.mul_le_mul_right _ hlo
    · calc m * 2 ^ (52 - Nat.log2 m) < 2 ^ (Nat.log2 m + 1) * 2 ^ (52 - Nat.log2 m) :=
          Nat.mul_lt_mul_of_pos_right hhi (by positivity)
        _ = 2 ^ 53 := by rw [← Nat.pow_add]; congr 1; omega

/-- The bits of a positive integer of at most 53 bits: it is exact, with exponent field
  `log₂ m + 1023` and its significand in normal position. -/
theorem nearestBits_small :
    ∃ q, 2 ^ 52 ≤ q ∧ q < 2 ^ 53 ∧ q * 2 ^ Nat.log2 m = m * 2 ^ 52 ∧
      nearestBits m 1 = (Nat.log2 m + 1023) * 2 ^ 52 + (q - 2 ^ 52) := by
  have hL := log2_le_of_small h0 h
  obtain ⟨q, d, hqa, hd, hscale, hlo, hhi⟩ := quotientAt_small h0 h
  refine ⟨q, hlo, hhi, hscale, ?_⟩
  unfold nearestBits
  rw [if_neg (by simp; omega)]
  dsimp only
  rw [alignExponent_small h0 h, hqa]
  dsimp only
  have hround : roundHalfEven q 0 d = q := by
    unfold roundHalfEven
    rw [if_neg (by omega), if_neg (by simp; omega)]
  simp only [hround, Nat.pow_eq]
  rw [if_neg (by simp; omega)]
  unfold encodeBits maxExponent
  simp only [Nat.pow_eq]
  rw [if_neg (by simp; omega), if_neg (by omega), if_neg (by omega)]
  congr 2
  omega

end Small

/-- The nearest float to a fraction is never NaN. -/
theorem nearestFloat_isNaN (neg : Bool) (num den : Nat) :
    (nearestFloat neg num den).isNaN = false := by
  have hle := nearestBits_le num den
  unfold nearestFloat
  rw [isNaN_ofBits, UInt64.toNat_ofNat']
  split <;> simp <;> omega

/-- The float of a positive integer of at most 53 bits, with either sign, is exact: its
  significand in normal position times `2 ^ (log₂ m - 52)`. -/
theorem unpack_nearestFloat_small (neg : Bool) {m : Nat} (h0 : 0 < m) (h : m ≤ 2 ^ 53) :
    ∃ q hq, 2 ^ 52 ≤ q ∧ q < 2 ^ 53 ∧ q * 2 ^ Nat.log2 m = m * 2 ^ 52 ∧
      (nearestFloat neg m 1).toModel.unpack =
        .finite (if neg then .negative else .positive) q ((Nat.log2 m + 1023 : Nat) - 1075) hq := by
  have hL := log2_le_of_small h0 h
  obtain ⟨q, hlo, hhi, hscale, hbits⟩ := nearestBits_small h0 h
  refine ⟨q, by omega, hlo, hhi, hscale, ?_⟩
  unfold nearestFloat
  rw [unpack_ofBits, hbits]
  have hq : 2 ^ 52 + (q - 2 ^ 52) = q := by omega
  rw [unpack_normal_bits _ neg (Nat.log2 m + 1023) (q - 2 ^ 52) (by omega) (by omega) (by omega)]
  · simp only [hq]
  · rw [UInt64.toNat_toBitVec, UInt64.toNat_ofNat']
    cases neg <;> simp <;> omega

theorem unpack_floatOfInt_zero : (floatOfInt 0).toModel.unpack = .zero .positive := by
  have hbits : nearestBits 0 1 = 0 := by simp [nearestBits]
  simp only [floatOfInt, nearestFloat, Int.natAbs_zero, hbits, unpack_ofBits]
  rfl

/-- The float of a nonzero integer of at most 53 bits is exact. -/
theorem unpack_floatOfInt (n : Int) (hn : n ≠ 0) (h : n.natAbs ≤ 2 ^ 53) :
    ∃ q hq, 2 ^ 52 ≤ q ∧ q < 2 ^ 53 ∧ q * 2 ^ Nat.log2 n.natAbs = n.natAbs * 2 ^ 52 ∧
      (floatOfInt n).toModel.unpack = .finite (if n < 0 then .negative else .positive) q
        ((Nat.log2 n.natAbs + 1023 : Nat) - 1075) hq := by
  obtain ⟨q, hq, hlo, hhi, hscale, hunpack⟩ :=
    unpack_nearestFloat_small (decide (n < 0)) (Int.natAbs_pos.mpr hn) h
  refine ⟨q, hq, hlo, hhi, hscale, ?_⟩
  rw [floatOfInt, hunpack]
  simp only [decide_eq_true_eq]

theorem compare_biased (L L' : Nat) :
    compare (((L + 1023 : Nat) : Int) - 1075) (((L' + 1023 : Nat) : Int) - 1075) = compare L L' := by
  rcases lt_trichotomy L L' with h | rfl | h
  · rw [compare_lt_iff_lt.mpr h, compare_lt_iff_lt.mpr (by omega)]
  · rw [compare_eq_iff_eq.mpr rfl, compare_eq_iff_eq.mpr rfl]
  · rw [compare_gt_iff_gt.mpr h, compare_gt_iff_gt.mpr (by omega)]

theorem compare_natAbs_of_pos {a b : Int} (ha : 0 < a) (hb : 0 < b) :
    compare a.natAbs b.natAbs = compare a b := by
  rcases lt_trichotomy a b with h | rfl | h
  · rw [compare_lt_iff_lt.mpr h, compare_lt_iff_lt.mpr (by omega)]
  · rw [compare_eq_iff_eq.mpr rfl, compare_eq_iff_eq.mpr rfl]
  · rw [compare_gt_iff_gt.mpr h, compare_gt_iff_gt.mpr (by omega)]

theorem compare_natAbs_of_neg {a b : Int} (ha : a < 0) (hb : b < 0) :
    compare b.natAbs a.natAbs = compare a b := by
  rcases lt_trichotomy a b with h | rfl | h
  · rw [compare_lt_iff_lt.mpr h, compare_lt_iff_lt.mpr (by omega)]
  · rw [compare_eq_iff_eq.mpr rfl, compare_eq_iff_eq.mpr rfl]
  · rw [compare_gt_iff_gt.mpr h, compare_gt_iff_gt.mpr (by omega)]

/-- Integers of at most 53 bits are ordered as floats exactly as they are as integers. -/
theorem floatOrder_floatOfInt (a b : Int) (ha : a.natAbs ≤ 2 ^ 53) (hb : b.natAbs ≤ 2 ^ 53) :
    floatOrder (floatOfInt a) (floatOfInt b) = some (compare a b) := by
  unfold floatOrder
  rcases eq_or_ne a 0 with rfl | ha0 <;> rcases eq_or_ne b 0 with rfl | hb0
  · rw [unpack_floatOfInt_zero]
    rfl
  · obtain ⟨q, hq, -, -, -, hb'⟩ := unpack_floatOfInt b hb0 hb
    rw [unpack_floatOfInt_zero, hb']
    rcases lt_or_gt_of_ne hb0 with hneg | hpos
    · rw [if_pos hneg, compare_gt_iff_gt.mpr hneg]
      rfl
    · rw [if_neg (by omega), compare_lt_iff_lt.mpr hpos]
      rfl
  · obtain ⟨q, hq, -, -, -, ha'⟩ := unpack_floatOfInt a ha0 ha
    rw [unpack_floatOfInt_zero, ha']
    rcases lt_or_gt_of_ne ha0 with hneg | hpos
    · rw [if_pos hneg, compare_lt_iff_lt.mpr hneg]
      rfl
    · rw [if_neg (by omega), compare_gt_iff_gt.mpr hpos]
      rfl
  · obtain ⟨q, hq, hq1, hq2, hqs, ha'⟩ := unpack_floatOfInt a ha0 ha
    obtain ⟨r, hr, hr1, hr2, hrs, hb'⟩ := unpack_floatOfInt b hb0 hb
    have hmag := compare_normalized hq1 hq2 hr1 hr2 hqs hrs
    rw [ha', hb']
    rcases lt_or_gt_of_ne ha0 with ha1 | ha1 <;> rcases lt_or_gt_of_ne hb0 with hb1 | hb1
    · -- two negative integers: the larger magnitude is the smaller
      rw [if_pos ha1, if_pos hb1]
      simp only [UnpackedFloat.compare, compare_biased, hmag, Option.some.injEq]
      rw [Nat.compare_swap]
      exact compare_natAbs_of_neg ha1 hb1
    · rw [if_pos ha1, if_neg (by omega), compare_lt_iff_lt.mpr (by omega)]
      rfl
    · rw [if_neg (by omega), if_pos hb1, compare_gt_iff_gt.mpr (by omega)]
      rfl
    · rw [if_neg (by omega), if_neg (by omega)]
      simp only [UnpackedFloat.compare, compare_biased, hmag, Option.some.injEq]
      exact compare_natAbs_of_pos ha1 hb1

/-- The bits of the nearest float to `± num / den`: the sign bit, then the nearest bits. -/
theorem toBits_nearestFloat (neg : Bool) (num den : Nat) :
    (nearestFloat neg num den).toBits.toNat =
      (if neg then 2 ^ 63 else 0) + nearestBits num den := by
  have hle := nearestBits_le num den
  unfold nearestFloat
  rw [toBits_ofBits]
  · rw [UInt64.toNat_ofNat']
    cases neg <;> simp <;> omega
  · rw [unpack_isNaN, UInt64.toNat_toBitVec, UInt64.toNat_ofNat']
    cases neg <;> simp <;> omega

/-- The nearest float overflows exactly when its bits are those of infinity. -/
theorem isInfinite_nearestFloat (neg : Bool) (num den : Nat) :
    isInfinite (nearestFloat neg num den) = (nearestBits num den == 2047 * 2 ^ 52) := by
  have hle := nearestBits_le num den
  unfold isInfinite Binary64.ofFloat
  simp only [toBits_nearestFloat, Nat.pow_eq, beq_iff_eq]
  split_ifs <;> simp <;> omega

/-- An integer of at most 53 bits converts to its float. -/
theorem floatOfIntChecked_small (n : Int) (h : n.natAbs ≤ 2 ^ 53) :
    floatOfIntChecked n = .ok (floatOfInt n) := by
  have hfinite : nearestBits n.natAbs 1 ≠ 2047 * 2 ^ 52 := by
    rcases eq_or_ne n 0 with rfl | hn
    · simp [nearestBits]
    · have hL := log2_le_of_small (Int.natAbs_pos.mpr hn) h
      obtain ⟨q, -, hhi, -, hbits⟩ := nearestBits_small (Int.natAbs_pos.mpr hn) h
      omega
  unfold floatOfIntChecked floatOfInt
  dsimp only
  rw [isInfinite_nearestFloat, if_neg (by simpa using hfinite)]

/-- Integers of at most 53 bits compare as floats exactly as they compare as integers. -/
theorem floatOfInt_comparisons {m n : Int} (hm : m.natAbs ≤ 2 ^ 53) (hn : n.natAbs ≤ 2 ^ 53) :
    (floatOfInt m == floatOfInt n) = decide (m = n) ∧
      decide (floatOfInt m < floatOfInt n) = decide (m < n) ∧
      decide (floatOfInt m ≤ floatOfInt n) = decide (m ≤ n) ∧
      decide (floatOfInt m > floatOfInt n) = decide (m > n) ∧
      decide (floatOfInt m ≥ floatOfInt n) = decide (m ≥ n) := by
  rw [float_beq, decide_float_lt, decide_float_le, decide_float_gt,
    show decide (floatOfInt m ≥ floatOfInt n) = decide (floatOfInt n ≤ floatOfInt m) from rfl,
    decide_float_le, floatOrder_floatOfInt m n hm hn, floatOrder_floatOfInt n m hn hm]
  rcases lt_trichotomy m n with h | rfl | h
  · rw [compare_lt_iff_lt.mpr h, compare_gt_iff_gt.mpr h]
    simp
    omega
  · rw [compare_eq_iff_eq.mpr rfl]
    simp
  · rw [compare_gt_iff_gt.mpr h, compare_lt_iff_lt.mpr h]
    simp
    omega

theorem floatOfDecimal_isNaN (neg : Bool) (m : Nat) (k : Int) :
    (floatOfDecimal neg m k).isNaN = false := by
  unfold floatOfDecimal
  split <;> exact nearestFloat_isNaN _ _ _

section Value

/-! The nearest float of a fraction depends only on the fraction's value: both terms aligned
at one exponent give one quotient, and their remainders are one fraction of their divisors. -/


/-- At the first guess of the exponent the quotient has at least 53 bits. -/
theorem quotient_first_guess_ge (num den : Nat) (hn : 0 < num) (hd : 0 < den) :
    2 ^ 52 ≤ ⌊(num : ℚ) / den / 2 ^ ((Nat.log2 num : Int) - Nat.log2 den - 53)⌋₊ := by
  have hnum : (2 : ℚ) ^ Nat.log2 num ≤ num := by exact_mod_cast Nat.log2_self_le hn.ne'
  have hden : (den : ℚ) < 2 ^ (Nat.log2 den + 1) := by exact_mod_cast Nat.lt_log2_self
  have hscale : (2 : ℚ) ^ ((Nat.log2 num : Int) - Nat.log2 den - 53) =
      2 ^ Nat.log2 num / 2 ^ Nat.log2 den / 2 ^ 53 := by
    rw [zpow_sub₀ (by norm_num), zpow_sub₀ (by norm_num), zpow_natCast, zpow_natCast]
    norm_num
  have hd' : (0 : ℚ) < den := by exact_mod_cast hd
  rw [Nat.le_floor_iff (by positivity), hscale, div_div, le_div_iff₀ (by positivity)]
  push_cast
  calc (2 : ℚ) ^ 52 * (den * (2 ^ Nat.log2 num / 2 ^ Nat.log2 den / 2 ^ 53))
      ≤ 2 ^ 52 * (2 ^ (Nat.log2 den + 1) * (2 ^ Nat.log2 num / 2 ^ Nat.log2 den / 2 ^ 53)) := by
        gcongr
    _ = 2 ^ Nat.log2 num := by
      field_simp
      ring
    _ ≤ num := hnum

/-- An exponent at which the quotient of `x` has exactly 53 bits. -/
def Aligned (x : ℚ) (e : Int) : Prop := 2 ^ 52 ≤ ⌊x / 2 ^ e⌋₊ ∧ ⌊x / 2 ^ e⌋₊ < 2 ^ 53

/-- A positive value has at most one exponent that gives its quotient 53 bits: one place
  higher halves the quotient. -/
theorem Aligned.unique {x : ℚ} (hx : 0 ≤ x) {e e' : Int} (h : Aligned x e) (h' : Aligned x e') :
    e = e' := by
  have below : ∀ {a b : Int}, a < b → Aligned x a → Aligned x b → False := by
    intro a b hab ha hb
    obtain ⟨-, ha⟩ := ha
    obtain ⟨hb, -⟩ := hb
    have hmono := floor_div_zpow_anti x hx (show a + 1 ≤ b by omega)
    rw [floor_div_zpow_succ] at hmono
    omega
  rcases lt_trichotomy e e' with hlt | heq | hgt
  · exact (below hlt h h').elim
  · exact heq
  · exact (below hgt h' h).elim

/-- The exponent the alignment settles on: the aligned one, raised to the least exponent. -/
theorem alignExponent_aligned (num den : Nat) (hn : 0 < num) (hd : 0 < den) :
    ∃ e, Aligned ((num : ℚ) / den) e ∧
      alignExponent num den = if e < minExponent then minExponent else e := by
  have hx : (0 : ℚ) ≤ num / den := by positivity
  have hlt := quotient_first_guess_lt num den hn hd
  have hge := quotient_first_guess_ge num den hn hd
  unfold alignExponent
  simp only [quotientAt_fst, Nat.pow_eq]
  generalize hq : ⌊(num : ℚ) / den / 2 ^ ((Nat.log2 num : Int) - Nat.log2 den - 53)⌋₊ = q
    at hlt hge
  generalize (Nat.log2 num : Int) - Nat.log2 den - 53 = e0 at hq
  -- the first guess already has 53 or 54 bits, so at most one place is added
  by_cases h53 : q ≥ 2 ^ 53
  · refine ⟨e0 + 1, ?_, by rw [if_neg (show ¬q ≥ 2 ^ 54 by omega), if_pos h53]⟩
    unfold Aligned
    rw [floor_div_zpow_succ, hq]
    omega
  · exact ⟨e0, by unfold Aligned; rw [hq]; omega,
      by rw [if_neg (show ¬q ≥ 2 ^ 54 by omega), if_neg h53, if_neg (show ¬q < 2 ^ 52 by omega)]⟩

/-- Two fractions of one value are aligned at one exponent. -/
theorem alignExponent_eq_of_ratio {a b c d : Nat} (ha : 0 < a) (hb : 0 < b) (hc : 0 < c)
    (hd : 0 < d) (h : (a : ℚ) / b = c / d) : alignExponent a b = alignExponent c d := by
  obtain ⟨e, he, hae⟩ := alignExponent_aligned a b ha hb
  obtain ⟨e', he', hce⟩ := alignExponent_aligned c d hc hd
  rw [h] at he
  rw [hae, hce, Aligned.unique (by positivity) he he']

/-- The quotient, remainder and divisor at an exponent are those of one fraction `n / d` of the
  value scaled by that power of two. -/
theorem quotientAt_eq (num den : Nat) (e : Int) (hd : 0 < den) :
    ∃ n d : Nat, 0 < d ∧ (n : ℚ) / d = num / den / 2 ^ e ∧ quotientAt num den e = (n / d, n % d, d) := by
  by_cases he : 0 ≤ -e
  · -- a nonpositive exponent scales the numerator up
    obtain ⟨k, hk⟩ : ∃ k : ℕ, -e = k := ⟨(-e).toNat, by omega⟩
    refine ⟨num * 2 ^ k, den, hd, ?_, ?_⟩
    · rw [show e = -(k : ℤ) by omega, zpow_neg, zpow_natCast]
      push_cast
      field_simp
    · simp only [quotientAt, scaleByTwo, hk, Int.natCast_nonneg, if_true, Int.toNat_natCast, Nat.pow_eq]
  · -- a positive exponent scales the denominator up
    obtain ⟨k, hk⟩ : ∃ k : ℕ, e = k := ⟨e.toNat, by omega⟩
    refine ⟨num, den * 2 ^ k, by positivity, ?_, ?_⟩
    · rw [hk, zpow_natCast]
      push_cast
      field_simp
    · simp only [quotientAt, scaleByTwo, if_neg he, show (- -e).toNat = k by omega, Nat.pow_eq]

/-- Rounding `n / d` to an integer, ties to even, depends only on the value of the fraction. -/
theorem roundHalfEven_eq_of_ratio {n d n' d' : Nat} (hd : 0 < d) (hd' : 0 < d')
    (h : n * d' = n' * d) :
    roundHalfEven (n / d) (n % d) d = roundHalfEven (n' / d') (n' % d') d' := by
  have hq : n / d = n' / d' := by
    rw [← Nat.mul_div_mul_right n d hd', h, Nat.mul_comm d d', Nat.mul_div_mul_right n' d' hd]
  -- the remainders are one fraction of the divisors as well
  have hr : n % d * d' = n' % d' * d := by
    have e1 := Nat.div_add_mod n d
    have e2 := Nat.div_add_mod n' d'
    rw [hq] at e1
    have hsum : (d * (n' / d') + n % d) * d' = (d' * (n' / d') + n' % d') * d := by
      rw [e1, e2]
      exact h
    nlinarith
  have hgt : 2 * (n % d) > d ↔ 2 * (n' % d') > d' := by
    constructor <;> intro hlt <;> nlinarith
  have heq : 2 * (n % d) = d ↔ 2 * (n' % d') = d' := by
    constructor <;> intro he
    · apply Nat.eq_of_mul_eq_mul_right hd
      nlinarith
    · apply Nat.eq_of_mul_eq_mul_right hd'
      nlinarith
  unfold roundHalfEven
  simp only [hq, beq_iff_eq, hgt, heq]

/-- The nearest bits of a fraction depend only on its value. -/
theorem nearestBits_eq_of_ratio {a b c d : Nat} (hb : 0 < b) (hd : 0 < d) (h : a * d = c * b) :
    nearestBits a b = nearestBits c d := by
  rcases Nat.eq_zero_or_pos a with rfl | ha
  · have hc : c = 0 := (Nat.mul_eq_zero.mp (by rw [← h, zero_mul])).resolve_right hb.ne'
    subst hc
    simp [nearestBits]
  have hc : 0 < c := Nat.pos_of_mul_pos_right (h ▸ Nat.mul_pos ha hd)
  have hval : (a : ℚ) / b = c / d := by
    rw [div_eq_div_iff (by positivity) (by positivity)]
    exact_mod_cast h
  unfold nearestBits
  rw [if_neg (by simp; omega), if_neg (by simp; omega)]
  dsimp only
  rw [alignExponent_eq_of_ratio ha hb hc hd hval]
  generalize alignExponent c d = e
  obtain ⟨n, m, hm, hnm, hqa⟩ := quotientAt_eq a b e hb
  obtain ⟨n', m', hm', hnm', hqc⟩ := quotientAt_eq c d e hd
  have hcross : n * m' = n' * m := by
    have hq : (n : ℚ) / m = n' / m' := by rw [hnm, hnm', hval]
    rw [div_eq_div_iff (by positivity) (by positivity)] at hq
    exact_mod_cast hq
  rw [hqa, hqc]
  dsimp only
  rw [roundHalfEven_eq_of_ratio hm hm' hcross]

/-- The nearest float to a fraction depends only on its value. -/
theorem nearestFloat_eq_of_ratio (neg : Bool) {a b c d : Nat} (hb : 0 < b) (hd : 0 < d)
    (h : a * d = c * b) : nearestFloat neg a b = nearestFloat neg c d := by
  unfold nearestFloat
  rw [nearestBits_eq_of_ratio hb hd h]

/-- Scaling both terms of a fraction does not move its nearest float. -/
theorem nearestOfRatio_mul_mul (n : Int) {c d : Nat} (hc : 0 < c) (hd : 0 < d) :
    nearestOfRatio (n * c) (d * c) = nearestOfRatio n d := by
  unfold nearestOfRatio
  have hneg : decide (n * c < 0) = decide (n < 0) := by
    have : (0 : Int) < c := by exact_mod_cast hc
    simp only [decide_eq_decide]
    constructor <;> intro h <;> nlinarith
  rw [hneg, Int.natAbs_mul, Int.natAbs_natCast]
  exact nearestFloat_eq_of_ratio _ (Nat.mul_pos hd hc) hd (by ring)

end Value

section Exact

/-! An integer of at most 53 bits is an exact float, so correctly rounded products and sums of
such integers are the floats of the integer results. -/

/-- A float whose bits hold a normal exponent field `E` and stored fraction `F` reads as the
  significand `F + 2 ^ 52` at exponent `E - 1075`. -/
theorem ofFloat_of_normal_bits {x : Float} {neg : Bool} {E F : Nat} (hE : 0 < E) (hE' : E < 2047)
    (hF : F < 2 ^ 52) (hx : x.toBits.toNat = (if neg then 2 ^ 63 else 0) + (E * 2 ^ 52 + F)) :
    Binary64.ofFloat x = .finite neg (F + 2 ^ 52) ((E : Int) - 1075) := by
  have hsign : ((if neg then 2 ^ 63 else 0) + (E * 2 ^ 52 + F)) / 2 ^ 63 % 2 = if neg then 1 else 0 := by
    cases neg <;> simp <;> omega
  have hexp : ((if neg then 2 ^ 63 else 0) + (E * 2 ^ 52 + F)) / 2 ^ 52 % 2 ^ 11 = E := by
    cases neg <;> simp <;> omega
  have hfrac : ((if neg then 2 ^ 63 else 0) + (E * 2 ^ 52 + F)) % 2 ^ 52 = F := by
    cases neg <;> simp <;> omega
  unfold Binary64.ofFloat
  simp only [hx, Nat.pow_eq, hsign, hexp, hfrac]
  rw [if_neg (by simp; omega), if_neg (by simp; omega)]
  cases neg <;> rfl

/-- The float of an integer of at most 53 bits reads back as a finite value whose exact
  fraction is that integer. -/
theorem ofFloat_floatOfInt (n : Int) (h : n.natAbs ≤ 2 ^ 53) :
    ∃ (neg : Bool) (m : Nat) (e : Int) (d : Nat), Binary64.ofFloat (floatOfInt n) = .finite neg m e ∧
      0 < d ∧ exactFraction neg m e = (n * d, d) := by
  rcases eq_or_ne n 0 with rfl | hn
  · -- zero is the subnormal zero, over the least power of two
    refine ⟨false, 0, minExponent, (scaleByTwo 0 1 minExponent).2, rfl, ?_, ?_⟩
    · generalize minExponent = e
      unfold scaleByTwo
      split <;> simp [Nat.pow_eq]
    · generalize minExponent = e
      unfold exactFraction scaleByTwo
      split_ifs <;> simp
  have hpos := Int.natAbs_pos.mpr hn
  have hL := log2_le_of_small hpos h
  obtain ⟨q, hlo, hhi, hscale, hbits⟩ := nearestBits_small hpos h
  have hword : (floatOfInt n).toBits.toNat = (if decide (n < 0) then 2 ^ 63 else 0) +
      ((Nat.log2 n.natAbs + 1023) * 2 ^ 52 + (q - 2 ^ 52)) := by
    rw [floatOfInt, toBits_nearestFloat, hbits]
  have hread := ofFloat_of_normal_bits (by omega) (by omega) (by omega) hword
  rw [Nat.sub_add_cancel hlo] at hread
  refine ⟨_, _, _, if 52 ≤ Nat.log2 n.natAbs then 1 else 2 ^ (52 - Nat.log2 n.natAbs), hread,
    by split <;> positivity, ?_⟩
  -- the exact fraction is the integer over 1, or over the powers of two below 52 bits
  have hsigned : ∀ c d : Nat, c = n.natAbs * d →
      (if decide (n < 0) then -Int.ofNat c else Int.ofNat c) = n * d := by
    intro c d hc
    subst hc
    rcases lt_or_ge n 0 with hneg | hnonneg
    · simp [hneg, abs_of_neg hneg]
    · simp [not_lt.mpr hnonneg, abs_of_nonneg hnonneg]
  unfold exactFraction scaleByTwo
  by_cases h52 : 52 ≤ Nat.log2 n.natAbs
  · have hsplit : 2 ^ Nat.log2 n.natAbs = 2 ^ (Nat.log2 n.natAbs - 52) * 2 ^ 52 := by
      rw [← Nat.pow_add, Nat.sub_add_cancel h52]
    have hval : q * 2 ^ (Nat.log2 n.natAbs - 52) = n.natAbs * 1 := by
      rw [hsplit, ← Nat.mul_assoc] at hscale
      rw [Nat.mul_one]
      exact Nat.eq_of_mul_eq_mul_right (by positivity) hscale
    rw [if_pos (by omega), if_pos h52]
    simp only [Nat.pow_eq, show ((Nat.log2 n.natAbs + 1023 : Nat) - 1075 : Int).toNat =
      Nat.log2 n.natAbs - 52 by omega, hsigned _ 1 hval]
  · have hsplit : 2 ^ 52 = 2 ^ Nat.log2 n.natAbs * 2 ^ (52 - Nat.log2 n.natAbs) := by
      rw [← Nat.pow_add]; congr 1; omega
    have hval : q = n.natAbs * 2 ^ (52 - Nat.log2 n.natAbs) := by
      rw [hsplit, Nat.mul_comm (2 ^ Nat.log2 n.natAbs), ← Nat.mul_assoc] at hscale
      exact Nat.eq_of_mul_eq_mul_right (by positivity) hscale
    rw [if_neg (by omega), if_neg h52]
    simp only [Nat.pow_eq, Nat.one_mul, show (-((Nat.log2 n.natAbs + 1023 : Nat) - 1075 : Int)).toNat =
      52 - Nat.log2 n.natAbs by omega, hsigned _ _ hval]

/-- The exact value of the float of an integer of at most 53 bits is that integer. -/
theorem exactValue?_floatOfInt (n : Int) (h : n.natAbs ≤ 2 ^ 53) :
    ∃ d : Nat, 0 < d ∧ exactValue? (floatOfInt n) = some (n * d, d) := by
  obtain ⟨neg, m, e, d, hread, hd, hfrac⟩ := ofFloat_floatOfInt n h
  refine ⟨d, hd, ?_⟩
  rw [exactValue?, hread]
  exact congrArg some hfrac

theorem floatOfInt_eq_nearestOfRatio (n : Int) : floatOfInt n = nearestOfRatio n 1 := rfl

/-- An integer of at most 53 bits does not overflow its float. -/
theorem isInfinite_floatOfInt (n : Int) (h : n.natAbs ≤ 2 ^ 53) : isInfinite (floatOfInt n) = false := by
  have hchecked := floatOfIntChecked_small n h
  unfold floatOfIntChecked at hchecked
  dsimp only at hchecked
  split at hchecked
  · cases hchecked
  · rename_i hfinite
    simpa using hfinite

/-- The correctly rounded product of two integers of at most 53 bits is the float of their
  product. -/
theorem mulNearest_floatOfInt {a b : Int} (ha : a.natAbs ≤ 2 ^ 53) (hb : b.natAbs ≤ 2 ^ 53) :
    mulNearest (floatOfInt a) (floatOfInt b) = floatOfInt (a * b) := by
  obtain ⟨p, hp, hap⟩ := exactValue?_floatOfInt a ha
  obtain ⟨q, hq, hbq⟩ := exactValue?_floatOfInt b hb
  rw [mulNearest, hap, hbq]
  show nearestOfRatio (a * p * (b * q)) (p * q) = nearestOfRatio (a * b) 1
  rw [← nearestOfRatio_mul_mul (a * b) (Nat.mul_pos hp hq) one_pos]
  congr 1
  · push_cast; ring
  · ring

/-- The correctly rounded sum of two integers of at most 53 bits is the float of their sum. -/
theorem addNearest_floatOfInt {a b : Int} (ha : a.natAbs ≤ 2 ^ 53) (hb : b.natAbs ≤ 2 ^ 53) :
    addNearest (floatOfInt a) (floatOfInt b) = floatOfInt (a + b) := by
  obtain ⟨p, hp, hap⟩ := exactValue?_floatOfInt a ha
  obtain ⟨q, hq, hbq⟩ := exactValue?_floatOfInt b hb
  rw [addNearest, hap, hbq]
  show nearestOfRatio (a * p * Int.ofNat q + b * q * Int.ofNat p) (p * q) = nearestOfRatio (a + b) 1
  rw [← nearestOfRatio_mul_mul (a + b) (Nat.mul_pos hp hq) one_pos]
  congr 1
  · simp only [Int.ofNat_eq_natCast]
    push_cast
    ring
  · ring

end Exact

end FieldRules.Number

namespace FieldRules

open Number

/-- A number of rule arithmetic that is not NaN converts, if at all, to a float that is not NaN. -/
theorem Value.toFloat_not_isNaN {v : Value} {x : Float} (hv : v.isRuleNumber = true)
    (hs : v.isSelfUnequal = false) (h : v.toFloat = .ok x) : x.isNaN = false := by
  cases v
  all_goals try (simp [Value.isRuleNumber] at hv; done)
  case int n | textInt n _ =>
    simp only [Value.toFloat, floatOfIntChecked] at h
    split_ifs at h
    cases h
    exact nearestFloat_isNaN _ _ _
  case float y =>
    cases h
    exact hs
  case decimal d =>
    cases d with
    | finite neg c e =>
      simp only [Value.toFloat, Decimal.toFloat?] at h
      -- a decimal too large for a float is an infinity of its sign
      split_ifs at h <;> simp only [Except.ok.injEq] at h <;> subst h
      · exact floatOfDecimal_isNaN _ _ _
      · decide
      · decide
      · exact floatOfDecimal_isNaN _ _ _
      · exact floatOfDecimal_isNaN _ _ _
    | inf neg =>
      simp only [Value.toFloat, Decimal.toFloat?, Except.ok.injEq] at h
      subst h
      cases neg <;> decide
    | nan => simp [Value.isSelfUnequal, Decimal.isNaN] at hs

/-- A number of rule arithmetic converts, if at all, to a float that is NaN exactly when the
  number is. -/
theorem Value.toFloat_isNaN {v : Value} {x : Float} (hv : v.isRuleNumber = true)
    (h : v.toFloat = .ok x) : x.isNaN = v.isSelfUnequal := by
  cases hs : v.isSelfUnequal
  · exact Value.toFloat_not_isNaN hv hs h
  · -- a NaN number: a float NaN, or a quiet decimal NaN that converts to one
    cases v with
    | float y =>
      cases h
      exact hs
    | decimal d =>
      cases d with
      | nan neg sig payload =>
        cases sig with
        | false =>
          simp only [Value.toFloat, Number.Decimal.toFloat?, Except.ok.injEq] at h
          subst h
          decide
        | true => simp [Value.toFloat, Number.Decimal.toFloat?] at h
      | _ => simp [Value.isSelfUnequal, Number.Decimal.isNaN] at hs
    | _ => simp [Value.isRuleNumber, Value.isSelfUnequal] at hv hs

end FieldRules
