import Mathlib

/-! # The IEEE order of floats

Floats compare through their unpacked form: NaN is unordered, the two zeros are equal, and
finite values of one sign compare by exponent, then by significand. This module names that
order once, as `floatOrder`, and reads `<`, `≤`, `>` and `==` off it. It then reads floats off
their bit patterns: which patterns are NaN (`unpack_isNaN`), that unpacking after packing an
unpacked pattern changes nothing (`unpack_pack_unpack`) and that packing gives every pattern
but a NaN back (`pack_unpack`), and how a pattern in normal position unpacks
(`unpack_normal_bits`). Values in normal position compare as the numbers they denote
(`compare_normalized`). -/

namespace FieldRules.Number

open Float.Model Float.Model.UnpackedFloat

/-! ## The order of unpacked floats -/

theorem unpacked_compare_swap (a b : UnpackedFloat) :
    b.compare a = (a.compare b).map Ordering.swap := by
  rcases a with s | _ | s | ⟨s, m, e, h⟩ <;> rcases b with t | _ | t | ⟨t, n, f, k⟩ <;>
    (try cases s) <;> (try cases t) <;>
    simp only [UnpackedFloat.compare, Option.map_some, Option.map_none]
  -- two finite values of one sign compare exponents, then significands
  all_goals first
    | rfl
    | rw [Ordering.swap_then, Int.compare_swap, Nat.compare_swap]
      try rw [Ordering.swap_swap]

theorem unpacked_compare_eq_none_iff (a b : UnpackedFloat) :
    a.compare b = none ↔ a.isNaN = true ∨ b.isNaN = true := by
  rcases a with s | _ | s | ⟨s, m, e, h⟩ <;> rcases b with t | _ | t | ⟨t, n, f, k⟩ <;>
    (try cases s) <;> (try cases t) <;>
    simp [UnpackedFloat.compare, UnpackedFloat.isNaN]

/-! ## The order of floats -/

/-- The IEEE order of two floats: an ordering, or none when either is NaN. -/
def floatOrder (x y : Float) : Option Ordering := x.toModel.unpack.compare y.toModel.unpack

theorem floatOrder_swap (x y : Float) : floatOrder y x = (floatOrder x y).map Ordering.swap :=
  unpacked_compare_swap _ _

theorem floatOrder_eq_none_iff (x y : Float) :
    floatOrder x y = none ↔ x.isNaN = true ∨ y.isNaN = true :=
  unpacked_compare_eq_none_iff _ _

theorem decide_float_lt (x y : Float) : decide (x < y) = (floatOrder x y == some .lt) := by
  rw [Bool.eq_iff_iff, decide_eq_true_iff, beq_iff_eq]
  show decide (x.toModel < y.toModel) = true ↔ _
  rw [decide_eq_true_iff]
  show x.toModel.lt y.toModel = true ↔ _
  simp [floatOrder, Float.Model.lt, UnpackedFloat.lt]

theorem decide_float_gt (x y : Float) : decide (x > y) = (floatOrder x y == some .gt) := by
  rw [show decide (x > y) = decide (y < x) from rfl, decide_float_lt, floatOrder_swap]
  cases floatOrder x y with
  | none => rfl
  | some o => cases o <;> rfl

theorem decide_float_le (x y : Float) : decide (x ≤ y) = (floatOrder x y).any (·.isLE) := by
  rw [Bool.eq_iff_iff, decide_eq_true_iff]
  show decide (x.toModel ≤ y.toModel) = true ↔ _
  rw [decide_eq_true_iff]
  show x.toModel.le y.toModel = true ↔ _
  simp [floatOrder, Float.Model.le, UnpackedFloat.le]

theorem float_beq (x y : Float) : (x == y) = (floatOrder x y == some .eq) := rfl

/-! ## Bit patterns -/

theorem unpackExponent_toNat (b : BitVec 64) :
    (@unpackExponent .binary64 b).toNat = b.toNat / 2 ^ 52 % 2 ^ 11 := by
  simp [unpackExponent, Nat.shiftRight_eq_div_pow]

theorem unpackMantissa_toNat (b : BitVec 64) :
    (@unpackMantissa .binary64 b).toNat = b.toNat % 2 ^ 52 := by
  simp [unpackMantissa]

theorem unpackSign_eq (b : BitVec 64) :
    Sign.ofBitVec (@unpackSign .binary64 b) =
      if b.toNat < 2 ^ 63 then .positive else .negative := by
  have hs : (@unpackSign .binary64 b).toNat = b.toNat / 2 ^ 63 % 2 := by
    simp [unpackSign, Nat.shiftRight_eq_div_pow]
  have hb := b.isLt
  unfold Sign.ofBitVec
  by_cases h : b.toNat < 2 ^ 63
  · rw [if_pos h, if_pos (BitVec.eq_of_toNat_eq (by rw [hs]; simp; omega))]
  · rw [if_neg h, if_neg (fun heq => by have := congrArg BitVec.toNat heq; simp [hs] at this; omega)]

theorem unpackSign_packComponents (s : Sign) (ev : BitVec 11) (mv : BitVec 52) :
    Sign.ofBitVec (@unpackSign .binary64 (packComponents .binary64 s ev mv)) = s := by
  simp only [unpackSign, packComponents, BitVec.extractLsb]
  rw [BitVec.extractLsb'_append_eq_of_le (by omega), BitVec.extractLsb'_append_eq_of_le (by omega)]
  cases s <;> rfl

theorem sign_toBitVec_ofBitVec (v : BitVec 1) : (Sign.ofBitVec v).toBitVec = v := by
  revert v
  decide

/-- A pattern is its sign, exponent and mantissa fields put together again. -/
theorem packComponents_fields (b : BitVec 64) :
    packComponents .binary64 (Sign.ofBitVec (@unpackSign .binary64 b))
      (@unpackExponent .binary64 b) (@unpackMantissa .binary64 b) = b := by
  simp only [packComponents, sign_toBitVec_ofBitVec, unpackSign, unpackExponent, unpackMantissa,
    BitVec.extractLsb]
  ext i hi
  grind

theorem bitVec_toNat_ofNat_of_lt {w : Nat} (n : Nat) (h : n < 2 ^ w) :
    (BitVec.ofNat w n).toNat = n := by
  simp [BitVec.toNat_ofNat, Nat.mod_eq_of_lt h]

/-- The significand `1` followed by a mantissa field. -/
theorem toNat_one_append (v : BitVec 52) : (1#1 ++ v).toNat = 2 ^ 52 + v.toNat := by
  rw [BitVec.toNat_append, ← Nat.shiftLeft_add_eq_or_of_lt v.isLt, Nat.shiftLeft_eq]
  simp

/-- A NaN pattern has the exponent field all ones and a mantissa field that is not zero. -/
theorem unpack_isNaN_fields (b : BitVec 64) :
    (UnpackedFloat.unpack Format.binary64 b).isNaN =
      (@unpackExponent Format.binary64 b == 2047#11 &&
        @unpackMantissa Format.binary64 b != 0#52) := by
  unfold UnpackedFloat.unpack
  by_cases hx : @unpackExponent Format.binary64 b = 2047#11
  · by_cases hm : @unpackMantissa Format.binary64 b = 0#52 <;>
      simp [hx, hm, UnpackedFloat.isNaN]
  · by_cases h0 : @unpackExponent Format.binary64 b = 0#11
    · by_cases hm : @unpackMantissa Format.binary64 b = 0#52 <;>
        simp [h0, hm, UnpackedFloat.isNaN]
    · simp [hx, h0, UnpackedFloat.isNaN]

theorem unpack_isNaN (b : BitVec 64) :
    (UnpackedFloat.unpack Format.binary64 b).isNaN =
      (b.toNat / 2 ^ 52 % 2 ^ 11 == 2047 && b.toNat % 2 ^ 52 != 0) := by
  rw [unpack_isNaN_fields]
  congr 1
  · rw [Bool.eq_iff_iff, beq_iff_eq, beq_iff_eq, ← BitVec.toNat_inj, unpackExponent_toNat]
    rfl
  · rw [Bool.eq_iff_iff, bne_iff_ne, bne_iff_ne, ne_eq, ne_eq, ← BitVec.toNat_inj,
      unpackMantissa_toNat]
    rfl

/-- A significand in normal position has 53 bits. -/
theorem log2_of_normal (m : Nat) (hlo : 2 ^ 52 ≤ m) (hhi : m < 2 ^ 53) : m.log2 = 52 := by
  have h1 : 52 ≤ m.log2 := (Nat.le_log2 (by omega)).mpr hlo
  have h2 : m.log2 < 53 := (Nat.log2_lt (by omega)).mpr hhi
  omega

/-- Packing a finite value in normal position, or in subnormal position at the least exponent,
  and unpacking it again gives the value back. -/
theorem unpack_pack_finite (s : Sign) (m : Nat) (e : Int) (h : 0 < m) (hm : m < 2 ^ 53)
    (hlo : -1074 ≤ e) (hhi : e ≤ 971) (hnorm : 2 ^ 52 ≤ m ∨ e = -1074) :
    unpack .binary64 (pack .binary64 (.finite s m e h)) = .finite s m e h := by
  have hbias : (e + Format.binary64.exponentBias + Format.binary64.mantissaBitsWithoutImplicit).toNat
      = (e + 1075).toNat := by
    show (e + (2 ^ (11 - 1) - 1 : Nat) + (52 : Nat)).toNat = (e + 1075).toNat
    omega
  have hb : ((Format.binary64.exponentBias : Nat) : Int) = 1023 := rfl
  rw [UnpackedFloat.pack]
  simp only [hbias]
  rw [if_neg (by show ¬ 2 ^ 11 ≤ _; omega)]
  by_cases hn : 2 ^ 52 ≤ m
  · -- a normal value: the exponent field is e + 1075, the mantissa field m - 2 ^ 52
    have hlog := log2_of_normal m hn hm
    rw [if_pos (by rw [hlog]; rfl), UnpackedFloat.unpack]
    simp only [unpackMantissa_packComponents, unpackExponent_packComponents,
      unpackSign_packComponents]
    have hfield : (BitVec.ofNat 11 (e + 1075).toNat).toNat = (e + 1075).toNat :=
      bitVec_toNat_ofNat_of_lt _ (by omega)
    rw [if_neg (fun heq => by have := congrArg BitVec.toNat heq; simp at this; omega),
      if_neg (fun heq => by have := congrArg BitVec.toNat heq; simp at this; omega)]
    have hmant : (1#1 ++ BitVec.ofNat 52 m).toNat = m := by
      rw [toNat_one_append, BitVec.toNat_ofNat]
      omega
    simp only [hmant, hfield, hb]
    congr 1
    omega
  · -- a subnormal value: the exponent field is zero
    have he : e = -1074 := hnorm.resolve_left hn
    subst he
    have hlog : m.log2 < 52 := (Nat.log2_lt (by omega)).mpr (by omega)
    rw [if_neg (by show ¬ m.log2 + 1 = 53; omega), UnpackedFloat.unpack]
    simp only [unpackMantissa_packComponents, unpackExponent_packComponents,
      unpackSign_packComponents]
    have hmant : (BitVec.ofNat 52 m).toNat = m := bitVec_toNat_ofNat_of_lt _ (by omega)
    have hne : BitVec.ofNat 52 m ≠ 0#52 := fun heq => by
      have := congrArg BitVec.toNat heq
      rw [hmant] at this
      simp at this
      omega
    rw [if_neg (by decide), if_pos trivial, dif_neg hne]
    simp only [hmant, hb]
    rfl

/-- Unpacking is undone by packing: what a pattern unpacks to, packed and unpacked again, is
  what it unpacks to. -/
theorem unpack_pack_unpack (b : BitVec 64) :
    unpack .binary64 (pack .binary64 (unpack .binary64 b)) = unpack .binary64 b := by
  generalize hu : unpack .binary64 b = u
  rw [UnpackedFloat.unpack] at hu
  have hmb : (@unpackMantissa .binary64 b).toNat < 2 ^ 52 := BitVec.isLt _
  have heb : (@unpackExponent .binary64 b).toNat < 2048 := BitVec.isLt _
  have hb : ((Format.binary64.exponentBias : Nat) : Int) = 1023 := rfl
  split_ifs at hu with hx hm h0 hm0 <;> subst hu
  · generalize Sign.ofBitVec (@unpackSign .binary64 b) = s
    cases s <;> rfl
  · rfl
  · generalize Sign.ofBitVec (@unpackSign .binary64 b) = s
    cases s <;> rfl
  · have h0' : (@unpackExponent .binary64 b).toNat = 0 := by
      simpa using congrArg BitVec.toNat h0
    apply unpack_pack_finite <;> simp only [h0', hb] <;> omega
  · have hx' : (@unpackExponent .binary64 b).toNat ≠ 2047 := fun heq =>
      hx (BitVec.eq_of_toNat_eq (by simpa using heq))
    have h0' : (@unpackExponent .binary64 b).toNat ≠ 0 := fun heq =>
      h0 (BitVec.eq_of_toNat_eq (by simpa using heq))
    apply unpack_pack_finite <;> simp only [toNat_one_append, hb] <;> omega

/-- Off NaN patterns, packing what a pattern unpacks to gives the pattern back. -/
theorem pack_unpack (b : BitVec 64) (hb : (unpack .binary64 b).isNaN = false) :
    pack .binary64 (unpack .binary64 b) = b := by
  have hmb : (@unpackMantissa .binary64 b).toNat < 2 ^ 52 := BitVec.isLt _
  have heb : (@unpackExponent .binary64 b).toNat < 2048 := BitVec.isLt _
  have hb' : ((Format.binary64.exponentBias : Nat) : Int) = 1023 := rfl
  conv_rhs => rw [← packComponents_fields b]
  revert hb
  generalize hu : unpack .binary64 b = u
  rw [UnpackedFloat.unpack] at hu
  split_ifs at hu with hx hm h0 hm0 <;> subst hu <;> intro hb
  · simp only [UnpackedFloat.pack, packedInfinity, hx, hm]
    rfl
  · simp [UnpackedFloat.isNaN] at hb
  · simp only [UnpackedFloat.pack, packedZero, h0, hm0]
    rfl
  · -- a subnormal value packs with the exponent field zero
    have h0' : (@unpackExponent .binary64 b).toNat = 0 := by
      simpa using congrArg BitVec.toNat h0
    have hlog : (@unpackMantissa .binary64 b).toNat.log2 < 52 :=
      (Nat.log2_lt (by simpa [BitVec.toNat_eq] using hm0)).mpr hmb
    rw [UnpackedFloat.pack]
    simp only [h0', hb']
    rw [if_neg (by decide), if_neg (by show ¬ _ + 1 = 53; omega), h0]
    congr 1
    exact BitVec.eq_of_toNat_eq (by simp)
  · -- a normal value packs its exponent field and drops the leading significand bit
    have hx' : (@unpackExponent .binary64 b).toNat ≠ 2047 := fun heq =>
      hx (BitVec.eq_of_toNat_eq (by simpa using heq))
    have h0' : (@unpackExponent .binary64 b).toNat ≠ 0 := fun heq =>
      h0 (BitVec.eq_of_toNat_eq (by simpa using heq))
    have hlog := log2_of_normal (2 ^ 52 + (@unpackMantissa .binary64 b).toNat) (by omega)
      (by omega)
    rw [UnpackedFloat.pack]
    simp only [toNat_one_append, hb', hlog]
    rw [if_neg (by show ¬ 2 ^ 11 ≤ _; omega), if_pos (by decide)]
    congr 1
    · exact BitVec.eq_of_toNat_eq (by simp; omega)
    · exact BitVec.eq_of_toNat_eq (by simp; omega)

/-- A pattern with exponent field `f` strictly between the extremes, mantissa field `r` and the
  sign bit `neg` is the finite value `± (2 ^ 52 + r) · 2 ^ (f - 1075)`. -/
theorem unpack_normal_bits (b : BitVec 64) (neg : Bool) (f r : Nat) (hf : 0 < f) (hf' : f < 2047)
    (hr : r < 2 ^ 52) (hb : b.toNat = (if neg then 2 ^ 63 else 0) + f * 2 ^ 52 + r) :
    unpack .binary64 b =
      .finite (if neg then .negative else .positive) (2 ^ 52 + r) ((f : Int) - 1075)
        (by positivity) := by
  have he : (@unpackExponent .binary64 b).toNat = f := by
    rw [unpackExponent_toNat, hb]; cases neg <;> simp <;> omega
  have hm : (@unpackMantissa .binary64 b).toNat = r := by
    rw [unpackMantissa_toNat, hb]; cases neg <;> simp <;> omega
  have hs : Sign.ofBitVec (@unpackSign .binary64 b) =
      if neg then .negative else .positive := by
    rw [unpackSign_eq, hb]; cases neg <;> simp <;> omega
  rw [UnpackedFloat.unpack]
  rw [if_neg (fun heq => by have := congrArg BitVec.toNat heq; simp [he] at this; omega),
    if_neg (fun heq => by have := congrArg BitVec.toNat heq; simp [he] at this; omega)]
  simp only [toNat_one_append, hm, hs, he]
  rfl

/-! ## Floats from bits -/

theorem unpack_ofBits (u : UInt64) :
    (Float.ofBits u).toModel.unpack = unpack .binary64 u.toBitVec :=
  unpack_pack_unpack _

theorem isNaN_ofBits (u : UInt64) :
    (Float.ofBits u).isNaN = (u.toNat / 2 ^ 52 % 2 ^ 11 == 2047 && u.toNat % 2 ^ 52 != 0) := by
  show (Float.ofBits u).toModel.unpack.isNaN = _
  rw [unpack_ofBits, unpack_isNaN, UInt64.toNat_toBitVec]

/-- Off NaN patterns, the float of a pattern has that pattern as its bits. -/
theorem toBits_ofBits (u : UInt64) (hu : (unpack .binary64 u.toBitVec).isNaN = false) :
    (Float.ofBits u).toBits = u :=
  UInt64.toBitVec_inj.mp (pack_unpack _ hu)

/-! ## Normal position -/

/-- Two significands in normal position scaled by powers of two: the one with the smaller
  exponent is the smaller number. -/
theorem lt_of_exponent_lt {q q' L L' : Nat} (hq' : q < 2 ^ 53) (hr : 2 ^ 52 ≤ q') (hl : L < L') :
    q * 2 ^ L < q' * 2 ^ L' :=
  calc q * 2 ^ L < 2 ^ 53 * 2 ^ L := Nat.mul_lt_mul_of_pos_right hq' (by positivity)
    _ = 2 ^ 52 * 2 ^ (L + 1) := by ring
    _ ≤ q' * 2 ^ L' := Nat.mul_le_mul hr (Nat.pow_le_pow_right (by decide) hl)

/-- Finite values in normal position, `q · 2 ^ L` up to a common scale with
  `2 ^ 52 ≤ q < 2 ^ 53`, are ordered first by exponent and then by significand exactly as the
  numbers they denote. -/
theorem compare_normalized {q q' L L' m m' : Nat} (hq : 2 ^ 52 ≤ q) (hq' : q < 2 ^ 53)
    (hr : 2 ^ 52 ≤ q') (hr' : q' < 2 ^ 53) (h : q * 2 ^ L = m * 2 ^ 52)
    (h' : q' * 2 ^ L' = m' * 2 ^ 52) :
    (compare L L').then (compare q q') = compare m m' := by
  have hpos : 0 < 2 ^ 52 := by positivity
  rcases lt_trichotomy L L' with hl | rfl | hl
  · have hm : m < m' := Nat.lt_of_mul_lt_mul_right (h ▸ h' ▸ lt_of_exponent_lt hq' hr hl)
    rw [compare_lt_iff_lt.mpr hl, compare_lt_iff_lt.mpr hm]
    rfl
  · -- one exponent: the significands are the numbers at one scale
    rw [compare_eq_iff_eq.mpr rfl, Ordering.eq_then]
    rcases lt_trichotomy q q' with hs | rfl | hs
    · have hm : m < m' := Nat.lt_of_mul_lt_mul_right
        (h ▸ h' ▸ Nat.mul_lt_mul_of_pos_right hs (by positivity))
      rw [compare_lt_iff_lt.mpr hs, compare_lt_iff_lt.mpr hm]
    · have hm : m = m' := Nat.eq_of_mul_eq_mul_right hpos (h.symm.trans h')
      rw [hm, compare_eq_iff_eq.mpr rfl, compare_eq_iff_eq.mpr rfl]
    · have hm : m' < m := Nat.lt_of_mul_lt_mul_right
        (h ▸ h' ▸ Nat.mul_lt_mul_of_pos_right hs (by positivity))
      rw [compare_gt_iff_gt.mpr hs, compare_gt_iff_gt.mpr hm]
  · have hm : m' < m := Nat.lt_of_mul_lt_mul_right (h ▸ h' ▸ lt_of_exponent_lt hr' hq hl)
    rw [compare_gt_iff_gt.mpr hl, compare_gt_iff_gt.mpr hm]
    rfl

end FieldRules.Number
