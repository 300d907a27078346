import Mathlib
import FieldRules.Proofs.Rounding
import FieldRules.Proofs.Print

/-! # Float text reads back

The text of a finite float is the shortest decimal, on the first grid of `n` significant digits
that has one, whose nearest float is the float itself (`shortestDigits`). When that text is a
plain decimal, digits around a point, the reader turns it back into the float
(`decimalToFloat_floatText`), so every float the printer writes that way is one that reads back
(`floatReadsBack_iff`).

The argument has three parts.
* The nearest float to any fraction within `v / 2 ^ 54` of the value `v = m · 2 ^ e` of a finite
  float is that float (`nearestBits_of_near`): the fraction aligns at the float's exponent, or
  one place below it at the bottom of a binade, and rounds to its significand.
* On the grid of seventeen digits under the decimal exponent `p` of `v`, the neighbours of `v`
  are `10 ^ (p - 16) ≤ v / 10 ^ 16` apart, so the nearer one is within `v / 2 ^ 54` and reads
  back (`gridChoice_seventeen`): the search for the shortest digits never falls through
  (`shortestDigits_reads`).
* The positional layouts write the chosen digits `c` at exponent `k` as digits around a point
  whose value is `c · 10 ^ k` (`positional_text`); the others write an exponent mark, so their
  text is never plain (`exponentText_not_plain`).
-/

namespace FieldRules.Number

/-! ## Rounding to the nearest float -/

/-- Rounding `n / d`, ties to even, gives the natural number nearer to it than a half. -/
theorem roundHalfEven_of_near {n d M : Nat} (hd : 0 < d) (h : |(n : ℚ) / d - M| < 1 / 2) :
    roundHalfEven (n / d) (n % d) d = M := by
  have hd' : (0 : ℚ) < d := by exact_mod_cast hd
  obtain ⟨h₁, h₂⟩ := abs_lt.1 h
  have h₁' : ((M : ℚ) - 1 / 2) * d < n := by
    rw [← lt_div_iff₀ hd']
    linarith
  have h₂' : (n : ℚ) < (M + 1 / 2) * d := by
    rw [← div_lt_iff₀ hd']
    linarith
  -- in natural numbers: `(2 M - 1) d < 2 n < (2 M + 1) d`
  have hlo : 2 * M * d < 2 * n + d := by
    have : ((2 * M * d : Nat) : ℚ) < ((2 * n + d : Nat) : ℚ) := by push_cast; linarith
    exact_mod_cast this
  have hhi : 2 * n < (2 * M + 1) * d := by
    have : ((2 * n : Nat) : ℚ) < (((2 * M + 1) * d : Nat) : ℚ) := by push_cast; linarith
    exact_mod_cast this
  have hdm := Nat.div_add_mod n d
  have hr := Nat.mod_lt n hd
  generalize n / d = q at hdm ⊢
  generalize n % d = r at hdm hr ⊢
  subst hdm
  -- the quotient is `M` or one less
  have hq : q ≤ M := by
    by_contra hc
    have : d * (M + 1) ≤ d * q := Nat.mul_le_mul_left d (by omega)
    ring_nf at hhi this
    omega
  have hq' : M ≤ q + 1 := by
    by_contra hc
    have : d * (q + 2) ≤ d * M := Nat.mul_le_mul_left d (by omega)
    ring_nf at hlo this
    omega
  unfold roundHalfEven
  rcases (show M = q ∨ M = q + 1 by omega) with rfl | rfl
  · ring_nf at hhi
    rw [if_neg (by omega), if_neg (by simp only [beq_iff_eq]; omega)]
  · ring_nf at hlo
    rw [if_pos (by omega)]

/-- Aligned at `e`, a fraction within a half of a natural number `M` there rounds to `M`: the
  nearest bits are those of `M · 2 ^ e`, or of the bottom of the binade above when `M` overflows
  the significand. -/
theorem nearestBits_of_aligned {num den M : Nat} {e : Int} (hn : 0 < num) (hd : 0 < den)
    (halign : alignExponent num den = e) (hnear : |(num : ℚ) / den / 2 ^ e - M| < 1 / 2) :
    nearestBits num den = if M = 2 ^ 53 then encodeBits (2 ^ 52) (e + 1) else encodeBits M e := by
  obtain ⟨n, d, hd', hnd, hq⟩ := quotientAt_eq num den e hd
  unfold nearestBits
  rw [if_neg (by simp only [Bool.or_eq_true, beq_iff_eq]; omega)]
  dsimp only
  rw [halign, hq]
  dsimp only
  rw [roundHalfEven_of_near hd' (hnd ▸ hnear)]
  simp only [beq_iff_eq, Nat.pow_eq]

/-- Aligned at `e`, a fraction within a half of a significand `m` below `2 ^ 53` there has the
  bits of `m · 2 ^ e`. -/
theorem nearestBits_at {num den m : Nat} {e : Int} (hn : 0 < num) (hd : 0 < den)
    (hm : m < 2 ^ 53) (halign : alignExponent num den = e)
    (hnear : |(num : ℚ) / den / 2 ^ e - m| < 1 / 2) : nearestBits num den = encodeBits m e := by
  rw [nearestBits_of_aligned hn hd halign hnear, if_neg (by omega)]

/-- Aligned one place below `e`, a fraction within a half of `2 ^ 53` rounds up to the bottom of
  the binade above: the bits of `2 ^ 52 · 2 ^ e`. -/
theorem nearestBits_below {num den : Nat} {e : Int} (hn : 0 < num) (hd : 0 < den)
    (halign : alignExponent num den = e - 1)
    (hnear : |(num : ℚ) / den / 2 ^ (e - 1) - 2 ^ 53| < 1 / 2) :
    nearestBits num den = encodeBits (2 ^ 52) e := by
  rw [nearestBits_of_aligned (M := 2 ^ 53) hn hd halign (by push_cast; exact hnear), if_pos rfl,
    sub_add_cancel]

/-- An exponent at which a value's quotient lies in `[2 ^ 52, 2 ^ 53)` aligns it. -/
theorem aligned_of_bounds {y : ℚ} {e : Int} (hlo : (2 : ℚ) ^ 52 ≤ y / 2 ^ e)
    (hhi : y / 2 ^ e < 2 ^ 53) : Aligned y e :=
  ⟨Nat.le_floor (by exact_mod_cast hlo),
    (Nat.floor_lt (le_trans (by positivity) hlo)).2 (by exact_mod_cast hhi)⟩

/-- The significand and exponent of a finite float: normal, with a 53-bit significand, or
  subnormal, at the least exponent. -/
def FiniteShape (m : Nat) (e : Int) : Prop :=
  (2 ^ 52 ≤ m ∧ m < 2 ^ 53 ∧ minExponent ≤ e ∧ e ≤ maxExponent) ∨ (m < 2 ^ 52 ∧ e = minExponent)

theorem FiniteShape.lt {m : Nat} {e : Int} (h : FiniteShape m e) : m < 2 ^ 53 := by
  rcases h with ⟨-, h, -⟩ | ⟨h, -⟩ <;> omega

/-- The nearest bits of any fraction within `v / 2 ^ 54` of the value `v = m · 2 ^ e` of a positive
  finite float are that float's bits. -/
theorem nearestBits_of_near {m : Nat} {e : Int} (hshape : FiniteShape m e) (hm : 0 < m)
    {num den : Nat} (hd : 0 < den)
    (hnear : |(num : ℚ) / den - m * 2 ^ e| < m * 2 ^ e / 2 ^ 54) :
    nearestBits num den = encodeBits m e := by
  have h2e : (0 : ℚ) < 2 ^ e := by positivity
  have hm' : (0 : ℚ) < m := by exact_mod_cast hm
  have hm53 : (m : ℚ) < 2 ^ 53 := by exact_mod_cast hshape.lt
  -- at the float's own exponent, the fraction is within `m / 2 ^ 54` of the significand
  have hscaled : |(num : ℚ) / den / 2 ^ e - m| < m / 2 ^ 54 := by
    have heq : (num : ℚ) / den / 2 ^ e - m = ((num : ℚ) / den - m * 2 ^ e) / 2 ^ e := by
      field_simp
    rw [heq, abs_div, abs_of_pos h2e, div_lt_iff₀ h2e]
    calc _ < (m : ℚ) * 2 ^ e / 2 ^ 54 := hnear
      _ = m / 2 ^ 54 * 2 ^ e := by ring
  have hhalf : (m : ℚ) / 2 ^ 54 < 1 / 2 := by
    rw [div_lt_iff₀ (by positivity)]
    linarith
  have hnear' := lt_trans hscaled hhalf
  obtain ⟨h₁, h₂⟩ := abs_lt.1 hscaled
  have hy : (0 : ℚ) < num / den / 2 ^ e := by
    have : (m : ℚ) / 2 ^ 54 ≤ m := div_le_self hm'.le (by norm_num)
    linarith
  have hy' : (0 : ℚ) < num / den := by
    have := mul_pos hy h2e
    rwa [div_mul_cancel₀ _ h2e.ne'] at this
  have hn : 0 < num := by
    rcases Nat.eq_zero_or_pos num with h0 | h0
    · simp [h0] at hy'
    · exact h0
  obtain ⟨e', hal, hae⟩ := alignExponent_aligned num den hn hd
  rcases hshape with ⟨hlo, hhi, hemin, hemax⟩ | ⟨hsub, rfl⟩
  · by_cases hbelow : m = 2 ^ 52 ∧ (num : ℚ) / den / 2 ^ e < m
    · -- the bottom of a binade, approached from below: aligned one place lower
      obtain ⟨rfl, hlt⟩ := hbelow
      have htwice : (num : ℚ) / den / 2 ^ (e - 1) = 2 * ((num : ℚ) / den / 2 ^ e) := by
        rw [zpow_sub_one₀ (by norm_num)]
        field_simp
      have hnear53 : |(num : ℚ) / den / 2 ^ (e - 1) - 2 ^ 53| < 1 / 2 := by
        rw [htwice, show (2 : ℚ) ^ 53 = 2 * ((2 ^ 52 : Nat) : ℚ) by norm_num, ← mul_sub,
          abs_mul, abs_two]
        push_cast at hscaled ⊢
        linarith
      have hal' : Aligned ((num : ℚ) / den) (e - 1) := by
        push_cast at hlt h₁
        refine aligned_of_bounds ?_ ?_ <;> rw [htwice] <;> linarith
      rw [Aligned.unique hy'.le hal hal'] at hae
      by_cases hmin : e - 1 < minExponent
      · -- at the least normal exponent the alignment stays put
        have he : minExponent = e := by
          unfold minExponent at hmin hemin ⊢
          omega
        rw [if_pos hmin, he] at hae
        exact nearestBits_at hn hd hhi hae hnear'
      · rw [if_neg hmin] at hae
        exact nearestBits_below hn hd hae hnear53
    · -- otherwise the fraction is aligned where the float is
      have hal' : Aligned ((num : ℚ) / den) e := by
        have hlo' : (2 : ℚ) ^ 52 ≤ m := by exact_mod_cast hlo
        have hm1 : (m : ℚ) + 1 ≤ 2 ^ 53 := by exact_mod_cast (show m + 1 ≤ 2 ^ 53 by omega)
        refine aligned_of_bounds ?_ (by linarith)
        by_cases heq : m = 2 ^ 52
        · have hge : (m : ℚ) ≤ num / den / 2 ^ e := not_lt.1 fun h => hbelow ⟨heq, h⟩
          linarith
        · have : (2 : ℚ) ^ 52 + 1 ≤ m := by exact_mod_cast (show 2 ^ 52 + 1 ≤ m by omega)
          linarith
      rw [Aligned.unique hy'.le hal hal', if_neg (not_lt.2 hemin)] at hae
      exact nearestBits_at hn hd hhi hae hnear'
  · -- a subnormal value: aligned below the least exponent, the alignment stays at it
    have he' : e' < minExponent := by
      by_contra hge
      have hmono := floor_div_zpow_anti _ hy'.le (not_lt.1 hge)
      have hfl : ⌊(num : ℚ) / den / 2 ^ minExponent⌋₊ < 2 ^ 52 := by
        have : (m : ℚ) + 1 ≤ 2 ^ 52 := by exact_mod_cast (show m + 1 ≤ 2 ^ 52 by omega)
        exact (Nat.floor_lt (by positivity)).2 (by push_cast; linarith)
      exact absurd hal.1 (by omega)
    rw [if_pos he'] at hae
    exact nearestBits_at hn hd (by omega) hae hnear'

/-! ## The bits of a float -/

/-- A float that reads as a nonnegative finite value has a finite shape, and its bits encode its
  significand and exponent. -/
theorem ofFloat_finite {x : Float} {m : Nat} {e : Int}
    (h : Binary64.ofFloat x = .finite false m e) :
    FiniteShape m e ∧ encodeBits m e = x.toBits.toNat := by
  have hb : x.toBits.toNat < 2 ^ 64 := x.toBits.toNat_lt
  unfold Binary64.ofFloat at h
  generalize x.toBits.toNat = b at h hb ⊢
  simp only [Nat.pow_eq] at h
  -- the infinities and NaN are no finite value
  split_ifs at h with h1 h2 h3
  · -- a subnormal value: the fraction field alone
    simp only [Binary64.finite.injEq] at h
    obtain ⟨hneg, rfl, rfl⟩ := h
    simp only [beq_iff_eq, Bool.eq_false_iff, ne_eq] at hneg h3
    refine ⟨.inr ⟨by omega, rfl⟩, ?_⟩
    unfold encodeBits
    simp only [beq_iff_eq, Nat.pow_eq]
    by_cases hq0 : b % 2 ^ 52 = 0
    · rw [if_pos hq0]
      omega
    · rw [if_neg hq0, if_neg (by unfold minExponent maxExponent; omega),
        if_pos (Nat.mod_lt _ (by positivity))]
      omega
  · -- a normal value: the exponent field over the hidden bit
    simp only [Binary64.finite.injEq] at h
    obtain ⟨hneg, rfl, rfl⟩ := h
    simp only [beq_iff_eq, Bool.eq_false_iff, ne_eq, Int.ofNat_eq_natCast] at hneg h1 h3 ⊢
    refine ⟨.inl ⟨by omega, by omega, by unfold minExponent; omega,
      by unfold maxExponent; omega⟩, ?_⟩
    unfold encodeBits maxExponent
    simp only [beq_iff_eq, Nat.pow_eq]
    rw [if_neg (by omega), if_neg (by omega), if_neg (by omega),
      show ((b / 2 ^ 52 % 2 ^ 11 : Nat) - 1075 + 1075 : Int).toNat = b / 2 ^ 52 % 2 ^ 11 by omega]
    omega

/-- Floats with the same bits are the same float. -/
theorem float_eq_of_toBits {x y : Float} (h : x.toBits.toNat = y.toBits.toNat) : x = y := by
  obtain ⟨⟨bx, hx⟩⟩ := x
  obtain ⟨⟨bY, hy⟩⟩ := y
  obtain rfl : bx = bY := UInt64.toNat_inj.1 h
  rfl

/-! ## Decimal digits -/

open Lang in
/-- Reading digits after others scales the others by ten per digit. -/
theorem digitsToNat_append (a b : List Nat) :
    digitsToNat (a ++ b) = digitsToNat a * 10 ^ b.length + digitsToNat b := by
  -- the fold runs on from what the first digits gave
  have hfold : ∀ acc, b.foldl (fun acc d => acc * 10 + d) acc =
      acc * 10 ^ b.length + b.foldl (fun acc d => acc * 10 + d) 0 := by
    induction b with
    | nil => simp
    | cons d b ih =>
      intro acc
      simp only [List.foldl_cons, List.length_cons, zero_mul, zero_add]
      rw [ih, ih d]
      ring
  unfold digitsToNat
  rw [List.foldl_append, hfold]

open Lang in
/-- Zeros denote zero. -/
theorem digitsToNat_replicate (t : Nat) : digitsToNat (List.replicate t 0) = 0 := by
  induction t with
  | zero => rfl
  | succ t ih =>
    rw [List.replicate_succ', digitsToNat_append, ih]
    rfl

open Lang in
/-- Zeros in front of digits do not change what they denote. -/
theorem digitsToNat_replicate_append (t : Nat) (b : List Nat) :
    digitsToNat (List.replicate t 0 ++ b) = digitsToNat b := by
  rw [digitsToNat_append, digitsToNat_replicate, zero_mul, zero_add]

open Lang in
/-- Decimal digits denote less than ten to their number. -/
theorem digitsToNat_lt : ∀ (ds : List Nat), (∀ d ∈ ds, d < 10) → digitsToNat ds < 10 ^ ds.length
  | [], _ => by decide
  | d :: ds, h => by
    have hd := h d List.mem_cons_self
    have ih := digitsToNat_lt ds fun x hx => h x (List.mem_cons_of_mem d hx)
    rw [← List.singleton_append, digitsToNat_append, List.length_append, pow_add]
    have hone : digitsToNat [d] = d := by simp [digitsToNat]
    rw [hone, List.length_singleton, pow_one]
    nlinarith

open Lang in
/-- The digits of a number: decimal digits, at least one, that denote it, and as many as its
  decimal length, `10 ^ (length - 1) ≤ n < 10 ^ length` (the lower bound for a positive `n`). -/
theorem natDigits_spec (n : Nat) :
    (∀ d ∈ natDigits n, d < 10) ∧ digitsToNat (natDigits n) = n ∧ natDigits n ≠ [] ∧
      n < 10 ^ (natDigits n).length ∧ (0 < n → 10 ^ ((natDigits n).length - 1) ≤ n) := by
  induction n using Nat.strong_induction_on with
  | _ n ih =>
  rw [natDigits]
  split
  · rename_i hn
    refine ⟨by simpa using hn, by simp [digitsToNat], by simp, by simpa using hn, ?_⟩
    intro hpos
    simp only [List.length_singleton, Nat.sub_self, pow_zero]
    omega
  · rename_i hn
    obtain ⟨hd, hv, hne, hlt, hge⟩ := ih (n / 10) (by omega)
    have hlen : 1 ≤ (natDigits (n / 10)).length := List.length_pos_iff.2 hne
    refine ⟨fun d hdm => ?_, ?_, by simp, ?_, fun _ => ?_⟩
    · rcases List.mem_append.1 hdm with h | h
      · exact hd d h
      · rw [List.mem_singleton.1 h]
        exact Nat.mod_lt _ (by decide)
    · rw [digitsToNat_append, hv]
      simp [digitsToNat]
      omega
    · rw [List.length_append, List.length_singleton, pow_succ]
      omega
    · have h10 := hge (by omega)
      rw [List.length_append, List.length_singleton, Nat.add_sub_cancel,
        ← Nat.sub_add_cancel hlen, pow_succ]
      omega

/-- Dropping the trailing zeros of digits leaves digits that the zeros follow. -/
theorem dropTrailingZeros_spec (ds : List Nat) :
    ∃ z, ds = dropTrailingZeros ds ++ List.replicate z 0 := by
  have hsplit := List.takeWhile_append_dropWhile (p := (· == 0)) (l := ds.reverse)
  have hzeros : ∀ b ∈ ds.reverse.takeWhile (· == 0), b = 0 := fun b hb => by
    simpa using List.mem_takeWhile_imp hb
  refine ⟨(ds.reverse.takeWhile (· == 0)).length, ?_⟩
  unfold dropTrailingZeros
  rw [← List.eq_replicate_iff.2 ⟨rfl, hzeros⟩]
  -- the zeros are a run, so they read the same backwards
  have hrev : (ds.reverse.takeWhile (· == 0)).reverse = ds.reverse.takeWhile (· == 0) := by
    rw [List.eq_replicate_iff.2 ⟨rfl, hzeros⟩, List.reverse_replicate]
  conv_lhs => rw [← List.reverse_reverse ds, ← hsplit, List.reverse_append, hrev]

theorem dropTrailingZeros_lt {ds : List Nat} (h : ∀ d ∈ ds, d < 10) :
    ∀ d ∈ dropTrailingZeros ds, d < 10 := by
  obtain ⟨z, hz⟩ := dropTrailingZeros_spec ds
  intro d hd
  exact h d (hz ▸ List.mem_append_left _ hd)

/-! ## The decimal exponent -/

theorem powTenLe_iff {p : Int} {num den : Nat} (hd : 0 < den) :
    powTenLe p num den = true ↔ (10 : ℚ) ^ p ≤ num / den := by
  have hd' : (0 : ℚ) < den := by exact_mod_cast hd
  unfold powTenLe
  split_ifs with hp
  · obtain ⟨t, rfl⟩ := Int.eq_ofNat_of_zero_le hp
    rw [decide_eq_true_iff, le_div_iff₀ hd', zpow_natCast, Int.toNat_natCast, Nat.pow_eq,
      mul_comm]
    constructor <;> intro h <;> exact_mod_cast h
  · obtain ⟨t, rfl⟩ := Int.exists_eq_neg_ofNat (show p ≤ 0 by omega)
    have h10 : (0 : ℚ) < 10 ^ t := by positivity
    rw [decide_eq_true_iff, zpow_neg, zpow_natCast, neg_neg, Int.toNat_natCast, Nat.pow_eq,
      le_div_iff₀ hd', inv_mul_le_iff₀ h10, mul_comm ((10 : ℚ) ^ t)]
    constructor <;> intro h <;> exact_mod_cast h

/-- From an estimate one above or one below the decimal exponent, two steps settle on it. -/
theorem adjustDecimalExponent_settles {num den fuel : Nat} {p : Int}
    (hlo : powTenLe (p - 1) num den = true) (hhi : powTenLe (p + 1) num den = false) :
    powTenLe (adjustDecimalExponent num den (fuel + 2) p) num den = true ∧
      powTenLe (adjustDecimalExponent num den (fuel + 2) p + 1) num den = false := by
  cases hp : powTenLe p num den
  · -- too high: one step down settles
    have hstep : adjustDecimalExponent num den (fuel + 2) p = p - 1 := by
      rw [adjustDecimalExponent, hp, Bool.not_false, if_pos rfl, adjustDecimalExponent, hlo,
        Bool.not_true, sub_add_cancel, hp]
      rfl
    rw [hstep, sub_add_cancel]
    exact ⟨hlo, hp⟩
  · have hstep : adjustDecimalExponent num den (fuel + 2) p = p := by
      rw [adjustDecimalExponent, hp, hhi]
      rfl
    rw [hstep]
    exact ⟨hp, hhi⟩

/-- The decimal exponent of a positive fraction: `10 ^ p ≤ num / den < 10 ^ (p + 1)`. -/
theorem decimalExponent_bounds {num den : Nat} (hn : 0 < num) (hd : 0 < den) :
    (10 : ℚ) ^ decimalExponent num den ≤ num / den ∧
      (num : ℚ) / den < 10 ^ (decimalExponent num den + 1) := by
  obtain ⟨-, -, hna, hnlt, hnge⟩ := natDigits_spec num
  obtain ⟨-, -, hda, hdlt, hdge⟩ := natDigits_spec den
  have ha := List.length_pos_iff.2 hna
  have hb := List.length_pos_iff.2 hda
  have hest : decimalExponent num den = adjustDecimalExponent num den (2 + 2)
      (((natDigits num).length : Int) - (natDigits den).length) := rfl
  generalize (natDigits num).length = a at ha hnlt hnge hest
  generalize (natDigits den).length = b at hb hdlt hdge hest
  have hd' : (0 : ℚ) < den := by exact_mod_cast hd
  -- the estimate `a - b` is the exponent or one above it
  have hlo : powTenLe ((a : Int) - b - 1) num den = true := by
    rw [powTenLe_iff hd, le_div_iff₀ hd']
    have hnum : ((10 ^ (a - 1) : Nat) : ℚ) ≤ num := by exact_mod_cast hnge hn
    have hden : (den : ℚ) < ((10 ^ b : Nat) : ℚ) := by exact_mod_cast hdlt
    have hsplit : (10 : ℚ) ^ ((a : Int) - b - 1) * 10 ^ b = 10 ^ (a - 1) := by
      rw [← zpow_natCast, ← zpow_natCast, ← zpow_add₀ (by norm_num)]
      congr 1
      omega
    push_cast at hnum hden
    calc (10 : ℚ) ^ ((a : Int) - b - 1) * den ≤ 10 ^ ((a : Int) - b - 1) * 10 ^ b := by gcongr
      _ = 10 ^ (a - 1) := hsplit
      _ ≤ num := hnum
  have hhi : powTenLe ((a : Int) - b + 1) num den = false := by
    rw [← Bool.not_eq_true, powTenLe_iff hd, not_le, div_lt_iff₀ hd']
    have hnum : (num : ℚ) < ((10 ^ a : Nat) : ℚ) := by exact_mod_cast hnlt
    have hden : ((10 ^ (b - 1) : Nat) : ℚ) ≤ den := by exact_mod_cast hdge hd
    have hsplit : (10 : ℚ) ^ ((a : Int) - b + 1) * 10 ^ (b - 1) = 10 ^ a := by
      rw [← zpow_natCast, ← zpow_natCast, ← zpow_add₀ (by norm_num)]
      congr 1
      omega
    push_cast at hnum hden
    calc (num : ℚ) < 10 ^ a := hnum
      _ = 10 ^ ((a : Int) - b + 1) * 10 ^ (b - 1) := hsplit.symm
      _ ≤ 10 ^ ((a : Int) - b + 1) * den := by gcongr
  obtain ⟨hle, hgt⟩ := adjustDecimalExponent_settles hlo hhi
  rw [← hest, powTenLe_iff hd] at hle
  rw [← hest, ← Bool.not_eq_true, powTenLe_iff hd, not_le] at hgt
  exact ⟨hle, hgt⟩

/-! ## The grids of decimals -/

/-- A float's significand scaled by a power of two, as a fraction. -/
theorem scaleByTwo_value (m : Nat) (e : Int) :
    0 < (scaleByTwo m 1 e).2 ∧ ((scaleByTwo m 1 e).1 : ℚ) / (scaleByTwo m 1 e).2 = m * 2 ^ e := by
  unfold scaleByTwo
  split_ifs with he
  · obtain ⟨t, rfl⟩ := Int.eq_ofNat_of_zero_le he
    simp [Nat.pow_eq, zpow_natCast]
  · obtain ⟨t, rfl⟩ := Int.exists_eq_neg_ofNat (show e ≤ 0 by omega)
    refine ⟨by simp [Nat.pow_eq], ?_⟩
    simp only [Nat.pow_eq, neg_neg, Int.toNat_natCast, zpow_neg, zpow_natCast]
    push_cast
    field_simp

/-- The quotient, remainder and divisor at a power of ten are those of one fraction `n / d` of the
  value scaled by that power. -/
theorem quotientAtTen_eq (num den : Nat) (k : Int) (hd : 0 < den) :
    ∃ n d : Nat, 0 < d ∧ (n : ℚ) / d = num / den / 10 ^ k ∧
      quotientAtTen num den k = (n / d, n % d, d) := by
  by_cases hk : 0 ≤ k
  · obtain ⟨t, rfl⟩ := Int.eq_ofNat_of_zero_le hk
    refine ⟨num, den * 10 ^ t, by positivity, ?_, ?_⟩
    · rw [zpow_natCast]
      push_cast
      field_simp
    · simp only [quotientAtTen, if_pos hk, Int.toNat_natCast, Nat.pow_eq]
  · obtain ⟨t, rfl⟩ := Int.exists_eq_neg_ofNat (show k ≤ 0 by omega)
    refine ⟨num * 10 ^ t, den, hd, ?_, ?_⟩
    · rw [zpow_neg, zpow_natCast]
      push_cast
      field_simp
    · simp only [quotientAtTen, if_neg hk, neg_neg, Int.toNat_natCast, Nat.pow_eq]

/-- A decimal within `v / 2 ^ 54` of the value `v` of a positive finite float reads back as it. -/
theorem readsBack_of_near {m : Nat} {e : Int} (hshape : FiniteShape m e) (hm : 0 < m) {c : Nat}
    {k : Int} (h : |(c : ℚ) * 10 ^ k - m * 2 ^ e| < m * 2 ^ e / 2 ^ 54) :
    readsBack (encodeBits m e) c k = true := by
  unfold readsBack
  split_ifs with hk
  · obtain ⟨t, rfl⟩ := Int.eq_ofNat_of_zero_le hk
    rw [beq_iff_eq]
    refine nearestBits_of_near hshape hm one_pos ?_
    simpa [Nat.pow_eq, zpow_natCast] using h
  · obtain ⟨t, rfl⟩ := Int.exists_eq_neg_ofNat (show k ≤ 0 by omega)
    rw [beq_iff_eq]
    refine nearestBits_of_near hshape hm (by simp [Nat.pow_eq]) ?_
    simpa [Nat.pow_eq, zpow_neg, zpow_natCast, div_eq_mul_inv] using h

/-- What the grid of `n` digits chooses reads back, lies at the grid's exponent, and is at most
  one past the value's quotient there. -/
theorem gridChoice_some {num den bits : Nat} {p : Int} {n c : Nat} {k : Int} (hd : 0 < den)
    (h : gridChoice num den bits p n = some (c, k)) :
    readsBack bits c k = true ∧ k = p - n + 1 ∧ (c : ℚ) ≤ num / den / 10 ^ k + 1 := by
  obtain ⟨N, D, hD, hND, hq⟩ := quotientAtTen_eq num den (p - n + 1) hd
  have hfl : ((N / D : Nat) : ℚ) ≤ N / D := Nat.cast_div_le
  unfold gridChoice at h
  simp only [Int.ofNat_eq_natCast] at h
  rw [hq] at h
  dsimp only at h
  generalize N / D = q at h hfl
  generalize N % D = r at h
  -- every choice is the quotient or the one after it, and reads back
  have hchoice : (c = q ∨ c = q + 1) ∧ readsBack bits c (p - n + 1) = true ∧ k = p - n + 1 := by
    split_ifs at h <;> simp only [Option.some.injEq, Prod.mk.injEq] at h <;>
      obtain ⟨rfl, rfl⟩ := h <;> simp_all
  obtain ⟨hc, hread, rfl⟩ := hchoice
  refine ⟨hread, rfl, ?_⟩
  rw [← hND]
  rcases hc with rfl | rfl
  · linarith
  · push_cast
    linarith

/-- On the grid of seventeen digits under the decimal exponent of a value, a neighbour of the
  value lies within `v / 2 ^ 54` of it: if every decimal that near reads back, the grid has a
  choice. -/
theorem gridChoice_seventeen {num den bits : Nat} {p : Int} (hd : 0 < den) (hn : 0 < num)
    (hp : (10 : ℚ) ^ p ≤ num / den)
    (hreads : ∀ (c : Nat) (k : Int), |(c : ℚ) * 10 ^ k - num / den| < num / den / 2 ^ 54 →
      readsBack bits c k = true) :
    gridChoice num den bits p 17 ≠ none := by
  have hv : (0 : ℚ) < num / den := by positivity
  obtain ⟨N, D, hD, hND, hq⟩ := quotientAtTen_eq num den (p - 17 + 1) hd
  have h10 : (0 : ℚ) < 10 ^ (p - 17 + 1) := by positivity
  -- the grid's step is at most `v / 10 ^ 16`, and half of it is less than `v / 2 ^ 54`
  have hstep : (10 : ℚ) ^ (p - 17 + 1) / 2 < num / den / 2 ^ 54 := by
    have hsplit : (10 : ℚ) ^ (p - 17 + 1) * 10 ^ 16 = 10 ^ p := by
      rw [← zpow_natCast, ← zpow_add₀ (by norm_num)]
      congr 1
      ring
    have : (10 : ℚ) ^ (p - 17 + 1) * 10 ^ 16 ≤ num / den := hsplit ▸ hp
    rw [div_lt_div_iff₀ (by norm_num) (by norm_num)]
    nlinarith
  have hclose : ∀ c : Nat, |(c : ℚ) - N / D| ≤ 1 / 2 →
      readsBack bits c (p - 17 + 1) = true := by
    intro c hc
    apply hreads
    have hval : (num : ℚ) / den = N / D * 10 ^ (p - 17 + 1) := by
      rw [hND, div_mul_cancel₀ _ h10.ne']
    calc |(c : ℚ) * 10 ^ (p - 17 + 1) - num / den|
        = |(c : ℚ) - N / D| * 10 ^ (p - 17 + 1) := by
          rw [hval, ← sub_mul, abs_mul, abs_of_pos h10]
      _ ≤ 1 / 2 * 10 ^ (p - 17 + 1) := by gcongr
      _ < num / den / 2 ^ 54 := by linarith
  -- the value lies between the quotient and the one after it, so one of them is that close
  have hfl : ((N / D : Nat) : ℚ) ≤ N / D := Nat.cast_div_le
  have hlt : (N : ℚ) / D < (N / D : Nat) + 1 := by
    rw [← Nat.floor_div_eq_div (K := ℚ)]
    exact Nat.lt_floor_add_one _
  have hnear : readsBack bits (N / D) (p - 17 + 1) = true ∨
      readsBack bits (N / D + 1) (p - 17 + 1) = true := by
    by_cases hhalf : (N : ℚ) / D - (N / D : Nat) ≤ 1 / 2
    · exact .inl (hclose _ (abs_le.2 ⟨by linarith, by linarith⟩))
    · exact .inr (hclose _ (abs_le.2 ⟨by push_cast; linarith, by push_cast; linarith⟩))
  have hexact : N % D = 0 → readsBack bits (N / D) (p - 17 + 1) = true := by
    intro hr
    apply hclose
    rw [Nat.cast_div (Nat.dvd_of_mod_eq_zero hr) (by exact_mod_cast hD.ne'), sub_self, abs_zero]
    norm_num
  unfold gridChoice
  simp only [Int.ofNat_eq_natCast, Nat.cast_ofNat]
  rw [hq]
  dsimp only
  by_cases hr : N % D = 0
  · simp [hr, hexact hr]
  · have hr' : (N % D == 0) = false := by simpa using hr
    rcases hnear with h | h <;> simp only [hr', h, Bool.false_eq_true, if_false] <;> split_ifs <;>
      simp

/-- What the search over the grids finds comes from one of the grids it tries. -/
theorem firstGrid_some {num den bits : Nat} {p : Int} :
    ∀ {fuel n c : Nat} {k : Int}, firstGrid num den bits p fuel n = some (c, k) →
      ∃ j, n ≤ j ∧ j < n + fuel ∧ gridChoice num den bits p j = some (c, k)
  | 0, _, _, _, h => by cases h
  | fuel + 1, n, c, k, h => by
    rw [firstGrid] at h
    cases hg : gridChoice num den bits p n with
    | some r =>
      rw [hg] at h
      exact ⟨n, le_refl n, by omega, hg.trans h⟩
    | none =>
      rw [hg] at h
      obtain ⟨j, hj, hj', hgj⟩ := firstGrid_some h
      exact ⟨j, by omega, by omega, hgj⟩

/-- The search over the grids finds something when one of the grids it tries has a choice. -/
theorem firstGrid_ne_none {num den bits : Nat} {p : Int} :
    ∀ {fuel n j : Nat}, n ≤ j → j < n + fuel → gridChoice num den bits p j ≠ none →
      firstGrid num den bits p fuel n ≠ none
  | 0, _, _, _, hj', _ => by omega
  | fuel + 1, n, j, hj, hj', hg => by
    rw [firstGrid]
    cases hgn : gridChoice num den bits p n with
    | some r => simp
    | none =>
      refine firstGrid_ne_none (j := j) ?_ (by omega) hg
      rcases Nat.eq_or_lt_of_le hj with rfl | hlt
      · exact absurd hgn hg
      · omega

/-- The shortest digits of the value of a positive finite float are those of a grid point that
  reads back as the float and has at most seventeen digits, with its trailing zeros dropped and
  the point moved past them. -/
theorem shortestDigits_reads {m : Nat} {e : Int} (hshape : FiniteShape m e) (hm : 0 < m) :
    ∃ c k, readsBack (encodeBits m e) c k = true ∧ c ≤ 10 ^ 17 ∧
      shortestDigits m e = ⟨dropTrailingZeros (natDigits c), k + (natDigits c).length⟩ := by
  obtain ⟨hden, hval⟩ := scaleByTwo_value m e
  unfold shortestDigits
  generalize scaleByTwo m 1 e = q at hden hval
  obtain ⟨num, den⟩ := q
  dsimp only at hden hval ⊢
  have hv : (0 : ℚ) < num / den := by rw [hval]; positivity
  have hn : 0 < num := by
    rcases Nat.eq_zero_or_pos num with h0 | h0
    · simp [h0] at hv
    · exact h0
  -- the float's own value reads back as its bits
  have hbits : nearestBits num den = encodeBits m e :=
    nearestBits_of_near hshape hm hden (by rw [hval, sub_self, abs_zero]; positivity)
  rw [hbits]
  obtain ⟨hlo, hhi⟩ := decimalExponent_bounds hn hden
  have hreads : ∀ (c : Nat) (k : Int), |(c : ℚ) * 10 ^ k - num / den| < num / den / 2 ^ 54 →
      readsBack (encodeBits m e) c k = true := fun c k h =>
    readsBack_of_near hshape hm (by rwa [hval] at h)
  have hfound := @firstGrid_ne_none _ _ _ _ 17 1 17 (by omega) (by omega)
    (gridChoice_seventeen hden hn hlo hreads)
  obtain ⟨⟨c, k⟩, hck⟩ := Option.ne_none_iff_exists'.1 hfound
  obtain ⟨j, hj, hj', hgj⟩ := firstGrid_some hck
  obtain ⟨hread, rfl, hcle⟩ := gridChoice_some hden hgj
  refine ⟨c, _, hread, ?_, by rw [hck]; rfl⟩
  -- the value is below `10 ^ (p + 1)`, so on a grid of `j ≤ 17` digits the choice is at most `10 ^ j`
  have hquot : (num : ℚ) / den / 10 ^ (decimalExponent num den - j + 1) < 10 ^ j := by
    rw [div_lt_iff₀ (by positivity), ← zpow_natCast, ← zpow_add₀ (by norm_num)]
    calc (num : ℚ) / den < 10 ^ (decimalExponent num den + 1) := hhi
      _ = 10 ^ ((j : Int) + (decimalExponent num den - j + 1)) := by congr 1; ring
  have hc : (c : ℚ) < 10 ^ j + 1 := by linarith
  have hc' : c ≤ 10 ^ j := by
    have : (c : ℚ) < ((10 ^ j + 1 : Nat) : ℚ) := by push_cast; exact hc
    have := Nat.cast_lt.1 this
    omega
  exact hc'.trans (Nat.pow_le_pow_right (by norm_num) (by omega))

/-! ## Plain decimal text -/

section Plain

open Lang Text

/-- The number of decimal digits the reader estimates for a number below `2 ^ 64` is between one
  and twenty. -/
theorem digitLength_bounds {x : Nat} (hx : x < 2 ^ 64) : 1 ≤ digitLength x ∧ digitLength x ≤ 20 := by
  have hlog : x.log2 < 64 := by
    rcases Nat.eq_zero_or_pos x with rfl | hpos
    · decide
    · exact (Nat.log2_lt hpos.ne').2 hx
  unfold digitLength
  simp only [Nat.pow_eq]
  split_ifs <;> omega

/-- Digits around a point with a nonzero value below `2 ^ 64` and at most twenty-one after the
  point read as the nearest float to their value. -/
theorem decimalToFloat_eq {whole frac : List Nat} (hpos : 0 < digitsToNat (whole ++ frac))
    (hsmall : digitsToNat (whole ++ frac) < 2 ^ 64) (hne : frac ≠ []) (hlen : frac.length ≤ 21) :
    decimalToFloat whole frac = nearestFloat false (digitsToNat (whole ++ frac)) (10 ^ frac.length) := by
  have hwidth := digitLength_bounds hsmall
  have hlen' := List.length_pos_iff.2 hne
  unfold decimalToFloat floatOfDecimal
  simp only [beq_iff_eq, Int.ofNat_eq_natCast]
  rw [if_neg (by omega), if_neg (by omega), if_neg (by omega), if_neg (by omega)]
  simp [Nat.pow_eq]

/-- The characters of decimal digits are decimal digits, with those values. -/
theorem digitValue?_ofNat : ∀ d < 10, digitValue? (Char.ofNat (48 + d)) = some d := by
  decide

theorem digitChars_spec {ds : List Nat} (h : ∀ d ∈ ds, d < 10) :
    (∀ ch ∈ ds.map (fun d => Char.ofNat (48 + d)), isDecimalDigit ch = true) ∧
      digitValues (ds.map fun d => Char.ofNat (48 + d)) = ds := by
  constructor
  · intro ch hch
    obtain ⟨d, hd, rfl⟩ := List.mem_map.1 hch
    simp [isDecimalDigit, digitValue?_ofNat d (h d hd)]
  · unfold digitValues
    rw [List.map_map]
    conv_rhs => rw [← List.map_id ds]
    exact List.map_congr_left fun d hd => by simp [digitValue?_ofNat d (h d hd)]

/-- Zeros are the characters of zero digits. -/
theorem replicate_zero_chars (t : Nat) :
    List.replicate t '0' = (List.replicate t 0).map fun d => Char.ofNat (48 + d) := by
  rw [List.map_replicate]

theorem replicate_zero_lt (t : Nat) : ∀ d ∈ List.replicate t 0, d < 10 := fun d h => by
  rw [List.eq_of_mem_replicate h]
  norm_num

/-- Two splits of a text at a point after a run of digits are the same split. -/
theorem split_at_point {ds fs ds' fs' : List Char} (h : ds ++ '.' :: fs = ds' ++ '.' :: fs')
    (hds : ∀ d ∈ ds, isDecimalDigit d = true) (hds' : ∀ d ∈ ds', isDecimalDigit d = true) :
    ds = ds' ∧ fs = fs' := by
  have hp : isDecimalDigit '.' = false := by decide
  obtain ⟨h1, h2⟩ := takeWhile_dropWhile_of_stop (t := fs) hds hp
  obtain ⟨h1', h2'⟩ := takeWhile_dropWhile_of_stop (t := fs') hds' hp
  rw [h] at h1 h2
  exact ⟨h1.symm.trans h1', (List.cons.inj (h2.symm.trans h2')).2⟩

/-- Digits `D` shifted by `s` places and read with `b` after the point have the value of `D`
  followed by `z` zeros at exponent `k`, when the shifts agree. -/
theorem shifted_value (D z s b : Nat) (k : Int) (h : (s : Int) - b = k + z) :
    ((D * 10 ^ s : Nat) : ℚ) / ((10 ^ b : Nat) : ℚ) = ((D * 10 ^ z : Nat) : ℚ) * 10 ^ k := by
  push_cast
  rw [div_eq_iff (by positivity), ← zpow_natCast, ← zpow_natCast, ← zpow_natCast, mul_assoc,
    mul_assoc, ← zpow_add₀ (by norm_num), ← zpow_add₀ (by norm_num)]
  congr 2
  omega

/-- The positional layouts write the digits of `c` at exponent `k`, their point `P` between `-4`
  and `16`, as digits around a point, which the reader converts to the nearest float to
  `c · 10 ^ k`. -/
theorem positional_text {c : Nat} {k : Int} (hc : 0 < c) (hc' : c ≤ 10 ^ 17)
    (hP : -4 < k + (natDigits c).length) (hP' : k + (natDigits c).length ≤ 16) :
    ∃ A B, (FloatLayout.standard.digitsText
        ⟨dropTrailingZeros (natDigits c), k + (natDigits c).length⟩).toList = A ++ '.' :: B ∧
      (∀ ch ∈ A, isDecimalDigit ch = true) ∧ (∀ ch ∈ B, isDecimalDigit ch = true) ∧
      ∃ a b : Nat, 0 < b ∧ (a : ℚ) / b = c * 10 ^ k ∧
        decimalToFloat (digitValues A) (digitValues B) = nearestFloat false a b := by
  obtain ⟨hdig, hval, -, -, hge⟩ := natDigits_spec c
  obtain ⟨z, hz⟩ := dropTrailingZeros_spec (natDigits c)
  -- the digits written are those of `c` without its `z` trailing zeros: `D`, with `n` digits
  have hL : (natDigits c).length ≤ 18 := by
    by_contra hlong
    have h18 : 10 ^ 18 ≤ 10 ^ ((natDigits c).length - 1) :=
      Nat.pow_le_pow_right (by norm_num) (by omega)
    have := hge hc
    omega
  have hlen : (natDigits c).length = (dropTrailingZeros (natDigits c)).length + z := by
    conv_lhs => rw [hz]
    rw [List.length_append, List.length_replicate]
  generalize (natDigits c).length = L at hL hP hP' hz hge hlen ⊢
  generalize dropTrailingZeros (natDigits c) = ds at hz hlen ⊢
  have hdlt : ∀ d ∈ ds, d < 10 := fun d hd => hdig d (hz ▸ List.mem_append_left _ hd)
  have hcD : c = digitsToNat ds * 10 ^ z := by
    rw [← hval, hz, digitsToNat_append, List.length_replicate, digitsToNat_replicate, add_zero]
  have hn : 1 ≤ ds.length := by
    rcases ds with _ | ⟨d, ds⟩
    · simp [hcD, digitsToNat] at hc
    · simp
  have hDlt := digitsToNat_lt ds hdlt
  obtain ⟨hchars, hvalues⟩ := digitChars_spec hdlt
  have hD18 : 10 ^ ds.length ≤ 10 ^ 18 := Nat.pow_le_pow_right (by norm_num) (by omega)
  generalize hDdef : digitsToNat ds = D at hcD hDlt
  subst hcD
  have hD : 0 < D := Nat.pos_of_mul_pos_right hc
  have hsmall : D < 2 ^ 64 := by omega
  have hzero : "0.".toList = ['0', '.'] := by decide
  have hone : digitValues ['0'] = [0] := by decide
  unfold FloatLayout.digitsText
  simp only [FloatLayout.standard]
  rw [if_pos (by simp [hP, hP'])]
  split_ifs with h0 h1
  · -- `0.`, zeros, then the digits: `D / 10 ^ (t + n)`
    have hfrac := digitChars_spec (List.forall_mem_append.2 ⟨replicate_zero_lt (-(k + L)).toNat, hdlt⟩)
    rw [List.map_append, ← replicate_zero_chars] at hfrac
    have hlead : digitsToNat ([0] ++ (List.replicate (-(k + L)).toNat 0 ++ ds)) = D := by
      rw [← List.append_assoc, List.singleton_append, ← List.replicate_succ,
        digitsToNat_replicate_append, hDdef]
    refine ⟨['0'], List.replicate (-(k + L)).toNat '0' ++ ds.map (fun d => Char.ofNat (48 + d)),
      ?_, fun ch h => by rw [List.mem_singleton.1 h]; decide, hfrac.1, D,
      10 ^ ((-(k + L)).toNat + ds.length), by positivity, ?_, ?_⟩
    · simp [digitText, String.toList_append, String.toList_ofList, hzero]
    · simpa using shifted_value D z 0 ((-(k + L)).toNat + ds.length) k (by omega)
    · rw [hone, hfrac.2, decimalToFloat_eq (by rwa [hlead]) (by rwa [hlead])
        (fun h => List.ne_nil_of_length_pos hn (List.append_eq_nil_iff.1 h).2) (by simp; omega),
        hlead]
      simp
  · -- the digits, zeros, then `.0`: `D · 10 ^ (u + 1) / 10`
    have hu : (((k + L).toNat - ds.length : Nat) : Int) = k + z := by omega
    generalize (k + L).toNat - ds.length = u at hu
    have hwholeChars := digitChars_spec (List.forall_mem_append.2 ⟨hdlt, replicate_zero_lt u⟩)
    rw [List.map_append, ← replicate_zero_chars] at hwholeChars
    have hwhole : digitsToNat ((ds ++ List.replicate u 0) ++ [0]) = D * 10 ^ (u + 1) := by
      rw [digitsToNat_append, digitsToNat_append, digitsToNat_replicate, hDdef,
        List.length_replicate]
      simp only [digitsToNat, List.foldl_cons, List.foldl_nil, List.length_singleton]
      ring
    have hbig : D * 10 ^ (u + 1) < 10 ^ 17 := calc
      D * 10 ^ (u + 1) < 10 ^ ds.length * 10 ^ (u + 1) :=
        Nat.mul_lt_mul_of_pos_right hDlt (by positivity)
      _ = 10 ^ (ds.length + (u + 1)) := (pow_add _ _ _).symm
      _ ≤ 10 ^ 17 := Nat.pow_le_pow_right (by norm_num) (by omega)
    refine ⟨ds.map (fun d => Char.ofNat (48 + d)) ++ List.replicate u '0', ['0'], ?_,
      hwholeChars.1, fun ch h => by rw [List.mem_singleton.1 h]; decide, D * 10 ^ (u + 1), 10 ^ 1,
      by positivity, shifted_value D z (u + 1) 1 k (by omega), ?_⟩
    · have hpz : ".0".toList = ['.', '0'] := by decide
      simp [digitText, String.toList_append, String.toList_ofList, hpz]
    · rw [hone, hwholeChars.2, decimalToFloat_eq (by rw [hwhole]; positivity) (by omega) (by simp)
        (by simp), hwhole]
      rfl
  · -- digits, the point, then the rest of the digits: `D / 10 ^ (n - p)`
    have hp : (((k + L).toNat : Nat) : Int) = k + L := by omega
    generalize (k + L).toNat = q at hp h1
    have htake : ∀ d ∈ ds.take q, d < 10 := fun d hd => hdlt d (List.mem_of_mem_take hd)
    have hdrop : ∀ d ∈ ds.drop q, d < 10 := fun d hd => hdlt d (List.mem_of_mem_drop hd)
    refine ⟨(ds.take q).map (fun d => Char.ofNat (48 + d)),
      (ds.drop q).map (fun d => Char.ofNat (48 + d)), ?_, (digitChars_spec htake).1,
      (digitChars_spec hdrop).1, D, 10 ^ (ds.length - q), by positivity, ?_, ?_⟩
    · have hpt : ".".toList = ['.'] := by decide
      simp [digitText, String.toList_append, String.toList_ofList, hpt]
    · simpa using shifted_value D z 0 (ds.length - q) k (by omega)
    · have hsum : digitsToNat (ds.take q ++ ds.drop q) = D := by
        rw [List.take_append_drop, hDdef]
      rw [(digitChars_spec htake).2, (digitChars_spec hdrop).2, decimalToFloat_eq (by rw [hsum]; exact hD)
        (by rw [hsum]; exact hsmall) (by simp; omega) (by simp; omega), hsum, List.length_drop]

/-! ## Reading the text back -/

/-- A decimal that reads back gives its bits to every fraction of its value. -/
theorem nearestBits_of_readsBack {bits c : Nat} {k : Int} (h : readsBack bits c k = true)
    {a b : Nat} (hb : 0 < b) (hab : (a : ℚ) / b = c * 10 ^ k) : nearestBits a b = bits := by
  have hb' : (0 : ℚ) < b := by exact_mod_cast hb
  unfold readsBack at h
  split_ifs at h with hk
  · obtain ⟨t, rfl⟩ := Int.eq_ofNat_of_zero_le hk
    rw [beq_iff_eq, Int.toNat_natCast, Nat.pow_eq] at h
    rw [← h]
    refine nearestBits_eq_of_ratio hb one_pos ?_
    rw [div_eq_iff hb'.ne', zpow_natCast] at hab
    exact_mod_cast (show (a : ℚ) * 1 = c * 10 ^ t * b by rw [mul_one, hab])
  · obtain ⟨t, rfl⟩ := Int.exists_eq_neg_ofNat (show k ≤ 0 by omega)
    rw [beq_iff_eq, neg_neg, Int.toNat_natCast, Nat.pow_eq] at h
    rw [← h]
    refine nearestBits_eq_of_ratio hb (by positivity) ?_
    rw [div_eq_iff hb'.ne', zpow_neg, zpow_natCast] at hab
    have : (a : ℚ) * 10 ^ t = c * b := by
      rw [hab]
      field_simp
    exact_mod_cast this

/-- The bits of a positive finite value are not those of zero. -/
theorem encodeBits_pos {m : Nat} {e : Int} (hshape : FiniteShape m e) (hm : 0 < m) :
    0 < encodeBits m e := by
  unfold encodeBits
  simp only [beq_iff_eq, Nat.pow_eq]
  rw [if_neg (by omega)]
  by_cases hbig : e > maxExponent
  · rw [if_pos hbig]
    norm_num
  rw [if_neg hbig]
  by_cases hsmall : m < 2 ^ 52
  · rw [if_pos hsmall]
    exact hm
  rw [if_neg hsmall]
  rcases hshape with ⟨-, -, hemin, -⟩ | ⟨h, -⟩
  · unfold minExponent at hemin
    have : 1 ≤ (e + 1075).toNat := by omega
    have : 0 < (e + 1075).toNat * 2 ^ 52 := by positivity
    exact Nat.lt_of_lt_of_le this (Nat.le_add_right _ _)
  · omega

/-- Digits before a point never start with a minus sign. -/
theorem minus_not_digits {t : String} {ds fs : List Char}
    (hds : ∀ d ∈ ds, isDecimalDigit d = true) (h : ("-" ++ t).toList = ds ++ '.' :: fs) :
    False := by
  have hminus : "-".toList = ['-'] := by decide
  rw [String.toList_append, hminus, List.singleton_append] at h
  cases ds with
  | nil => exact absurd (List.cons.inj h).1 (by decide)
  | cons d ds =>
    rw [← (List.cons.inj h).1] at hds
    exact absurd (hds '-' List.mem_cons_self) (by decide)

/-- Outside the positional range the layout writes an exponent mark, which is no digit: the text
  is not digits around a point. -/
theorem exponentText_not_plain {d : DecimalDigits} (hpos : ¬(-4 < d.point ∧ d.point ≤ 16))
    {ds fs : List Char} (htext : (FloatLayout.standard.digitsText d).toList = ds ++ '.' :: fs)
    (hds : ∀ ch ∈ ds, isDecimalDigit ch = true) (hfs : ∀ ch ∈ fs, isDecimalDigit ch = true) :
    False := by
  have hmark : "e".toList = ['e'] := by decide
  have he : 'e' ∈ ds ++ '.' :: fs := by
    rw [← htext]
    unfold FloatLayout.digitsText
    simp only [FloatLayout.standard]
    split
    · rename_i h
      exact absurd ⟨of_decide_eq_true (Bool.and_eq_true_iff.1 h).1,
        of_decide_eq_true (Bool.and_eq_true_iff.1 h).2⟩ hpos
    · simp [String.toList_append, hmark]
  rcases List.mem_append.1 he with h | h
  · exact absurd (hds 'e' h) (by decide)
  · rcases List.mem_cons.1 h with h | h
    · exact absurd h (by decide)
    · exact absurd (hfs 'e' h) (by decide)

/-- The shortest digits of a positive finite value, written as digits around a point, read back
  as the float with that value's bits. -/
theorem decimalToFloat_shortestDigits {m : Nat} {e : Int} (hshape : FiniteShape m e) (hm : 0 < m)
    {ds fs : List Char}
    (htext : (FloatLayout.standard.digitsText (shortestDigits m e)).toList = ds ++ '.' :: fs)
    (hds : ∀ ch ∈ ds, isDecimalDigit ch = true) (hfs : ∀ ch ∈ fs, isDecimalDigit ch = true) :
    (decimalToFloat (digitValues ds) (digitValues fs)).toBits.toNat = encodeBits m e := by
  obtain ⟨c, k, hread, hc, hsd⟩ := shortestDigits_reads hshape hm
  -- no digits of zero read back as a positive value
  have hc0 : 0 < c := by
    rcases Nat.eq_zero_or_pos c with rfl | h
    · have hz := nearestBits_of_readsBack hread (a := 0) one_pos (by simp)
      have hpos := encodeBits_pos hshape hm
      simp [nearestBits] at hz
      omega
    · exact h
  rw [hsd] at htext
  by_cases hpos : -4 < k + (natDigits c).length ∧ k + (natDigits c).length ≤ 16
  · obtain ⟨A, B, htA, hA, hB, a, b, hb, hab, hdec⟩ := positional_text hc0 hc hpos.1 hpos.2
    rw [htA] at htext
    obtain ⟨rfl, rfl⟩ := split_at_point htext hA hds
    rw [hdec, toBits_nearestFloat, nearestBits_of_readsBack hread hb hab]
    simp
  · exact (exponentText_not_plain hpos htext hds hfs).elim

/-- Plain decimal text reads back: when a float's text is digits around a point, the reader
  turns those digits into the float itself. -/
theorem decimalToFloat_floatText {x : Float} {ds fs : List Char}
    (htext : (floatText x).toList = ds ++ '.' :: fs)
    (hds : ∀ d ∈ ds, isDecimalDigit d = true) (hfs : ∀ d ∈ fs, isDecimalDigit d = true) :
    decimalToFloat (digitValues ds) (digitValues fs) = x := by
  have hpoint : '.' ∈ (floatText x).toList := by
    rw [htext]
    simp
  unfold floatText FloatLayout.render at htext hpoint
  cases hx : Binary64.ofFloat x with
  | nan =>
    rw [hx] at hpoint
    exact absurd hpoint (by decide)
  | inf neg =>
    rw [hx] at hpoint
    cases neg <;> exact absurd hpoint (by decide)
  | finite neg m e =>
    rw [hx] at htext
    dsimp only at htext
    cases neg
    · obtain ⟨hshape, hbits⟩ := ofFloat_finite hx
      simp only [Bool.false_eq_true, if_false, String.empty_append] at htext
      apply float_eq_of_toBits
      rw [← hbits]
      by_cases hm : m = 0
      · -- zero is written `0.0`
        subst hm
        have h00 : ("0.0" : String).toList = ['0'] ++ '.' :: ['0'] := by decide
        simp only [beq_self_eq_true, if_true, FloatLayout.standard, h00] at htext
        obtain ⟨rfl, rfl⟩ := split_at_point htext.symm hds
          (fun d h => by rw [List.mem_singleton.1 h]; decide)
        have hzero : decimalToFloat (digitValues ['0']) (digitValues ['0']) = 0.0 := rfl
        rw [hzero]
        simp only [encodeBits, beq_self_eq_true, if_true]
        decide
      · rw [if_neg (by simpa using hm)] at htext
        exact decimalToFloat_shortestDigits hshape (Nat.pos_of_ne_zero hm) htext hds hfs
    · -- a negative value's text starts with a minus sign, which is no digit
      exfalso
      simp only [if_true] at htext
      split at htext <;> exact minus_not_digits hds htext

end Plain

end FieldRules.Number

namespace FieldRules.Lang

/-- A float reads back exactly when the printer writes it as a plain decimal, digits around a
  point: the reading back is then a consequence. -/
theorem floatReadsBack_iff (x : Float) :
    FloatReadsBack x ↔ ∃ ds fs, (Number.floatText x).toList = ds ++ '.' :: fs ∧ ds ≠ [] ∧
      fs ≠ [] ∧ (∀ d ∈ ds, Text.isDecimalDigit d) ∧ (∀ d ∈ fs, Text.isDecimalDigit d) := by
  constructor
  · rintro ⟨ds, fs, h, hds, hfs, hd, hf, -⟩
    exact ⟨ds, fs, h, hds, hfs, hd, hf⟩
  · rintro ⟨ds, fs, h, hds, hfs, hd, hf⟩
    exact ⟨ds, fs, h, hds, hfs, hd, hf, Number.decimalToFloat_floatText h hd hf⟩

end FieldRules.Lang
