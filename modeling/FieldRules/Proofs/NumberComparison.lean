import Mathlib
import FieldRules.Proofs.RuleOrder

/-! # Comparing numbers

Numbers of rule arithmetic (integers, floats and decimals) are equal and ordered as the floats
nearest to them. Away from NaN, each of the six comparisons of two bound numbers is the
comparison of their floats, and it fails when a number has no float, as an integer too large
for one (`number_comparison_through_floats`). Integers of at most 53 bits are floats exactly,
so they compare exactly; beyond that two integers can compare equal as their floats
(`number_comparison_rounds_large_ints`). -/

namespace FieldRules.Lang

open Number

/-- The test a comparison operator makes of two floats. -/
def floatHolds : BinOp → Float → Float → Bool
  | .eq, x, y => x == y
  | .neq, x, y => !(x == y)
  | .lt, x, y => decide (x < y)
  | .lte, x, y => decide (x ≤ y)
  | .gt, x, y => decide (x > y)
  | .gte, x, y => decide (x ≥ y)
  | _, _, _ => false

/-- The six comparison operators. -/
def BinOp.IsComparison (op : BinOp) : Prop :=
  op = .eq ∨ op = .neq ∨ op = .lt ∨ op = .lte ∨ op = .gt ∨ op = .gte

/-- Away from NaN, rule order on floats is their order. -/
theorem orderHolds_floats {x y : Float} (hx : x.isNaN = false) (hy : y.isNaN = false) :
    orderHolds .lt (orderSign (floatOrder x y)) = decide (x < y) ∧
      orderHolds .lte (orderSign (floatOrder x y)) = decide (x ≤ y) ∧
      orderHolds .gt (orderSign (floatOrder x y)) = decide (x > y) ∧
      orderHolds .gte (orderSign (floatOrder x y)) = decide (x ≥ y) := by
  obtain ⟨o, ho⟩ : ∃ o, floatOrder x y = some o :=
    Option.ne_none_iff_exists'.mp fun h => by simp_all [floatOrder_eq_none_iff]
  rw [decide_float_lt, decide_float_le, decide_float_gt,
    show decide (x ≥ y) = decide (y ≤ x) from rfl, decide_float_le, floatOrder_swap x y, ho]
  cases o <;> decide

variable {s : Store} {a b : Value}

/-- Two numbers that are not NaN are compared as their floats, and a comparison fails when a
  conversion does. -/
theorem applyBinary_numbers {op : BinOp} (hop : op.IsComparison)
    (ha : (s.resolve a).isRuleNumber = true) (hb : (s.resolve b).isRuleNumber = true)
    (hsa : (s.resolve a).isSelfUnequal = false) (hsb : (s.resolve b).isSelfUnequal = false) :
    applyBinary s op a b =
      (floatPair (s.resolve a) (s.resolve b)).map fun p => .bool (floatHolds op p.1 p.2) := by
  cases hp : floatPair (s.resolve a) (s.resolve b) with
  | error e =>
    rcases hop with rfl | rfl | rfl | rfl | rfl | rfl <;>
      simp [applyBinary, ruleEquals_of_numbers ha hb, ruleCompare_of_numbers ha hb, hp] <;> rfl
  | ok p =>
    obtain ⟨hx, hy⟩ := floatPair_eq_ok.mp hp
    have hnx := Value.toFloat_not_isNaN ha hsa hx
    have hny := Value.toFloat_not_isNaN hb hsb hy
    obtain ⟨hlt, hle, hgt, hge⟩ := orderHolds_floats hnx hny
    have hc : ruleCompare s a b = .ok (orderSign (floatOrder p.1 p.2)) := by
      rw [ruleCompare_of_numbers ha hb, hp]
      rfl
    have he : ruleEquals s a b = .ok (p.1 == p.2) := by
      rw [ruleEquals_of_numbers ha hb, hp]
      rfl
    rcases hop with rfl | rfl | rfl | rfl | rfl | rfl <;>
      simp [applyBinary, hc, he, floatHolds, hlt, hle, hgt, hge, Except.map]

/-- A comparison of two bound numbers that are not NaN compares their floats, and fails when
  one does not convert. -/
theorem evaluate_numbers (ss : Session) (op : BinOp) (hop : op.IsComparison) {x y src : String}
    (hx : IsPlainName x) (hy : IsPlainName y) (hsrc : src = x ++ " " ++ op.text ++ " " ++ y)
    (ha : (ss.store.resolve (ss.lookup x)).isRuleNumber = true)
    (hb : (ss.store.resolve (ss.lookup y)).isRuleNumber = true)
    (hsa : (ss.store.resolve (ss.lookup x)).isSelfUnequal = false)
    (hsb : (ss.store.resolve (ss.lookup y)).isSelfUnequal = false) :
    (ss.evaluate src).2 =
      ((floatPair (ss.store.resolve (ss.lookup x)) (ss.store.resolve (ss.lookup y))).map
        fun p => .bool (floatHolds op p.1 p.2)).mapError .eval := by
  have hand : op ≠ .and := by rcases hop with rfl | rfl | rfl | rfl | rfl | rfl <;> decide
  have hor : op ≠ .or := by rcases hop with rfl | rfl | rfl | rfl | rfl | rfl <;> decide
  rw [hsrc, evaluate_binary_vars ss op hand hor hx hy, applyBinary_numbers hop ha hb hsa hsb]

/-- Numbers are compared as the floats nearest to them. Each comparison of two bound numbers
  that are not NaN is the comparison of their floats; it fails, as an evaluation error, when
  one of them has no float; and two integers of at most 53 bits compare exactly. -/
theorem number_comparison_through_floats (ss : Session)
    (ha : (ss.store.resolve (ss.lookup "A")).isRuleNumber = true)
    (hb : (ss.store.resolve (ss.lookup "B")).isRuleNumber = true)
    (hsa : (ss.store.resolve (ss.lookup "A")).isSelfUnequal = false)
    (hsb : (ss.store.resolve (ss.lookup "B")).isSelfUnequal = false) :
    let ev := fun src => (ss.evaluate src).2
    let a := ss.store.resolve (ss.lookup "A")
    let b := ss.store.resolve (ss.lookup "B")
    (∀ x y, a.toFloat = .ok x → b.toFloat = .ok y →
      ev "A == B" = .ok (.bool (x == y)) ∧ ev "A != B" = .ok (.bool !(x == y)) ∧
        ev "A < B" = .ok (.bool (decide (x < y))) ∧ ev "A <= B" = .ok (.bool (decide (x ≤ y))) ∧
        ev "A > B" = .ok (.bool (decide (x > y))) ∧ ev "A >= B" = .ok (.bool (decide (x ≥ y)))) ∧
    ((∃ f, a.toFloat = .error f) ∨ (∃ f, b.toFloat = .error f) →
      ∃ e, ∀ src ∈ ["A == B", "A != B", "A < B", "A <= B", "A > B", "A >= B"],
        ev src = .error (.eval e)) ∧
    (∀ m n : Int, a = .int m → b = .int n → m.natAbs ≤ 2 ^ 53 → n.natAbs ≤ 2 ^ 53 →
      ev "A == B" = .ok (.bool (decide (m = n))) ∧ ev "A != B" = .ok (.bool !(decide (m = n))) ∧
        ev "A < B" = .ok (.bool (decide (m < n))) ∧ ev "A <= B" = .ok (.bool (decide (m ≤ n))) ∧
        ev "A > B" = .ok (.bool (decide (m > n))) ∧ ev "A >= B" = .ok (.bool (decide (m ≥ n)))) := by
  intro ev a b
  have hA : IsPlainName "A" := by decide
  have hB : IsPlainName "B" := by decide
  -- each comparison is its test on the floats of the two numbers
  have hev : ∀ op {src}, op.IsComparison → src = "A" ++ " " ++ op.text ++ " " ++ "B" →
      ev src = ((floatPair a b).map fun p => .bool (floatHolds op p.1 p.2)).mapError .eval :=
    fun op _ hop hsrc => evaluate_numbers ss op hop hA hB hsrc ha hb hsa hsb
  have heq : ev "A == B" = _ := hev .eq (by simp [BinOp.IsComparison]) rfl
  have hne : ev "A != B" = _ := hev .neq (by simp [BinOp.IsComparison]) rfl
  have hlt : ev "A < B" = _ := hev .lt (by simp [BinOp.IsComparison]) rfl
  have hle : ev "A <= B" = _ := hev .lte (by simp [BinOp.IsComparison]) rfl
  have hgt : ev "A > B" = _ := hev .gt (by simp [BinOp.IsComparison]) rfl
  have hge : ev "A >= B" = _ := hev .gte (by simp [BinOp.IsComparison]) rfl
  have hfloats : ∀ x y, a.toFloat = .ok x → b.toFloat = .ok y →
      ev "A == B" = .ok (.bool (x == y)) ∧ ev "A != B" = .ok (.bool !(x == y)) ∧
        ev "A < B" = .ok (.bool (decide (x < y))) ∧ ev "A <= B" = .ok (.bool (decide (x ≤ y))) ∧
        ev "A > B" = .ok (.bool (decide (x > y))) ∧ ev "A >= B" = .ok (.bool (decide (x ≥ y))) := by
    intro x y hx hy
    have hp : floatPair a b = .ok (x, y) := floatPair_eq_ok.mpr ⟨hx, hy⟩
    rw [heq, hne, hlt, hle, hgt, hge, hp]
    exact ⟨rfl, rfl, rfl, rfl, rfl, rfl⟩
  refine ⟨hfloats, fun hf => ?fails, fun m n ham hbn hm hn => ?ints⟩
  case fails =>
    obtain ⟨e, he⟩ := floatPair_error hf
    refine ⟨e, fun src hsrc => ?_⟩
    simp only [List.mem_cons, List.not_mem_nil, or_false] at hsrc
    rcases hsrc with rfl | rfl | rfl | rfl | rfl | rfl <;>
      simp only [heq, hne, hlt, hle, hgt, hge, he] <;> rfl
  case ints =>
    -- integers of at most 53 bits convert exactly, and their floats compare as they do
    have hx : a.toFloat = .ok (floatOfInt m) := by
      rw [ham]
      exact floatOfIntChecked_small m hm
    have hy : b.toFloat = .ok (floatOfInt n) := by
      rw [hbn]
      exact floatOfIntChecked_small n hn
    obtain ⟨c1, c2, c3, c4, c5⟩ := floatOfInt_comparisons hm hn
    rw [← c1, ← c2, ← c3, ← c4, ← c5]
    exact hfloats _ _ hx hy

/-- A bound integer and a bound float: both are numbers and neither is NaN. -/
theorem number_comparison_int_float :
    let ss := ((Session.start {} 0).bind "A" (.int 3)).bind "B" (.float 2.5)
    let ev := fun src => (ss.evaluate src).2
    let a := ss.store.resolve (ss.lookup "A")
    let b := ss.store.resolve (ss.lookup "B")
    a.isRuleNumber = true ∧ b.isRuleNumber = true ∧ a.isSelfUnequal = false ∧
      b.isSelfUnequal = false ∧
    (∀ x y, a.toFloat = .ok x → b.toFloat = .ok y →
      ev "A == B" = .ok (.bool (x == y)) ∧ ev "A != B" = .ok (.bool !(x == y)) ∧
        ev "A < B" = .ok (.bool (decide (x < y))) ∧ ev "A <= B" = .ok (.bool (decide (x ≤ y))) ∧
        ev "A > B" = .ok (.bool (decide (x > y))) ∧ ev "A >= B" = .ok (.bool (decide (x ≥ y)))) ∧
    ((∃ f, a.toFloat = .error f) ∨ (∃ f, b.toFloat = .error f) →
      ∃ e, ∀ src ∈ ["A == B", "A != B", "A < B", "A <= B", "A > B", "A >= B"],
        ev src = .error (.eval e)) ∧
    (∀ m n : Int, a = .int m → b = .int n → m.natAbs ≤ 2 ^ 53 → n.natAbs ≤ 2 ^ 53 →
      ev "A == B" = .ok (.bool (decide (m = n))) ∧ ev "A != B" = .ok (.bool !(decide (m = n))) ∧
        ev "A < B" = .ok (.bool (decide (m < n))) ∧ ev "A <= B" = .ok (.bool (decide (m ≤ n))) ∧
        ev "A > B" = .ok (.bool (decide (m > n))) ∧ ev "A >= B" = .ok (.bool (decide (m ≥ n)))) := by
  intro ss ev a b
  have hss : ss = ⟨{}, ⟨[("A", .int 3), ("B", .float 2.5)]⟩, 0⟩ := by
    simp only [ss, Session.bind, Session.start, Store.withIdentity,
      show (Value.float 2.5).isSelfUnequal = false by decide]
    rfl
  have ha : a = .int 3 := by simp only [a, hss]; rfl
  have hb : b = .float 2.5 := by simp only [b, hss]; rfl
  have h1 : a.isRuleNumber = true := by rw [ha]; rfl
  have h2 : b.isRuleNumber = true := by rw [hb]; rfl
  have h3 : a.isSelfUnequal = false := by rw [ha]; rfl
  have h4 : b.isSelfUnequal = false := by rw [hb]; decide
  exact ⟨h1, h2, h3, h4, number_comparison_through_floats ss h1 h2 h3 h4⟩

/-- Above 53 bits integers are compared as their floats: 2 ^ 53 + 1 rounds to 2 ^ 53, so the
  two compare equal. -/
theorem number_comparison_rounds_large_ints :
    let ss := ((Session.start {} 0).bind "A" (.int (2 ^ 53 + 1))).bind "B" (.int (2 ^ 53))
    (ss.evaluate "A == B").2 = .ok (.bool true) ∧ (ss.evaluate "A > B").2 = .ok (.bool false) := by
  intro ss
  have hss : ss = ⟨{}, ⟨[("A", .int (2 ^ 53 + 1)), ("B", .int (2 ^ 53))]⟩, 0⟩ := rfl
  have ha : ss.store.resolve (ss.lookup "A") = .int (2 ^ 53 + 1) := by rw [hss]; rfl
  have hb : ss.store.resolve (ss.lookup "B") = .int (2 ^ 53) := by rw [hss]; rfl
  have hx : (Value.int (2 ^ 53 + 1)).toFloat = .ok (floatOfInt (2 ^ 53 + 1)) := by
    simp only [Value.toFloat]
    unfold floatOfIntChecked floatOfInt
    dsimp only
    rw [isInfinite_nearestFloat, if_neg (by decide)]
  have hy : (Value.int (2 ^ 53)).toFloat = .ok (floatOfInt (2 ^ 53)) := by
    simp only [Value.toFloat]
    exact floatOfIntChecked_small (2 ^ 53) (by decide)
  have hp : floatPair (ss.store.resolve (ss.lookup "A")) (ss.store.resolve (ss.lookup "B")) =
      .ok (floatOfInt (2 ^ 53 + 1), floatOfInt (2 ^ 53)) := by
    rw [ha, hb]
    exact floatPair_eq_ok.mpr ⟨hx, hy⟩
  have hA : IsPlainName "A" := by decide
  have hB : IsPlainName "B" := by decide
  have heq : (ss.evaluate "A == B").2 = _ := evaluate_numbers ss .eq (by simp [BinOp.IsComparison]) hA hB rfl
    (by rw [ha]; rfl) (by rw [hb]; rfl) (by rw [ha]; rfl) (by rw [hb]; rfl)
  have hgt : (ss.evaluate "A > B").2 = _ := evaluate_numbers ss .gt (by simp [BinOp.IsComparison]) hA hB rfl
    (by rw [ha]; rfl) (by rw [hb]; rfl) (by rw [ha]; rfl) (by rw [hb]; rfl)
  rw [heq, hgt, hp]
  exact ⟨congrArg (fun t => Except.ok (Value.bool t)) (by decide),
    congrArg (fun t => Except.ok (Value.bool t)) (by decide)⟩

end FieldRules.Lang
