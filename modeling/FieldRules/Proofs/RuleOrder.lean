import Mathlib
import FieldRules.Proofs.Rounding
import FieldRules.Proofs.HostOrder
import FieldRules.Proofs.RoundTrip
import FieldRules.Lang.Session

/-! # Rule order

`<`, `<=`, `>` and `>=` read one answer of `ruleCompare` and `==` reads `ruleEquals`: two case
analyses over none, numbers, dates and texts, written apart. They agree. On each kind of pair
both are read off one order `o` (`OrderedBy`): none below everything, numbers by their floats,
texts by their characters, dates by their day numbers, and datetimes of one kind by their
instants. A comparison fails exactly on the other pairs (`RuleComparable`). The order is total
but for NaN, which is unordered (`o = none`): then less, equal and greater all fail, while at
most and at least, read as not greater and not less, hold (`rule_order_nan_unordered`). -/

namespace FieldRules

/-- Whether the dates a value carries are valid calendar dates: a date, or the date of a
  datetime. -/
def Value.datesValid : Value → Bool
  | .date d => d.valid
  | .dateTime t => t.date.valid
  | _ => true

theorem Value.datesValid_of_isRuleNumber {v : Value} (h : v.isRuleNumber = true) :
    v.datesValid = true := by
  cases v <;> simp_all [Value.isRuleNumber, Value.datesValid]

theorem Value.ne_none_of_isRuleNumber {v : Value} (h : v.isRuleNumber = true) : v ≠ .none := by
  rintro rfl
  simp [Value.isRuleNumber] at h

namespace Lang

open Number

/-! ### The sign of an order -/

/-- The sign `ruleCompare` gives an order: `-1` below, `1` above, `0` for equal or unordered. -/
def orderSign : Option Ordering → Int
  | some .lt => -1
  | some .gt => 1
  | _ => 0

theorem sign_holds (o : Ordering) :
    ((if Direction.above.holds o then 1 else 0) - (if Direction.below.holds o then 1 else 0) : Int)
      = orderSign (some o) := by
  cases o <;> rfl

theorem sign_floats (x y : Float) :
    ((if decide (x > y) then 1 else 0) - (if decide (x < y) then 1 else 0) : Int) =
      orderSign (floatOrder x y) := by
  rw [decide_float_gt, decide_float_lt]
  cases floatOrder x y with
  | none => rfl
  | some o => cases o <;> rfl

/-! ### Comparing and equating two operands, kind by kind -/

theorem floatPair_eq_ok {a b : Value} {p : Float × Float} :
    floatPair a b = .ok p ↔ a.toFloat = .ok p.1 ∧ b.toFloat = .ok p.2 := by
  unfold floatPair
  split <;> simp_all [Prod.ext_iff]

theorem floatPair_error {a b : Value} (h : (∃ f, a.toFloat = .error f) ∨ ∃ f, b.toFloat = .error f) :
    ∃ e, floatPair a b = .error e := by
  unfold floatPair
  split
  · rename_i x y hx hy
    simp_all
  · exact ⟨_, rfl⟩
  · exact ⟨_, rfl⟩

/-- Only dates and datetimes align as dates, so no number does. -/
theorem alignDates_isRuleNumber {a b da db : Value} (h : alignDates a b = some (da, db)) :
    a.isRuleNumber = false := by
  unfold alignDates at h
  split at h <;> first | rfl | cases h

variable {s : Store} {a b : Value}

theorem ruleCompare_of_numbers (ha : (s.resolve a).isRuleNumber = true)
    (hb : (s.resolve b).isRuleNumber = true) :
    ruleCompare s a b =
      (floatPair (s.resolve a) (s.resolve b)).map fun p => orderSign (floatOrder p.1 p.2) := by
  have hna := Value.ne_none_of_isRuleNumber ha
  have hnb := Value.ne_none_of_isRuleNumber hb
  unfold ruleCompare
  split
  · contradiction
  · contradiction
  · contradiction
  · simp only [ha, hb, Bool.and_self, if_true]
    cases floatPair (s.resolve a) (s.resolve b) with
    | error e => rfl
    | ok p => exact congrArg Except.ok (sign_floats p.1 p.2)

theorem ruleEquals_of_numbers (ha : (s.resolve a).isRuleNumber = true)
    (hb : (s.resolve b).isRuleNumber = true) :
    ruleEquals s a b = (floatPair (s.resolve a) (s.resolve b)).map fun p => p.1 == p.2 := by
  have hna := Value.ne_none_of_isRuleNumber ha
  have hnb := Value.ne_none_of_isRuleNumber hb
  unfold ruleEquals
  split
  · contradiction
  · contradiction
  · contradiction
  · simp only [ha, hb, Bool.and_self, if_true]
    cases floatPair (s.resolve a) (s.resolve b) <;> rfl

theorem ruleCompare_numbers {x y : Float} (ha : (s.resolve a).isRuleNumber = true)
    (hb : (s.resolve b).isRuleNumber = true) (hx : (s.resolve a).toFloat = .ok x)
    (hy : (s.resolve b).toFloat = .ok y) : ruleCompare s a b = .ok (orderSign (floatOrder x y)) := by
  rw [ruleCompare_of_numbers ha hb, (floatPair_eq_ok (p := (x, y))).mpr ⟨hx, hy⟩]
  rfl

theorem ruleEquals_numbers {x y : Float} (ha : (s.resolve a).isRuleNumber = true)
    (hb : (s.resolve b).isRuleNumber = true) (hx : (s.resolve a).toFloat = .ok x)
    (hy : (s.resolve b).toFloat = .ok y) : ruleEquals s a b = .ok (floatOrder x y == some .eq) := by
  rw [ruleEquals_of_numbers ha hb, (floatPair_eq_ok (p := (x, y))).mpr ⟨hx, hy⟩]
  rfl

theorem ruleCompare_texts {x y : String} (ha : s.resolve a = .str x) (hb : s.resolve b = .str y) :
    ruleCompare s a b = .ok (orderSign (some (lexOrder x.toList y.toList))) := by
  unfold ruleCompare
  split
  · simp_all
  · simp_all
  · simp_all
  · simp only [ha, hb, Value.isRuleNumber, Bool.and_self, Bool.false_eq_true, if_false,
      alignDates, isText, if_true, Store.hostOrdered_str]
    exact congrArg Except.ok (sign_holds _)

theorem ruleCompare_dates {da db : Value} {o : Ordering}
    (h : alignDates (s.resolve a) (s.resolve b) = some (da, db))
    (hd : ∀ d, s.hostOrdered d da db = .ok (d.holds o)) :
    ruleCompare s a b = .ok (orderSign (some o)) := by
  have hnum : ((s.resolve a).isRuleNumber && (s.resolve b).isRuleNumber) = false := by
    rw [alignDates_isRuleNumber h, Bool.false_and]
  unfold ruleCompare
  split
  · simp_all [alignDates]
  · simp_all [alignDates]
  · simp_all [alignDates]
  · simp only [hnum, Bool.false_eq_true, if_false, h, hd]
    exact congrArg Except.ok (sign_holds _)

/-- Dates and datetimes the host orders once aligned: two dates, a date and a datetime, or two
  datetimes that both carry an offset or both do not. -/
def DatesComparable : Value → Value → Prop
  | .date _, .date _ | .date _, .dateTime _ | .dateTime _, .date _ => True
  | .dateTime x, .dateTime y => x.offset.isSome = y.offset.isSome
  | _, _ => False

/-- Two operands that rule order is defined on, as their resolved values: none on either side;
  two numbers of rule arithmetic that both convert to floats; two texts; or dates and datetimes
  that the host orders once a datetime meeting a date stands for its date. -/
def RuleComparable (s : Store) (a b : Value) : Prop :=
  s.resolve a = .none ∨ s.resolve b = .none ∨
    ((s.resolve a).isRuleNumber = true ∧ (s.resolve b).isRuleNumber = true ∧
      (∃ x, (s.resolve a).toFloat = .ok x) ∧ ∃ y, (s.resolve b).toFloat = .ok y) ∨
    (isText (s.resolve a) = true ∧ isText (s.resolve b) = true) ∨
    DatesComparable (s.resolve a) (s.resolve b)

/-- Rule order fails on every other pair. -/
theorem ruleCompare_error (h : ¬RuleComparable s a b) : ∃ e, ruleCompare s a b = .error e := by
  simp only [RuleComparable, not_or, not_and] at h
  obtain ⟨hna, hnb, hnum, htext, hdates⟩ := h
  unfold ruleCompare
  split
  · contradiction
  · contradiction
  · contradiction
  · by_cases hboth : ((s.resolve a).isRuleNumber && (s.resolve b).isRuleNumber) = true
    · -- two numbers, one of which does not convert
      simp only [hboth, if_true, floatPair]
      simp only [Bool.and_eq_true] at hboth
      cases hx : (s.resolve a).toFloat with
      | error f => exact ⟨_, rfl⟩
      | ok x =>
        cases hy : (s.resolve b).toFloat with
        | error f => exact ⟨_, rfl⟩
        | ok y => exact absurd ⟨y, hy⟩ (hnum hboth.1 hboth.2 ⟨x, hx⟩)
    · simp only [Bool.not_eq_true] at hboth
      simp only [hboth, Bool.false_eq_true, if_false]
      cases hal : alignDates (s.resolve a) (s.resolve b) with
      | some p =>
        -- only two datetimes of which one carries an offset align and stay unordered
        obtain ⟨da, db⟩ := p
        unfold alignDates at hal
        split at hal
        case h_4 x y hra hrb =>
          simp only [hra, hrb, DatesComparable] at hdates
          simp only [Option.some.injEq, Prod.mk.injEq] at hal
          obtain ⟨rfl, rfl⟩ := hal
          obtain ⟨f, hf⟩ := s.hostOrdered_dateTime_mixed .above x y hdates
          simp only [hf]
          exact ⟨_, rfl⟩
        case h_5 => cases hal
        all_goals
          rename_i hra hrb
          simp [hra, hrb, DatesComparable] at hdates
      | none =>
        have hnt : (isText (s.resolve a) && isText (s.resolve b)) = false := by
          simpa using htext
        simp only [hnt, Bool.false_eq_true, if_false]
        exact ⟨_, rfl⟩

theorem ruleCompare_none_left (ha : s.resolve a = .none) (hb : s.resolve b ≠ .none) :
    ruleCompare s a b = .ok (-1) := by
  unfold ruleCompare
  split <;> simp_all

theorem ruleCompare_none_right (ha : s.resolve a ≠ .none) (hb : s.resolve b = .none) :
    ruleCompare s a b = .ok 1 := by
  unfold ruleCompare
  split <;> simp_all

theorem ruleCompare_none_none (ha : s.resolve a = .none) (hb : s.resolve b = .none) :
    ruleCompare s a b = .ok 0 := by
  unfold ruleCompare
  split <;> simp_all

theorem ruleEquals_none_none (ha : s.resolve a = .none) (hb : s.resolve b = .none) :
    ruleEquals s a b = .ok true := by
  unfold ruleEquals
  split <;> simp_all

theorem ruleEquals_none_left (ha : s.resolve a = .none) (hb : s.resolve b ≠ .none) :
    ruleEquals s a b = .ok false := by
  unfold ruleEquals
  split <;> simp_all

theorem ruleEquals_none_right (ha : s.resolve a ≠ .none) (hb : s.resolve b = .none) :
    ruleEquals s a b = .ok false := by
  unfold ruleEquals
  split <;> simp_all

theorem ruleEquals_texts {x y : String} (ha : s.resolve a = .str x) (hb : s.resolve b = .str y) :
    ruleEquals s a b = .ok (some (lexOrder x.toList y.toList) == some .eq) := by
  unfold ruleEquals
  split
  · simp_all
  · simp_all
  · simp_all
  · simp only [ha, hb, Value.isRuleNumber, Bool.and_self, Bool.false_eq_true, if_false,
      alignDates, s.ruleEqual_texts ha hb, Except.mapError]
    congr 1
    rw [Bool.eq_iff_iff, beq_iff_eq, beq_iff_eq, Option.some.injEq, lexOrder_eq_iff,
      String.toList_inj]

theorem ruleEquals_dates {da db : Value}
    (h : alignDates (s.resolve a) (s.resolve b) = some (da, db)) :
    ruleEquals s a b = .ok (s.equal da db) := by
  have hnum : ((s.resolve a).isRuleNumber && (s.resolve b).isRuleNumber) = false := by
    rw [alignDates_isRuleNumber h, Bool.false_and]
  unfold ruleEquals
  split
  · simp_all [alignDates]
  · simp_all [alignDates]
  · simp_all [alignDates]
  · simp only [hnum, Bool.false_eq_true, if_false, h]

/-! ### One order for comparing and equating -/

/-- The rule operators read the order `o` off two operands: `<` and `>`, either way round, by
  its sign, and `==` (on valid dates) as its being equal. An unordered pair has `o = none`. -/
structure OrderedBy (s : Store) (a b : Value) (o : Option Ordering) : Prop where
  compare_ab : ruleCompare s a b = .ok (orderSign o)
  compare_ba : ruleCompare s b a = .ok (orderSign (o.map Ordering.swap))
  equals : (s.resolve a).datesValid = true → (s.resolve b).datesValid = true →
    ruleEquals s a b = .ok (o == some .eq)

theorem orderedBy_none_none (ha : s.resolve a = .none) (hb : s.resolve b = .none) :
    OrderedBy s a b (some .eq) :=
  ⟨ruleCompare_none_none ha hb, ruleCompare_none_none hb ha,
    fun _ _ => ruleEquals_none_none ha hb⟩

theorem orderedBy_none_left (ha : s.resolve a = .none) (hb : s.resolve b ≠ .none) :
    OrderedBy s a b (some .lt) :=
  ⟨ruleCompare_none_left ha hb, ruleCompare_none_right hb ha,
    fun _ _ => ruleEquals_none_left ha hb⟩

theorem orderedBy_none_right (ha : s.resolve a ≠ .none) (hb : s.resolve b = .none) :
    OrderedBy s a b (some .gt) :=
  ⟨ruleCompare_none_right ha hb, ruleCompare_none_left hb ha,
    fun _ _ => ruleEquals_none_right ha hb⟩

theorem orderedBy_numbers {x y : Float} (ha : (s.resolve a).isRuleNumber = true)
    (hb : (s.resolve b).isRuleNumber = true) (hx : (s.resolve a).toFloat = .ok x)
    (hy : (s.resolve b).toFloat = .ok y) : OrderedBy s a b (floatOrder x y) :=
  ⟨ruleCompare_numbers ha hb hx hy, floatOrder_swap x y ▸ ruleCompare_numbers hb ha hy hx,
    fun _ _ => ruleEquals_numbers ha hb hx hy⟩

theorem orderedBy_texts {x y : String} (ha : s.resolve a = .str x) (hb : s.resolve b = .str y) :
    OrderedBy s a b (some (lexOrder x.toList y.toList)) :=
  ⟨ruleCompare_texts ha hb, by rw [Option.map_some, ← lexOrder_swap]; exact ruleCompare_texts hb ha,
    fun _ _ => ruleEquals_texts ha hb⟩

/-- Aligned dates are ordered as the host orders them, either way round; their equality is the
  host's. -/
theorem orderedBy_aligned {da db : Value} {o : Ordering}
    (hab : alignDates (s.resolve a) (s.resolve b) = some (da, db))
    (hba : alignDates (s.resolve b) (s.resolve a) = some (db, da))
    (hd : ∀ d, s.hostOrdered d da db = .ok (d.holds o))
    (hd' : ∀ d, s.hostOrdered d db da = .ok (d.holds o.swap))
    (heq : (s.resolve a).datesValid = true → (s.resolve b).datesValid = true →
      s.equal da db = (o == .eq)) :
    OrderedBy s a b (some o) :=
  ⟨ruleCompare_dates hab hd, ruleCompare_dates hba hd', fun hva hvb => by
    rw [ruleEquals_dates hab, heq hva hvb]
    cases o <;> rfl⟩

/-- Operands that align as two dates are ordered by their ordinals. -/
theorem orderedBy_aligned_dates {x y : Time.Date}
    (hab : alignDates (s.resolve a) (s.resolve b) = some (.date x, .date y))
    (hba : alignDates (s.resolve b) (s.resolve a) = some (.date y, .date x))
    (hvalid : (s.resolve a).datesValid = true → (s.resolve b).datesValid = true →
      x.valid = true ∧ y.valid = true) :
    OrderedBy s a b (some (compare x.ordinal y.ordinal)) :=
  orderedBy_aligned hab hba (fun d => s.hostOrdered_date d x y)
    (fun d => by rw [s.hostOrdered_date, Int.compare_swap])
    (fun hva hvb => by
      obtain ⟨hx, hy⟩ := hvalid hva hvb
      rw [s.equal_date, Bool.eq_iff_iff, Time.Date.beq_iff, beq_iff_eq,
        Time.Date.compare_ordinal_eq_iff hx hy])

theorem orderedBy_dates (h : DatesComparable (s.resolve a) (s.resolve b)) :
    ∃ o, OrderedBy s a b (some o) := by
  unfold DatesComparable at h
  split at h
  case h_1 x y hra hrb | h_2 x y hra hrb | h_3 x y hra hrb =>
    -- a datetime meeting a date stands for its date
    exact ⟨_, orderedBy_aligned_dates (by rw [hra, hrb]; rfl) (by rw [hra, hrb]; rfl)
      (fun hva hvb => ⟨by simpa [hra, Value.datesValid] using hva,
        by simpa [hrb, Value.datesValid] using hvb⟩)⟩
  case h_4 x y hra hrb =>
    -- two datetimes of one kind are ordered and equal by one instant each
    exact ⟨_, orderedBy_aligned (by rw [hra, hrb]; rfl) (by rw [hra, hrb]; rfl)
      (fun d => s.hostOrdered_dateTime d x y h)
      (fun d => by rw [s.hostOrdered_dateTime d y x h.symm, Int.compare_swap])
      (fun _ _ => by
        rw [s.equal_dateTime, Time.dateTimeEq_of_offsets h, Bool.eq_iff_iff, beq_iff_eq,
          beq_iff_eq, compare_eq_iff_eq])⟩
  case h_5 => exact h.elim

/-- Rule order is defined on comparable operands, and leaves a pair unordered exactly when both
  are numbers and one of them is NaN. -/
theorem orderedBy_of_comparable (h : RuleComparable s a b) :
    ∃ o, OrderedBy s a b o ∧
      (o = none ↔ (s.resolve a).isRuleNumber = true ∧ (s.resolve b).isRuleNumber = true ∧
        ((s.resolve a).isSelfUnequal = true ∨ (s.resolve b).isSelfUnequal = true)) := by
  by_cases ha : s.resolve a = .none
  · by_cases hb : s.resolve b = .none
    · exact ⟨_, orderedBy_none_none ha hb, by simp [ha, Value.isRuleNumber]⟩
    · exact ⟨_, orderedBy_none_left ha hb, by simp [ha, Value.isRuleNumber]⟩
  · by_cases hb : s.resolve b = .none
    · exact ⟨_, orderedBy_none_right ha hb, by simp [hb, Value.isRuleNumber]⟩
    · rcases h with ha' | hb' | ⟨hna, hnb, ⟨x, hx⟩, ⟨y, hy⟩⟩ | ⟨hta, htb⟩ | hd
      · contradiction
      · contradiction
      · -- numbers are unordered exactly when a float is NaN
        refine ⟨_, orderedBy_numbers hna hnb hx hy, ?_⟩
        rw [Number.floatOrder_eq_none_iff, Value.toFloat_isNaN hna hx, Value.toFloat_isNaN hnb hy]
        simp [hna, hnb]
      · obtain ⟨x, hx⟩ : ∃ x, s.resolve a = .str x := by
          cases h : s.resolve a <;> simp_all [isText]
        obtain ⟨y, hy⟩ : ∃ y, s.resolve b = .str y := by
          cases h : s.resolve b <;> simp_all [isText]
        exact ⟨_, orderedBy_texts hx hy, by simp [hx, Value.isRuleNumber]⟩
      · obtain ⟨o, ho⟩ := orderedBy_dates hd
        refine ⟨_, ho, ?_⟩
        have hnum : (s.resolve a).isRuleNumber = false := by
          cases hra : s.resolve a <;> cases hrb : s.resolve b <;>
            simp_all [DatesComparable, Value.isRuleNumber]
        simp [hnum]

/-! ### Comparing two bound names -/

/-- Two plain names around a binary operator read as that operator on the two variables. -/
theorem parse_binary_vars (op : BinOp) {x y : String} (hx : IsPlainName x) (hy : IsPlainName y) :
    parse (x ++ " " ++ op.text ++ " " ++ y) = .ok ⟨[.eval (.binary op (.var x) (.var y))]⟩ := by
  have hp : Program.Printable ⟨[.eval (.binary op (.var x) (.var y))]⟩ :=
    ⟨by simp, by simpa using .binary (.var hx) (.var hy)⟩
  obtain ⟨ts, htok, hts⟩ := tokenize_print hp
  have hprint : Program.print ⟨[.eval (.binary op (.var x) (.var y))]⟩ =
      x ++ " " ++ op.text ++ " " ++ y := by
    have hlevel : op.level + 1 ≤ 6 := by cases op <;> decide
    have hkind : op.kind ≠ .number ∧ op.kind ≠ .string ∧ op.kind ≠ .boolean ∧ op.kind ≠ .null := by
      cases op <;> decide
    simp [Program.print, Program.toks, Statement.toks, Expr.toks, wrapAt, Expr.prec,
      tokenText_str hkind, tokenText_str (k := .identifier) (by decide), hlevel,
      show op.level ≤ 6 by omega, String.append_assoc]
  rw [hprint] at htok
  simp only [parse, htok, parseTokens_toks hp hts]

theorem eval_binary_vars (env : Env) {op : BinOp} (hand : op ≠ .and) (hor : op ≠ .or)
    (x y : String) :
    env.eval (.binary op (.var x) (.var y)) =
      applyBinary env.store op (env.scope.get x) (env.scope.get y) := by
  cases op <;> first | contradiction | rfl

/-- Rule text that applies an operator other than `&&` and `||` to two names evaluates both
  names and applies the operator to their values. -/
theorem evaluate_binary_vars (ss : Session) (op : BinOp) (hand : op ≠ .and) (hor : op ≠ .or)
    {x y : String} (hx : IsPlainName x) (hy : IsPlainName y) :
    (ss.evaluate (x ++ " " ++ op.text ++ " " ++ y)).2 =
      (applyBinary ss.store op (ss.lookup x) (ss.lookup y)).mapError .eval := by
  simp only [Session.evaluate, parse_binary_vars op hx hy, Session.run, Program.run,
    runStatements]
  rw [eval_binary_vars _ hand hor]
  simp only [Session.lookup]
  cases applyBinary ss.store op (ss.scope.get x) (ss.scope.get y) <;> rfl

/-- A comparison of two bound names is rule order on their values. -/
theorem evaluate_order (ss : Session) (op : BinOp) (hop : op = .lt ∨ op = .lte ∨ op = .gt ∨ op = .gte)
    {x y src : String} (hx : IsPlainName x) (hy : IsPlainName y)
    (hsrc : src = x ++ " " ++ op.text ++ " " ++ y) :
    (ss.evaluate src).2 =
      ((ruleCompare ss.store (ss.lookup x) (ss.lookup y)).map
        fun k => .bool (orderHolds op k)).mapError .eval := by
  subst hsrc
  have hand : op ≠ .and := by rcases hop with rfl | rfl | rfl | rfl <;> decide
  have hor : op ≠ .or := by rcases hop with rfl | rfl | rfl | rfl <;> decide
  rw [evaluate_binary_vars ss op hand hor hx hy]
  rcases hop with rfl | rfl | rfl | rfl <;> simp only [applyBinary] <;>
    cases ruleCompare ss.store (ss.lookup x) (ss.lookup y) <;> rfl

/-- An equality test of two bound names is rule equality of their values. -/
theorem evaluate_equals (ss : Session) {x y src : String} (hx : IsPlainName x) (hy : IsPlainName y)
    (hsrc : src = x ++ " " ++ BinOp.eq.text ++ " " ++ y) :
    (ss.evaluate src).2 =
      ((ruleEquals ss.store (ss.lookup x) (ss.lookup y)).map .bool).mapError .eval := by
  subst hsrc
  rw [evaluate_binary_vars ss .eq (by decide) (by decide) hx hy]
  simp only [applyBinary]
  cases ruleEquals ss.store (ss.lookup x) (ss.lookup y) <;> rfl

/-- Rule order on the values bound to two names is one order with none first. Comparing them
  fails, as an evaluation error, exactly when they are not comparable; otherwise comparing
  either way round agrees, none is below every other value, and of less, equal and greater
  exactly one holds, with at most and at least their unions, unless a number is NaN: then none
  of the three holds. -/
theorem rule_order_consistent (ss : Session) :
    let ev := fun src => (ss.evaluate src).2
    let s := ss.store
    let a := ss.lookup "A"
    let b := ss.lookup "B"
    ((∃ e, ev "A < B" = .error (.eval e)) ↔ ¬RuleComparable s a b) ∧
    (RuleComparable s a b →
      ev "A < B" = ev "B > A" ∧
      (s.resolve a = .none → s.resolve b ≠ .none →
        ev "A < B" = .ok (.bool true) ∧ ev "A == B" = .ok (.bool false) ∧
          ev "A > B" = .ok (.bool false)) ∧
      ((s.resolve a).isSelfUnequal = false → (s.resolve b).isSelfUnequal = false →
        (s.resolve a).datesValid = true → (s.resolve b).datesValid = true →
        ∃ lt eq gt : Bool, ev "A < B" = .ok (.bool lt) ∧ ev "A == B" = .ok (.bool eq) ∧
          ev "A > B" = .ok (.bool gt) ∧ [lt, eq, gt].count true = 1 ∧
          ev "A <= B" = .ok (.bool (lt || eq)) ∧ ev "A >= B" = .ok (.bool (gt || eq))) ∧
      ((s.resolve a).isRuleNumber = true → (s.resolve b).isRuleNumber = true →
        ((s.resolve a).isSelfUnequal = true ∨ (s.resolve b).isSelfUnequal = true) →
        ev "A < B" = .ok (.bool false) ∧ ev "A == B" = .ok (.bool false) ∧
          ev "A > B" = .ok (.bool false))) := by
  intro ev s a b
  have hA : IsPlainName "A" := by decide
  have hB : IsPlainName "B" := by decide
  -- each comparison is its operator on the two bound values
  have hlt : ev "A < B" = ((ruleCompare s a b).map fun k => .bool (orderHolds .lt k)).mapError .eval :=
    evaluate_order ss .lt (by simp) hA hB rfl
  have hgt : ev "A > B" = ((ruleCompare s a b).map fun k => .bool (orderHolds .gt k)).mapError .eval :=
    evaluate_order ss .gt (by simp) hA hB rfl
  have hle : ev "A <= B" = ((ruleCompare s a b).map fun k => .bool (orderHolds .lte k)).mapError .eval :=
    evaluate_order ss .lte (by simp) hA hB rfl
  have hge : ev "A >= B" = ((ruleCompare s a b).map fun k => .bool (orderHolds .gte k)).mapError .eval :=
    evaluate_order ss .gte (by simp) hA hB rfl
  have hgt_ba : ev "B > A" = ((ruleCompare s b a).map fun k => .bool (orderHolds .gt k)).mapError .eval :=
    evaluate_order ss .gt (by simp) hB hA rfl
  have heq : ev "A == B" = ((ruleEquals s a b).map .bool).mapError .eval :=
    evaluate_equals ss hA hB rfl
  refine ⟨⟨fun ⟨e, he⟩ hc => ?_, fun hnc => ?_⟩, fun hc => ?_⟩
  · obtain ⟨o, ho, -⟩ := orderedBy_of_comparable hc
    rw [hlt, ho.compare_ab] at he
    cases he
  · obtain ⟨e, he⟩ := ruleCompare_error hnc
    exact ⟨e, by rw [hlt, he]; rfl⟩
  obtain ⟨o, ho, hnone⟩ := orderedBy_of_comparable hc
  refine ⟨?swap, fun ha hb => ?null, fun hsa hsb hva hvb => ?total, fun hna hnb hnan => ?nan⟩
  case swap =>
    rw [hlt, hgt_ba, ho.compare_ab, ho.compare_ba]
    rcases o with _ | ⟨_ | _ | _⟩ <;> rfl
  case null =>
    rw [hlt, hgt, heq, ruleCompare_none_left ha hb, ruleEquals_none_left ha hb]
    exact ⟨rfl, rfl, rfl⟩
  case total =>
    -- no NaN: the pair is ordered
    obtain ⟨o', rfl⟩ : ∃ o', o = some o' := by
      refine Option.ne_none_iff_exists'.mp fun h => ?_
      obtain ⟨-, -, hnan⟩ := hnone.mp h
      simp_all
    rw [hlt, hgt, hle, hge, heq, ho.compare_ab, ho.equals hva hvb]
    refine ⟨o' == .lt, o' == .eq, o' == .gt, ?_⟩
    cases o' <;> exact ⟨rfl, rfl, rfl, rfl, rfl, rfl⟩
  case nan =>
    obtain rfl := hnone.mpr ⟨hna, hnb, hnan⟩
    rw [hlt, hgt, heq, ho.compare_ab,
      ho.equals (Value.datesValid_of_isRuleNumber hna) (Value.datesValid_of_isRuleNumber hnb)]
    exact ⟨rfl, rfl, rfl⟩

/-- NaN is unordered: bound against one, less, equal and greater all fail, while at most holds. -/
theorem rule_order_nan_unordered :
    let ss := ((Session.start {} 0).bind "A" (.float (0.0 / 0.0))).bind "B" (.int 1)
    (ss.evaluate "A < B").2 = .ok (.bool false) ∧ (ss.evaluate "A == B").2 = .ok (.bool false) ∧
      (ss.evaluate "A > B").2 = .ok (.bool false) ∧ (ss.evaluate "A <= B").2 = .ok (.bool true) := by
  intro ss
  have hnan : (Value.float (0.0 / 0.0)).isSelfUnequal = true := by decide
  -- binding the NaN gives it identity: it is stored, and the scope holds a reference
  have hid : Store.withIdentity {} (.float (0.0 / 0.0)) = (⟨#[.float (0.0 / 0.0)]⟩, .shared 0) := by
    simp only [Store.withIdentity, hnan, if_true]
    rfl
  have hss : ss = ⟨⟨#[.float (0.0 / 0.0)]⟩, ⟨[("A", .shared 0), ("B", .int 1)]⟩, 0⟩ := by
    simp only [ss, Session.bind, Session.start, hid]
    rfl
  have ha : ss.store.resolve (ss.lookup "A") = .float (0.0 / 0.0) := by rw [hss]; rfl
  have hb : ss.store.resolve (ss.lookup "B") = .int 1 := by rw [hss]; rfl
  have hone : (Value.int 1).toFloat = .ok (Number.floatOfInt 1) :=
    Number.floatOfIntChecked_small 1 (by decide)
  have hnone : Number.floatOrder (0.0 / 0.0) (Number.floatOfInt 1) = none :=
    (Number.floatOrder_eq_none_iff _ _).mpr (.inl (by decide))
  have hord := orderedBy_numbers (s := ss.store) (by rw [ha]; rfl) (by rw [hb]; rfl)
    (by rw [ha]; rfl) (by rw [hb]; exact hone)
  rw [hnone] at hord
  have hA : IsPlainName "A" := by decide
  have hB : IsPlainName "B" := by decide
  have hlt : (ss.evaluate "A < B").2 = _ := evaluate_order ss .lt (by simp) hA hB rfl
  have heq : (ss.evaluate "A == B").2 = _ := evaluate_equals ss hA hB rfl
  have hgt : (ss.evaluate "A > B").2 = _ := evaluate_order ss .gt (by simp) hA hB rfl
  have hle : (ss.evaluate "A <= B").2 = _ := evaluate_order ss .lte (by simp) hA hB rfl
  rw [hlt, heq, hgt, hle, hord.compare_ab, hord.equals (by rw [ha]; rfl) (by rw [hb]; rfl)]
  exact ⟨rfl, rfl, rfl, rfl⟩

end Lang

end FieldRules
