import Mathlib
import FieldRules.Proofs.HostEquality
import FieldRules.Proofs.RuleOrder

/-! # Membership

Two tests of membership on bound values: the operator `X in C` and the library function
`contains(C, X)`. Both follow a shared reference, answer no for none and test text by
substring; on other values both run the host's membership test (`Store.hostContains`). The
operator guards that test twice: it takes only sequences, byte strings, dictionaries and sets as
collections, and it reads a type error of the test as no. The function has neither guard, so the
two differ exactly where a guard acts (`contains_matches_in_outside_guards`): a list looked up
in a set is no member to the operator and a failure to the function
(`contains_fails_where_in_says_no`), and a validated model, which the host iterates as its
(name, value) pairs, is no collection to the operator.

Membership in a list literal compares the item with each element as the host does, while `==`
compares two numbers as floats and a datetime with a date by the date. Where neither happens and
one side of each pair holds no other values (`HostEqualPair`), `X in [Y1, ..., Yn]` evaluates
exactly as `X == Y1 || ... || X == Yn` (`eval_memVars_eq_equalsAny`): both search the names in
order and stop at the first match or failure (`anyStep`). On integers membership is exact, so
above 2 ^ 53, where `==` rounds, the two part (`membership_exact_where_equality_rounds`). That
holds over stores without chains of references, which every run keeps
(`runStatements_chainless`). -/

namespace FieldRules

/-- The values the `in` operator takes as collections: sequences, byte strings, dictionaries
  and sets. -/
def Value.isCollection : Value → Bool
  | .list _ | .tuple _ | .deque _ | .bytes _ | .byteArray _ | .dict _ | .set _ | .frozenSet _ => true
  | _ => false

/-- Whether a value is a validated model. -/
def Value.isModel : Value → Bool
  | .record c _ => c.kind == .model
  | _ => false

namespace Lang

/-- A run of statements keeps the store without chains of references. -/
theorem runStatements_chainless (clock : Int) {store : Store} (sc : Scope) (sts : List Statement)
    (last : Value) (hs : store.Chainless) : (runStatements clock store sc sts last).1.Chainless := by
  -- a statement changes the store only by giving a bound value identity
  fun_induction runStatements clock store sc sts last
  case case1 | case2 | case4 => exact hs
  case case3 =>
    rename_i v _ _ _ hid ih
    have h := hs.withIdentity v
    rw [hid] at h
    exact ih h
  case case5 =>
    rename_i ih
    exact ih hs

theorem Session.bind_chainless {ss : Session} (hs : ss.store.Chainless) (n : String) (v : Value) :
    (ss.bind n v).store.Chainless :=
  hs.withIdentity v

theorem Session.evaluate_chainless {ss : Session} (hs : ss.store.Chainless) (source : String) :
    (ss.evaluate source).1.store.Chainless := by
  unfold Session.evaluate
  split
  · exact hs
  · exact runStatements_chainless ss.clock ss.scope _ .none hs

/-- The host's membership test as the `in` operator reads it: a type error means no, any other
  failure is an evaluation error. -/
def typeErrorAsNo : Except Fault Bool → Except EvalError Bool
  | .ok r => .ok r
  | .error (.typeError _) => .ok false
  | .error f => .error (.escaped f)

/-- Two evaluations that give one truth value, or both fail. -/
def SameVerdict (r₁ r₂ : Except EvalError Value) : Prop :=
  (∃ b, r₁ = .ok (.bool b) ∧ r₂ = .ok (.bool b)) ∨ (∃ e₁ e₂, r₁ = .error e₁ ∧ r₂ = .error e₂)

/-! ## The operator and the function, collection by collection -/

section Shapes

variable {s : Store} {item coll : Value}

theorem ruleIn_of_none (h : s.resolve coll = .none) : ruleIn s item coll = .ok false := by
  simp [ruleIn, h]

theorem holds_of_none (h : s.resolve coll = .none) : s.holds coll item = .ok false := by
  simp [Store.holds, h]

theorem ruleIn_of_str {t : String} (h : s.resolve coll = .str t) :
    ruleIn s item coll = (s.holds coll item).mapError .escaped := by
  simp only [ruleIn, Store.holds, h]
  split
  · rfl
  · cases s.display item <;> rfl

theorem ruleIn_of_collection (h : (s.resolve coll).isCollection) :
    ruleIn s item coll = typeErrorAsNo (s.hostContains coll item) := by
  cases hr : s.resolve coll <;> simp only [hr, Value.isCollection, Bool.false_eq_true] at h <;>
    simp only [ruleIn, hr] <;> rfl

theorem holds_of_collection (h : (s.resolve coll).isCollection) :
    s.holds coll item = s.hostContains coll item := by
  cases hr : s.resolve coll <;> simp only [hr, Value.isCollection, Bool.false_eq_true] at h <;>
    simp only [Store.holds, hr]

theorem ruleIn_of_other (hn : s.resolve coll ≠ .none) (ht : ∀ t, s.resolve coll ≠ .str t)
    (hc : (s.resolve coll).isCollection = false) :
    ruleIn s item coll = .error (.notCollection (s.resolve coll).typeName) := by
  unfold ruleIn
  split <;> simp_all [Value.isCollection]

theorem holds_of_other (hn : s.resolve coll ≠ .none) (ht : ∀ t, s.resolve coll ≠ .str t) :
    s.holds coll item = s.hostContains coll item := by
  unfold Store.holds
  split <;> simp_all

theorem hostContains_of_model {c : RecordClass} {slots : List Value}
    (h : s.resolve coll = .record c slots) (hm : c.kind = .model) :
    s.hostContains coll item = .ok (s.contains (c.fieldPairs slots) item) := by
  simp only [Store.hostContains, h, hm]
  rfl

/-- Beyond text, the collections of the operator and validated models, the host finds nothing
  to iterate. -/
theorem hostContains_of_other (ht : ∀ t, s.resolve coll ≠ .str t)
    (hc : (s.resolve coll).isCollection = false) (hm : (s.resolve coll).isModel = false) :
    ∃ m, s.hostContains coll item = .error (.typeError m) := by
  cases hr : s.resolve coll <;> simp only [hr, Value.isCollection, Value.isModel] at ht hc hm <;>
    simp_all [Store.hostContains]

/-- Where the operator and the function give the same answers, their evaluations agree. -/
theorem sameVerdict_of_iff (h : ∀ b, ruleIn s item coll = .ok b ↔ s.holds coll item = .ok b) :
    SameVerdict ((ruleIn s item coll).map Value.bool)
      (((s.holds coll item).map Value.bool).mapError (.callFailed "contains")) := by
  cases hin : ruleIn s item coll with
  | ok b => exact .inl ⟨b, rfl, by rw [(h b).1 hin]; rfl⟩
  | error e =>
    cases hc : s.holds coll item with
    | ok b => rw [(h b).2 hc] at hin; cases hin
    | error f => exact .inr ⟨_, _, rfl, rfl⟩

theorem sameVerdict_of_errors {e : EvalError} {f : Fault} (hin : ruleIn s item coll = .error e)
    (hc : s.holds coll item = .error f) :
    SameVerdict ((ruleIn s item coll).map Value.bool)
      (((s.holds coll item).map Value.bool).mapError (.callFailed "contains")) := by
  rw [hin, hc]
  exact .inr ⟨_, _, rfl, rfl⟩

end Shapes

/-! ## `X in C` and `contains(C, X)` -/

theorem eval_mem_vars (env : Env) (X C : String) :
    env.eval (.binary .mem (.var X) (.var C)) =
      (ruleIn env.store (env.scope.get X) (env.scope.get C)).map Value.bool := by
  show (do return Value.bool (← ruleIn env.store (env.scope.get X) (env.scope.get C))) = _
  cases ruleIn env.store (env.scope.get X) (env.scope.get C) <;> rfl

theorem eval_contains_vars (env : Env) (C X : String) :
    env.eval (.call "contains" [.var C, .var X]) =
      ((env.store.holds (env.scope.get C) (env.scope.get X)).map Value.bool).mapError
        (.callFailed "contains") := by
  have hb : Builtin.ofName? "contains" = some .contains := by decide
  simp only [Env.eval, hb, Env.evalList]
  rfl

/-- The `contains` function and the `in` operator on the values bound to two names. On a
  collection of the operator whose host membership test fails with a type error, the operator
  answers no and the function fails; on a validated model the operator fails and the function
  tests the model's (name, value) pairs. Everywhere else the two give the same truth value or
  both fail. -/
theorem contains_matches_in_outside_guards (env : Env) (C X : String) :
    let s := env.store
    let c := env.scope.get C
    let x := env.scope.get X
    let viaIn := env.eval (.binary .mem (.var X) (.var C))
    let viaCall := env.eval (.call "contains" [.var C, .var X])
    ((s.resolve c).isCollection → (∃ m, s.hostContains c x = .error (.typeError m)) →
      viaIn = .ok (.bool false) ∧ ∃ e, viaCall = .error e) ∧
    (∀ cls slots, s.resolve c = .record cls slots → cls.kind = .model →
      (∃ e, viaIn = .error e) ∧ viaCall = .ok (.bool (s.contains (cls.fieldPairs slots) x))) ∧
    (((s.resolve c).isCollection → ∀ m, s.hostContains c x ≠ .error (.typeError m)) →
      (s.resolve c).isModel = false → SameVerdict viaIn viaCall) := by
  intro s c x viaIn viaCall
  have hin : viaIn = (ruleIn s x c).map Value.bool := eval_mem_vars env X C
  have hcall : viaCall = ((s.holds c x).map Value.bool).mapError (.callFailed "contains") :=
    eval_contains_vars env C X
  refine ⟨fun hcol ⟨m, hm⟩ => ?_, fun cls slots hr hk => ?_, fun hnot hmod => ?_⟩
  · rw [hin, hcall, ruleIn_of_collection hcol, holds_of_collection hcol, hm]
    exact ⟨rfl, _, rfl⟩
  · have hn : s.resolve c ≠ .none := by simp [hr]
    have ht : ∀ t, s.resolve c ≠ .str t := by simp [hr]
    have hcol : (s.resolve c).isCollection = false := by simp [hr, Value.isCollection]
    rw [hin, hcall, ruleIn_of_other hn ht hcol, holds_of_other hn ht, hostContains_of_model hr hk]
    exact ⟨⟨_, rfl⟩, rfl⟩
  rw [hin, hcall]
  -- the shape of the collection decides which guard of the operator applies
  by_cases hn : s.resolve c = .none
  · exact sameVerdict_of_iff (by simp [ruleIn_of_none hn, holds_of_none hn])
  by_cases ht : ∃ t, s.resolve c = .str t
  · obtain ⟨t, ht⟩ := ht
    refine sameVerdict_of_iff fun b => ?_
    rw [ruleIn_of_str ht]
    cases s.holds c x <;> simp [Except.mapError]
  simp only [not_exists] at ht
  cases hcol : (s.resolve c).isCollection
  · obtain ⟨m, hm⟩ : ∃ m, s.hostContains c x = .error (.typeError m) :=
      hostContains_of_other ht hcol hmod
    exact sameVerdict_of_errors (ruleIn_of_other hn ht hcol) (by rw [holds_of_other hn ht, hm])
  · refine sameVerdict_of_iff fun b => ?_
    rw [ruleIn_of_collection hcol, holds_of_collection hcol]
    cases hh : s.hostContains c x with
    | ok r => simp [typeErrorAsNo]
    | error f => cases f <;> simp_all [typeErrorAsNo]

/-- A list looked up in a set: `in` says no, `contains` fails on the unhashable item. -/
theorem contains_fails_where_in_says_no :
    let env : Env := ⟨{}, ⟨[("C", .set [.int 1]), ("X", .list [.int 1])]⟩, 0⟩
    ¬SameVerdict (env.eval (.binary .mem (.var "X") (.var "C")))
      (env.eval (.call "contains" [.var "C", .var "X"])) := by
  intro env
  have hx : env.store.unhashable (.list [.int 1]) = some (refusedType "list") := by
    simp [Store.unhashable, Store.unhashablePart]
  have hh : env.store.hostContains (.set [.int 1]) (.list [.int 1]) =
      .error (.typeError (refusedType "list")) := by
    simp [Store.hostContains, Store.resolve, hx, unhashableFault]
  have hcol : (env.store.resolve (.set [.int 1])).isCollection := rfl
  have hin : env.eval (.binary .mem (.var "X") (.var "C")) = .ok (.bool false) := by
    rw [eval_mem_vars]
    show (ruleIn env.store (.list [.int 1]) (.set [.int 1])).map Value.bool = _
    rw [ruleIn_of_collection hcol, hh]
    rfl
  have hcall : env.eval (.call "contains" [.var "C", .var "X"]) =
      .error (.callFailed "contains" (.typeError (refusedType "list"))) := by
    rw [eval_contains_vars]
    show ((env.store.holds (.set [.int 1]) (.list [.int 1])).map Value.bool).mapError _ = _
    rw [holds_of_collection hcol, hh]
    rfl
  rintro (⟨b, h₁, h₂⟩ | ⟨e₁, e₂, h₁, h₂⟩)
  · rw [hcall] at h₂; cases h₂
  · rw [hin] at h₁; cases h₁

/-! ## `==` as the host's equality -/

/-- Whether one value is a datetime and the other a plain date. -/
def dateMix : Value → Value → Bool
  | .dateTime _, .date _ | .date _, .dateTime _ => true
  | _, _ => false

/-- Two values on which the `==` of rules is the host's equality: not two numbers of rule
  arithmetic, which `==` compares as floats, not a datetime and a date, which `==` compares by
  the date, and not two values that a comparison looks into. -/
structure HostEqualPair (s : Store) (x y : Value) : Prop where
  notNumbers : ((s.resolve x).isRuleNumber && (s.resolve y).isRuleNumber) = false
  notDateMix : dateMix (s.resolve x) (s.resolve y) = false
  notCompound : (s.resolve x).isCompound = false ∨ (s.resolve y).isCompound = false

section HostEquality

variable {s : Store} {x y : Value}

theorem ruleEquals_of_resolved (hx : s.resolve x ≠ .none) (hy : s.resolve y ≠ .none)
    (hn : ((s.resolve x).isRuleNumber && (s.resolve y).isRuleNumber) = false) :
    ruleEquals s x y =
      match alignDates (s.resolve x) (s.resolve y) with
      | some (da, db) => .ok (s.equal da db)
      | none => (s.ruleEqual x y).mapError .escaped := by
  unfold ruleEquals
  split
  · contradiction
  · contradiction
  · contradiction
  · -- the statement's match and the definition's are one up to unfolding
    exact (if_neg (by simp [hn])).trans rfl

theorem ruleEquals_of_none (h : s.resolve x = .none ∨ s.resolve y = .none) :
    ruleEquals s x y = .ok (s.isNone x && s.isNone y) := by
  unfold ruleEquals Store.isNone
  split <;> simp_all

theorem alignDates_same {a b da db : Value} (h : alignDates a b = some (da, db))
    (hm : dateMix a b = false) : da = a ∧ db = b := by
  unfold alignDates at h
  split at h <;> simp_all [dateMix]

/-- Only dates and datetimes align, and none of them signals or looks inside. -/
theorem alignDates_leaf {a b da db : Value} (h : alignDates a b = some (da, db)) :
    a.isCompound = false ∧ signalsOnEquality a b = false := by
  unfold alignDates at h
  split at h <;> simp_all [Value.isCompound, signalsOnEquality, Value.isSignalingNaN]

/-- A date or datetime aligned with itself is equal to itself. -/
theorem equal_of_alignDates_self {a da db : Value} (h : alignDates a a = some (da, db)) :
    s.equal da db = true := by
  cases a <;> simp only [alignDates, reduceCtorEq] at h
  · obtain ⟨rfl, rfl⟩ := Prod.mk.inj (Option.some.inj h)
    rw [s.equal_date, (Time.Date.beq_iff _ _).2 rfl]
  · obtain ⟨rfl, rfl⟩ := Prod.mk.inj (Option.some.inj h)
    rw [s.equal_dateTime]
    unfold dateTimeEq
    rename_i t
    cases t.offset <;> simp

/-- Two references to one stored value are equal, unless it is a number of rule arithmetic. -/
theorem ruleEquals_same (l : Nat)
    (hn : ((s.resolve (.shared l)).isRuleNumber && (s.resolve (.shared l)).isRuleNumber) = false) :
    ruleEquals s (.shared l) (.shared l) = .ok true := by
  by_cases h0 : s.resolve (.shared l) = .none
  · rw [ruleEquals_of_none (.inl h0)]
    simp [Store.isNone, h0]
  rw [ruleEquals_of_resolved h0 h0 hn]
  split
  · rename_i da db had
    exact congrArg Except.ok (equal_of_alignDates_self had)
  · rw [Store.ruleEqual, Store.eqvSignaling_same]
    rfl

/-- Equality with none, once each reference is followed, asks whether both are none. -/
theorem eqv_of_none (hs : s.Chainless) (k : Nat) (h : s.resolve x = .none ∨ s.resolve y = .none) :
    s.eqv k (s.resolve y) (s.resolve x) = (s.isNone x && s.isNone y) := by
  have hc : (s.resolve y).isCompound = false ∨ (s.resolve x).isCompound = false := by
    rcases h with h | h <;> simp [h, Value.isCompound]
  rcases h with h | h
  · have hx : s.isNone x = true := by simp [Store.isNone, h]
    rw [Store.eqv_leaf_swap k 0 (hs.resolve y) (hs.resolve x) hc, h,
      Store.eqv_none_left 0 (hs.resolve y), Store.isNone_resolve hs, hx, Bool.true_and]
  · have hy : s.isNone y = true := by simp [Store.isNone, h]
    rw [h, Store.eqv_none_left k (hs.resolve x), Store.isNone_resolve hs, hy, Bool.and_true]

/-- Two values other than two references to one stored value, one of which holds no others,
  compare as the host does once each reference is followed. -/
theorem eqvSignaling_of_leaf (hs : s.Chainless)
    (hc : (s.resolve x).isCompound = false ∨ (s.resolve y).isCompound = false)
    (hne : ∀ l, ¬(x = .shared l ∧ y = .shared l)) (k : Nat) :
    ∃ k', s.eqvSignaling (k + 1) x y =
      if signalsOnEquality (s.resolve x) (s.resolve y) then .error (.decimal .invalidOperation)
      else .ok (s.eqv k' (s.resolve x) (s.resolve y)) := by
  obtain ⟨k', hk'⟩ := Store.eqvSignaling_follow (s := s) k hne
  exact ⟨k', by rw [hk', Store.eqvSignaling_leaf k' (hs.resolve x) (hs.resolve y) hc]⟩

/-- The only failure of such a comparison is a signaling NaN's. -/
theorem eqvSignaling_hostPair_error (hs : s.Chainless) (hp : HostEqualPair s x y) (k : Nat)
    {e : Fault} (h : s.eqvSignaling (k + 1) y x = .error e) : e = .decimal .invalidOperation := by
  by_cases hsame : ∃ l, y = .shared l ∧ x = .shared l
  · obtain ⟨l, rfl, rfl⟩ := hsame
    rw [Store.eqvSignaling_same] at h
    cases h
  obtain ⟨k', hk'⟩ := eqvSignaling_of_leaf hs hp.notCompound.symm (fun l h => hsame ⟨l, h⟩) k
  rw [hk'] at h
  split at h
  · cases h
    rfl
  · cases h

/-- On a pair where `==` is the host's equality, `==` compares as membership does: the item of
  the list against the value looked for, following each reference once. -/
theorem ruleEquals_eq_host (hs : s.Chainless) (hp : HostEqualPair s x y) (k : Nat) :
    ruleEquals s x y = (s.eqvSignaling (k + 1) y x).mapError .escaped := by
  by_cases hsame : ∃ l, x = .shared l ∧ y = .shared l
  · obtain ⟨l, rfl, rfl⟩ := hsame
    rw [ruleEquals_same l hp.notNumbers, Store.eqvSignaling_same]
    rfl
  have hne : ∀ l, ¬(x = .shared l ∧ y = .shared l) := fun l h => hsame ⟨l, h⟩
  obtain ⟨k', hk'⟩ := eqvSignaling_of_leaf hs hp.notCompound.symm (fun l h => hsame ⟨l, h.2, h.1⟩) k
  rw [hk']
  by_cases h0 : s.resolve x = .none ∨ s.resolve y = .none
  · have hsig : signalsOnEquality (s.resolve y) (s.resolve x) = false := by
      rcases h0 with h | h <;>
        simp [h, signalsOnEquality, Value.isSignalingNaN, Value.comparesAsNumber]
    rw [ruleEquals_of_none h0, hsig, if_neg Bool.false_ne_true, eqv_of_none hs k' h0]
    rfl
  simp only [not_or] at h0
  have hc := hp.notCompound
  rw [ruleEquals_of_resolved h0.1 h0.2 hp.notNumbers, signalsOnEquality_comm]
  split
  · -- a date against a date, or a datetime against a datetime
    rename_i da db had
    obtain ⟨rfl, rfl⟩ := alignDates_same had hp.notDateMix
    rw [(alignDates_leaf had).2, if_neg Bool.false_ne_true, Store.equal,
      Store.eqv_leaf_swap _ k' (hs.resolve x) (hs.resolve y) hc]
    rfl
  · obtain ⟨b, hb⟩ := Nat.exists_eq_add_one.2 (s.compareBudget_pos x y)
    obtain ⟨k'', hk''⟩ := eqvSignaling_of_leaf hs hc hne b
    rw [Store.ruleEqual, hb, hk'', Store.eqv_leaf_swap k'' k' (hs.resolve x) (hs.resolve y) hc]

end HostEquality

/-! ## Searching a list -/

/-- One step of a search through a list from the left: a match already found stands, otherwise
  the next item is checked. -/
def anyStep {α ε : Type} (check : α → Except ε Bool) (found : Bool) (a : α) : Except ε Bool :=
  if found then .ok true else check a

section Search

variable {α ε ε' : Type}

theorem foldlM_anyStep_true (check : α → Except ε Bool) (items : List α) :
    items.foldlM (anyStep check) true = .ok true := by
  induction items with
  | nil => rfl
  | cons a items ih =>
    rw [List.foldlM_cons]
    exact ih

/-- A search whose checks all answer finds what `List.any` finds. -/
theorem foldlM_anyStep_ok {check : α → Except ε Bool} {p : α → Bool} {items : List α}
    (h : ∀ a ∈ items, check a = .ok (p a)) (found : Bool) :
    items.foldlM (anyStep check) found = .ok (found || items.any p) := by
  induction items generalizing found with
  | nil => simp only [List.any_nil, Bool.or_false]; rfl
  | cons a items ih =>
    cases found
    · rw [List.foldlM_cons]
      simp only [anyStep, Bool.false_eq_true, if_false, h a List.mem_cons_self]
      refine (ih (fun a' ha' => h a' (List.mem_cons_of_mem a ha')) (p a)).trans ?_
      simp
    · rw [foldlM_anyStep_true]
      rfl

/-- Two searches whose checks agree on the items up to a renaming of failures agree up to that
  renaming. -/
theorem foldlM_anyStep_mapError (g : ε → ε') {check : α → Except ε Bool}
    {check' : α → Except ε' Bool} {items : List α} (h : ∀ a ∈ items, check' a = (check a).mapError g)
    (found : Bool) :
    items.foldlM (anyStep check') found = (items.foldlM (anyStep check) found).mapError g := by
  induction items generalizing found with
  | nil => rfl
  | cons a items ih =>
    cases found
    · have ih' := ih (fun a' ha' => h a' (List.mem_cons_of_mem a ha'))
      simp only [List.foldlM_cons, anyStep, Bool.false_eq_true, if_false, h a List.mem_cons_self]
      cases check a with
      | ok b => exact ih' b
      | error e => rfl
    · rw [foldlM_anyStep_true, foldlM_anyStep_true]
      rfl

/-- A failed search failed on one of the items. -/
theorem foldlM_anyStep_error {check : α → Except ε Bool} {items : List α} {found : Bool} {e : ε}
    (h : items.foldlM (anyStep check) found = .error e) : ∃ a ∈ items, check a = .error e := by
  induction items generalizing found with
  | nil => cases h
  | cons a items ih =>
    cases found
    · rw [List.foldlM_cons] at h
      cases hc : check a with
      | ok b =>
        simp only [anyStep, hc, Bool.false_eq_true, if_false] at h
        obtain ⟨a', ha', he⟩ := ih h
        exact ⟨a', List.mem_cons_of_mem a ha', he⟩
      | error e' =>
        simp only [anyStep, hc, Bool.false_eq_true, if_false] at h
        cases h
        exact ⟨a, List.mem_cons_self, hc⟩
    · rw [foldlM_anyStep_true] at h
      cases h

end Search

/-- A membership answer with no type error reads as the host's answer. -/
theorem typeErrorAsNo_of_ne {r : Except Fault Bool} (h : ∀ m, r ≠ .error (.typeError m)) :
    typeErrorAsNo r = r.mapError .escaped := by
  rcases r with f | b
  · cases f <;> first | rfl | exact absurd rfl (h _)
  · rfl

/-! ## `X in [Y1, ..., Yn]` and `X == Y1 || ... || X == Yn` -/

/-- The rule `X == Y`. -/
def equalsVar (X Y : String) : Expr := .binary .eq (.var X) (.var Y)

/-- The rule `X == Y1 || ... || X == Yn`, grouped from the left; false when there is no name. -/
def equalsAny (X : String) : List String → Expr
  | [] => .lit (.bool false)
  | Y :: Ys => Ys.foldl (fun e Y' => .binary .or e (equalsVar X Y')) (equalsVar X Y)

/-- The rule `X in [Y1, ..., Yn]`, or `X not in [Y1, ..., Yn]`. -/
def memVars (op : BinOp) (X : String) (Ys : List String) : Expr :=
  .binary op (.var X) (.array (Ys.map .var))

section Eval

variable (env : Env) (X : String)

theorem evalList_vars (Ys : List String) :
    env.evalList (Ys.map .var) = .ok (Ys.map env.scope.get) := by
  induction Ys with
  | nil => rfl
  | cons Y Ys ih =>
    simp only [List.map_cons, Env.evalList, ih]
    rfl

theorem eval_mem_array (Ys : List String) :
    env.eval (memVars .mem X Ys) =
      (ruleIn env.store (env.scope.get X) (.list (Ys.map env.scope.get))).map Value.bool := by
  simp only [memVars, Env.eval, evalList_vars]
  show applyBinary env.store .mem (env.scope.get X) (.list (Ys.map env.scope.get)) = _
  simp only [applyBinary]
  cases ruleIn env.store (env.scope.get X) (.list (Ys.map env.scope.get)) <;> rfl

theorem eval_notMem_array (Ys : List String) :
    env.eval (memVars .notMem X Ys) =
      (ruleIn env.store (env.scope.get X) (.list (Ys.map env.scope.get))).map (Value.bool ∘ not) := by
  simp only [memVars, Env.eval, evalList_vars]
  show applyBinary env.store .notMem (env.scope.get X) (.list (Ys.map env.scope.get)) = _
  simp only [applyBinary]
  cases ruleIn env.store (env.scope.get X) (.list (Ys.map env.scope.get)) <;> rfl

theorem eval_equalsVar (Y : String) :
    env.eval (equalsVar X Y) =
      (ruleEquals env.store (env.scope.get X) (env.scope.get Y)).map Value.bool := by
  show (do return Value.bool (← ruleEquals env.store (env.scope.get X) (env.scope.get Y))) = _
  cases ruleEquals env.store (env.scope.get X) (env.scope.get Y) <;> rfl

/-- `==` of `X` with the value bound to a name: the check of the search `equalsAny` makes. -/
abbrev equalsCheck (Y : String) : Except EvalError Bool :=
  ruleEquals env.store (env.scope.get X) (env.scope.get Y)

theorem eval_or_equalsVar (Y : String) {e : Expr} {r : Except EvalError Bool}
    (he : env.eval e = r.map Value.bool) :
    env.eval (.binary .or e (equalsVar X Y)) =
      (r >>= fun found => anyStep (equalsCheck env X) found Y).map Value.bool := by
  simp only [Env.eval, he, eval_equalsVar]
  rcases r with e | found
  · rfl
  · cases found
    · simp only [anyStep, equalsCheck]
      cases ruleEquals env.store (env.scope.get X) (env.scope.get Y) <;> rfl
    · rfl

/-- A chain of `||` over `==` grouped from the left searches its names in order. -/
theorem eval_foldl_or (Ys : List String) {e : Expr} {r : Except EvalError Bool}
    (he : env.eval e = r.map Value.bool) :
    env.eval (Ys.foldl (fun e Y => .binary .or e (equalsVar X Y)) e) =
      (r >>= fun found => Ys.foldlM (anyStep (equalsCheck env X)) found).map Value.bool := by
  induction Ys generalizing e r with
  | nil => simp [he]
  | cons Y Ys ih =>
    rw [List.foldl_cons, ih (eval_or_equalsVar env X Y he), bind_assoc]
    rfl

theorem eval_equalsAny (Ys : List String) :
    env.eval (equalsAny X Ys) = (Ys.foldlM (anyStep (equalsCheck env X)) false).map Value.bool := by
  cases Ys with
  | nil => rfl
  | cons Y Ys =>
    rw [equalsAny, eval_foldl_or env X Ys (eval_equalsVar env X Y), List.foldlM_cons]
    rfl

/-- Membership in a list literal is the host's search of the list, with a budget of at least
  one step. -/
theorem ruleIn_list (Ys : List String) :
    ∃ k, ruleIn env.store (env.scope.get X) (.list (Ys.map env.scope.get)) = typeErrorAsNo
      (Ys.foldlM (anyStep fun Y => env.store.eqvSignaling (k + 1) (env.scope.get Y) (env.scope.get X))
        false) := by
  obtain ⟨k, hk⟩ := Nat.exists_eq_add_one.2
    (env.store.compareBudget_pos (.list (Ys.map env.scope.get)) (env.scope.get X))
  refine ⟨k, ?_⟩
  rw [ruleIn_of_collection rfl]
  simp only [Store.hostContains, Store.resolve, Store.containsSignaling, hk]
  rw [List.foldlM_map]
  rfl

end Eval

/-- Over a store without chains of references, `X in [Y1, ..., Yn]` evaluates as
  `X == Y1 || ... || X == Yn` when `==` is the host's equality on every pair. -/
theorem eval_memVars_eq_equalsAny (env : Env) (hs : env.store.Chainless) (X : String)
    (Ys : List String) (hp : ∀ Y ∈ Ys, HostEqualPair env.store (env.scope.get X) (env.scope.get Y)) :
    env.eval (memVars .mem X Ys) = env.eval (equalsAny X Ys) := by
  rw [eval_mem_array, eval_equalsAny]
  congr 1
  obtain ⟨k, hk⟩ := ruleIn_list env X Ys
  -- the host's search fails only on a signaling NaN, never with a type error
  have hno : ∀ m, Ys.foldlM (anyStep fun Y => env.store.eqvSignaling (k + 1) (env.scope.get Y)
      (env.scope.get X)) false ≠ .error (.typeError m) := by
    intro m h
    obtain ⟨Y, hY, he⟩ := foldlM_anyStep_error h
    cases eqvSignaling_hostPair_error hs (hp Y hY) k he
  rw [hk, typeErrorAsNo_of_ne hno,
    foldlM_anyStep_mapError EvalError.escaped fun Y hY => ruleEquals_eq_host hs (hp Y hY) k]

/-- On integers membership is exact. -/
theorem eval_memVars_ints (env : Env) (X : String) (Ys : List String) (m : Int) (ns : List Int)
    (hx : env.scope.get X = .int m) (hys : Ys.map env.scope.get = ns.map Value.int) :
    env.eval (memVars .mem X Ys) = .ok (.bool (decide (m ∈ ns))) := by
  -- whether a value is the integer `m`
  let isM : Value → Bool := fun v => match v with
    | .int n => decide (n = m)
    | _ => false
  obtain ⟨k, hk⟩ := ruleIn_list env X Ys
  have hsearch : Ys.foldlM (anyStep fun Y => env.store.eqvSignaling (k + 1) (env.scope.get Y)
      (env.scope.get X)) false = .ok (Ys.any (isM ∘ env.scope.get)) := by
    rw [foldlM_anyStep_ok (p := isM ∘ env.scope.get), Bool.false_or]
    intro Y hY
    obtain ⟨n, -, hn⟩ := List.mem_map.1 (hys ▸ List.mem_map_of_mem hY : env.scope.get Y ∈ _)
    show _ = Except.ok (isM (env.scope.get Y))
    rw [hx, ← hn, Store.eqvSignaling_leaf (k + 1) rfl rfl (.inl rfl), Store.eqv_ints]
    rfl
  have hany : Ys.any (isM ∘ env.scope.get) = decide (m ∈ ns) := by
    rw [← List.any_map, hys, List.any_map, Bool.eq_iff_iff, List.any_eq_true, decide_eq_true_iff]
    constructor
    · rintro ⟨n, hn, he⟩
      have : n = m := of_decide_eq_true he
      exact this ▸ hn
    · exact fun h => ⟨m, h, decide_eq_true rfl⟩
  rw [eval_mem_array, hk, hsearch, hany]
  rfl

/-- Membership in a list literal and equality. `X not in [Y1, ..., Yn]` is the negation of
  `X in [Y1, ..., Yn]`. Over a store without chains of references, where every pair is one on
  which `==` is the host's equality, `X in [Y1, ..., Yn]` evaluates exactly as
  `X == Y1 || ... || X == Yn`, and so is false for no names. On integers membership is exact
  integer equality. -/
theorem membership_agrees_with_equality_on_host_pairs (env : Env) (hs : env.store.Chainless)
    (X : String) (Ys : List String) :
    (∃ r : Except EvalError Bool, env.eval (memVars .mem X Ys) = r.map Value.bool ∧
      env.eval (memVars .notMem X Ys) = r.map (Value.bool ∘ not)) ∧
    ((∀ Y ∈ Ys, HostEqualPair env.store (env.scope.get X) (env.scope.get Y)) →
      env.eval (memVars .mem X Ys) = env.eval (equalsAny X Ys)) ∧
    (∀ (m : Int) (ns : List Int), env.scope.get X = .int m → Ys.map env.scope.get = ns.map .int →
      env.eval (memVars .mem X Ys) = .ok (.bool (decide (m ∈ ns)))) :=
  ⟨⟨_, eval_mem_array env X Ys, eval_notMem_array env X Ys⟩,
    eval_memVars_eq_equalsAny env hs X Ys, eval_memVars_ints env X Ys⟩

/-- An integer and a text form a pair on which `==` is the host's equality, so there membership
  is the disjunction of the equalities. -/
theorem membership_agrees_with_equality_on_empty_store :
    let env : Env := ⟨{}, ⟨[("X", .int 1), ("Y", .str "a")]⟩, 0⟩
    env.store.Chainless ∧
      (∀ Y ∈ ["Y"], HostEqualPair env.store (env.scope.get "X") (env.scope.get Y)) ∧
      env.eval (memVars .mem "X" ["Y"]) = env.eval (equalsAny "X" ["Y"]) := by
  intro env
  have hpair : ∀ Y ∈ ["Y"], HostEqualPair env.store (env.scope.get "X") (env.scope.get Y) := by
    intro Y hY
    rw [List.mem_singleton.1 hY]
    exact ⟨rfl, rfl, .inl rfl⟩
  exact ⟨Store.Chainless.empty, hpair,
    (membership_agrees_with_equality_on_host_pairs env Store.Chainless.empty "X" ["Y"]).2.1 hpair⟩

/-- Above 2 ^ 53 `==` compares integers as their floats, which round to one value, while
  membership compares them exactly. -/
theorem membership_exact_where_equality_rounds :
    let env : Env := ⟨{}, ⟨[("X", .int (2 ^ 53 + 1)), ("Y", .int (2 ^ 53))]⟩, 0⟩
    env.eval (memVars .mem "X" ["Y"]) = .ok (.bool false) ∧
      env.eval (equalsAny "X" ["Y"]) = .ok (.bool true) := by
  intro env
  have hx : (Value.int (2 ^ 53 + 1)).toFloat = .ok (Number.floatOfInt (2 ^ 53 + 1)) := by
    simp only [Value.toFloat]
    unfold floatOfIntChecked Number.floatOfInt
    dsimp only
    rw [Number.isInfinite_nearestFloat, if_neg (by decide)]
  have hy : (Value.int (2 ^ 53)).toFloat = .ok (Number.floatOfInt (2 ^ 53)) := by
    simp only [Value.toFloat]
    exact Number.floatOfIntChecked_small (2 ^ 53) (by decide)
  have heq : ruleEquals env.store (.int (2 ^ 53 + 1)) (.int (2 ^ 53)) = .ok true := by
    rw [ruleEquals_of_numbers rfl rfl]
    show (floatPair (.int (2 ^ 53 + 1)) (.int (2 ^ 53))).map _ = _
    rw [(floatPair_eq_ok (p := (Number.floatOfInt (2 ^ 53 + 1), Number.floatOfInt (2 ^ 53)))).mpr ⟨hx, hy⟩]
    exact congrArg Except.ok (by decide)
  refine ⟨?_, ?_⟩
  · rw [eval_memVars_ints env "X" ["Y"] (2 ^ 53 + 1) [2 ^ 53] rfl rfl]
    exact congrArg (fun b => Except.ok (Value.bool b)) (by decide)
  · show env.eval (equalsVar "X" "Y") = _
    rw [eval_equalsVar]
    show (ruleEquals env.store (.int (2 ^ 53 + 1)) (.int (2 ^ 53))).map Value.bool = _
    rw [heq]
    rfl

end Lang

end FieldRules
