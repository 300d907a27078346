import Mathlib
import FieldRules.Proofs.HostOrder
import FieldRules.Value.Access

/-! # Host equality on values that hold no others

Equality of host values (`Store.eqv`) follows shared references and looks into containers.
Between two values of which at least one is a leaf, neither a reference nor a container, one
step decides, and that step is symmetric (`Store.eqv_leaf_comm`); the signaling comparison of
the rule language differs from it only by refusing a signaling NaN compared with a number
(`Store.eqvSignaling_leaf`).

A store is without chains (`Store.Chainless`) when none of its cells is itself a reference:
following a reference once then reaches a value, so a comparison that starts on references
compares the values behind them after one step (`Store.eqvSignaling_follow`). Giving values
identity stores only self-unequal numbers, so it keeps a store without chains
(`Store.Chainless.withIdentity`). -/

namespace FieldRules

/-- Whether a value is a reference to a stored value. -/
def Value.isShared : Value → Bool
  | .shared _ => true
  | _ => false

/-- The values that equality looks into: containers, records, weak references and enumeration
  members. -/
def Value.isCompound : Value → Bool
  | .list _ | .tuple _ | .deque _ | .set _ | .frozenSet _ | .dict _ | .record .. | .weakRef _
  | .enumMember .. => true
  | _ => false

theorem Value.isShared_or (v : Value) : v.isShared = false ∨ ∃ l, v = .shared l := by
  cases v <;> simp [Value.isShared]

theorem Value.isShared_of_isSelfUnequal {v : Value} (h : v.isSelfUnequal) :
    v.isShared = false := by
  cases v <;> simp_all [Value.isSelfUnequal, Value.isShared]

/-! ## Symmetric comparisons of leaves -/

theorem ExtReal.eq_comm (a b : ExtReal) : a.eq b = b.eq a := by
  cases a <;> cases b <;> try rfl
  simp only [ExtReal.eq, ExtReal.cmp]
  rw [Bool.eq_iff_iff]
  simp only [beq_iff_eq, Option.some.injEq, compare_eq_iff_eq]
  exact ⟨Eq.symm, Eq.symm⟩

theorem Time.Clock.beq_iff (x y : Time.Clock) : (x == y) = true ↔ x = y := by
  obtain ⟨a, b, c, d⟩ := x
  obtain ⟨e, f, g, h⟩ := y
  show (a == e && (b == f && (c == g && d == h))) = true ↔ _
  simp

theorem Time.Duration.beq_iff (x y : Time.Duration) : (x == y) = true ↔ x = y := by
  obtain ⟨a, b, c⟩ := x
  obtain ⟨d, e, f⟩ := y
  show (a == d && (b == e && c == f)) = true ↔ _
  simp

theorem beq_comm_of_iff {α : Type} [BEq α] (h : ∀ x y : α, (x == y) = true ↔ x = y) (x y : α) :
    (x == y) = (y == x) := by
  rw [Bool.eq_iff_iff, h, h, eq_comm]

theorem lawful_beq_comm {α : Type} [BEq α] [LawfulBEq α] (x y : α) : (x == y) = (y == x) :=
  beq_comm_of_iff (fun _ _ => beq_iff_eq) x y

theorem dateTimeEq_comm (a b : Time.DateTime) : dateTimeEq a b = dateTimeEq b a := by
  unfold dateTimeEq
  cases a.offset <;> cases b.offset <;> simp only [lawful_beq_comm]

theorem timeEq_comm (a b : Time.TimeOfDay) : timeEq a b = timeEq b a := by
  unfold timeEq
  cases a.offset <;> cases b.offset <;> simp only [beq_comm_of_iff Time.Clock.beq_iff a.clock,
    beq_comm_of_iff (fun x y => beq_iff_eq (a := x) (b := y))]

theorem signalsOnEquality_comm (a b : Value) : signalsOnEquality a b = signalsOnEquality b a := by
  simp only [signalsOnEquality, Bool.or_comm]

namespace Store

variable {s : Store}

/-! ## Stores without chains of references -/

/-- A store none of whose cells is itself a reference. -/
def Chainless (s : Store) : Prop := ∀ l v, s.get? l = some v → v.isShared = false

theorem resolve_of_not_shared {v : Value} (h : v.isShared = false) : s.resolve v = v := by
  cases v <;> simp_all [Value.isShared, resolve]

theorem Chainless.resolve (hs : s.Chainless) (v : Value) : (s.resolve v).isShared = false := by
  rcases v.isShared_or with h | ⟨l, rfl⟩
  · rwa [resolve_of_not_shared h]
  · simp only [Store.resolve]
    cases hl : s.get? l with
    | none => rfl
    | some w => exact hs l w hl

theorem isNone_resolve (hs : s.Chainless) (v : Value) : s.isNone (s.resolve v) = s.isNone v := by
  unfold isNone
  rw [resolve_of_not_shared (hs.resolve v)]

theorem Chainless.empty : Store.Chainless {} := by
  intro l v h
  simp [get?] at h

theorem Chainless.add {v : Value} (hs : s.Chainless) (hv : v.isShared = false) :
    (s.add v).1.Chainless := by
  intro l w h
  change (s.cells.push v)[l]? = some w at h
  rw [Array.getElem?_push] at h
  split at h
  · cases h
    exact hv
  · exact hs l w h

/-- Identity for a value that holds no others: a self-unequal number is stored, anything else
  stands for itself. -/
theorem withIdentity_of_leaf {v : Value} (h1 : ∀ xs, v = .list xs → False)
    (h2 : ∀ xs, v = .tuple xs → False) (h3 : ∀ xs, v = .set xs → False)
    (h4 : ∀ xs, v = .frozenSet xs → False) (h5 : ∀ xs, v = .deque xs → False)
    (h6 : ∀ c xs, v = .record c xs → False) (h7 : ∀ es, v = .dict es → False) :
    s.withIdentity v = if v.isSelfUnequal then ((s.add v).1, .shared (s.add v).2) else (s, v) := by
  rw [withIdentity.eq_def]
  split
  · exact (h1 _ rfl).elim
  · exact (h2 _ rfl).elim
  · exact (h3 _ rfl).elim
  · exact (h4 _ rfl).elim
  · exact (h5 _ rfl).elim
  · exact (h6 _ _ rfl).elim
  · exact (h7 _ rfl).elim
  · rfl

/-- A property of stores that storing a self-unequal number keeps, giving a value identity
  keeps. -/
theorem withIdentity_keeps (P : Store → Prop)
    (hadd : ∀ s v, v.isSelfUnequal = true → P s → P (s.add v).1) (s : Store) (v : Value)
    (hs : P s) : P (s.withIdentity v).1 := by
  -- one induction over the three functions that give identity: values, lists and entries
  refine Store.withIdentity.induct (fun s v => P s → P (s.withIdentity v).1)
    (fun s es => P s → P (s.withIdentityEntries es).1)
    (fun s xs => P s → P (s.withIdentityAll xs).1)
    ?list ?tuple ?set ?frozenSet ?deque ?record ?dict ?selfUnequal ?plain ?nil ?cons ?entriesNil
    ?entriesCons s v hs
  case list | tuple | set | frozenSet | deque =>
    intro s xs s' ys h ih hs
    rw [withIdentity.eq_def]
    simpa [h] using ih hs
  case record =>
    intro s c xs s' ys h ih hs
    rw [withIdentity.eq_def]
    simpa [h] using ih hs
  case dict =>
    intro s es s' fs h ih hs
    rw [withIdentity.eq_def]
    simpa [h] using ih hs
  case selfUnequal =>
    intro s v h1 h2 h3 h4 h5 h6 h7 hv _ _ _ hs
    rw [withIdentity_of_leaf h1 h2 h3 h4 h5 h6 h7, if_pos hv]
    exact hadd s v hv hs
  case plain =>
    intro s v h1 h2 h3 h4 h5 h6 h7 hv hs
    rw [withIdentity_of_leaf h1 h2 h3 h4 h5 h6 h7, if_neg hv]
    exact hs
  case nil | entriesNil => exact fun s hs => hs
  case cons =>
    intro s x xs s₁ y h s₂ ys h' ih ih' hs
    simpa [withIdentityAll, h, h'] using ih' (by simpa [h] using ih hs)
  case entriesCons =>
    intro s k v es s₁ y h s₂ y' h' s₃ fs h'' ih ih' ih'' hs
    simpa [withIdentityEntries, h, h', h''] using
      ih'' (by simpa [h'] using ih' (by simpa [h] using ih hs))

/-- Giving a value identity stores only self-unequal numbers, never a reference. -/
theorem Chainless.withIdentity (hs : s.Chainless) (v : Value) : (s.withIdentity v).1.Chainless :=
  withIdentity_keeps Store.Chainless (fun _ _ hv ht => ht.add (Value.isShared_of_isSelfUnequal hv))
    s v hs

/-! ## One step of a comparison -/

/-- Between two leaves, or a leaf and a container, equality is one symmetric step that no
  budget limits. -/
theorem eqv_leaf_comm (k : Nat) {a b : Value} (ha : a.isShared = false) (hb : b.isShared = false)
    (hc : a.isCompound = false ∨ b.isCompound = false) : s.eqv k a b = s.eqv 0 b a := by
  cases a <;> simp only [Value.isShared, Bool.true_eq_false] at ha <;>
    cases b <;> simp only [Value.isShared, Value.isCompound, Bool.true_eq_false, or_self] at hb hc <;>
    (rw [Store.eqv.eq_def, Store.eqv.eq_def]) <;>
    simp only [Value.byteData?, Value.numeric?, ExtReal.eq_comm, Bool.and_comm, lawful_beq_comm,
      beq_comm_of_iff Time.Date.beq_iff, beq_comm_of_iff Time.Duration.beq_iff, dateTimeEq_comm,
      timeEq_comm]

theorem eqv_leaf_swap (k k' : Nat) {a b : Value} (ha : a.isShared = false)
    (hb : b.isShared = false) (hc : a.isCompound = false ∨ b.isCompound = false) :
    s.eqv k a b = s.eqv k' b a := by
  rw [eqv_leaf_comm k ha hb hc, eqv_leaf_comm k' hb ha hc.symm, eqv_leaf_comm 0 ha hb hc]

theorem eqv_none_left (k : Nat) {b : Value} (hb : b.isShared = false) :
    s.eqv k .none b = s.isNone b := by
  cases b <;> simp only [Value.isShared, Bool.true_eq_false] at hb <;> rw [eqv.eq_def] <;> rfl

/-- Integers are equal exactly when they are the same integer. -/
theorem eqv_ints (k : Nat) (m n : Int) : s.eqv k (.int m) (.int n) = decide (m = n) := by
  rw [eqv.eq_def]
  simp only [Value.byteData?, Value.numeric?, ExtReal.eq, ExtReal.cmp]
  rw [Bool.eq_iff_iff]
  simp

/-- The signaling comparison of a leaf is equality, refused for a signaling NaN against a
  number. -/
theorem eqvSignaling_leaf (k : Nat) {a b : Value} (ha : a.isShared = false)
    (hb : b.isShared = false) (hc : a.isCompound = false ∨ b.isCompound = false) :
    s.eqvSignaling k a b =
      if signalsOnEquality a b then .error (.decimal .invalidOperation) else .ok (s.eqv k a b) := by
  rw [Store.eqvSignaling.eq_def]
  split <;> simp_all [Value.isShared, Value.isCompound]

theorem eqvSignaling_same (k l : Nat) : s.eqvSignaling k (.shared l) (.shared l) = .ok true := by
  rw [eqvSignaling.eq_def]
  simp

/-- Comparing two values other than two references to one stored value follows each reference
  once; in a store without chains that reaches the values themselves. -/
theorem eqvSignaling_follow (k : Nat) {x y : Value} (h : ∀ l, ¬(x = .shared l ∧ y = .shared l)) :
    ∃ k', s.eqvSignaling (k + 1) x y = s.eqvSignaling k' (s.resolve x) (s.resolve y) := by
  rcases x.isShared_or with hx | ⟨l, rfl⟩ <;> rcases y.isShared_or with hy | ⟨l', rfl⟩
  · exact ⟨k + 1, by rw [resolve_of_not_shared hx, resolve_of_not_shared hy]⟩
  · refine ⟨k, ?_⟩
    rw [resolve_of_not_shared hx, eqvSignaling.eq_def]
    split <;> simp_all [Value.isShared, resolve]
  · refine ⟨k, ?_⟩
    rw [resolve_of_not_shared hy, eqvSignaling.eq_def]
    split <;> simp_all [Value.isShared, resolve]
  · have hl : l ≠ l' := fun he => h l ⟨rfl, by rw [he]⟩
    refine ⟨k, ?_⟩
    rw [eqvSignaling.eq_def]
    simp [hl, resolve]

end Store

end FieldRules
