import Mathlib
import FieldRules.Proofs.Traversal

/-! # Walks in lockstep

Two walks of one value over one store take the same steps: they enter the same shared values,
meet the same ones again and check the same fields of the same records, in the same order. Only
a field's check can tell them apart. `walk_lockstep` makes this precise for any relation `R`
between the states the two walks carry and any set `Gone` of outcomes where the first walk
leaves the comparison: if checking each field the walk comes to, from related states, ends
both walks in related states or stops both with one error in related states, or else ends the
first in an outcome of `Gone`, then so does the whole walk (`Lockstep R Gone`). A first walk
that has left stays gone: `Gone` must hold of every outcome of a step from a state it holds of.

The fields a walk comes to are those of the records it visits (`Visits`): the walk goes from a
value to its items, to the keys and values of its entries, through its wrappers, to the values
of a record's declared fields, and into the cells of shared values (`Child`). -/

namespace FieldRules.Validation

open Rule

/-! ## What a walk visits -/

/-- A value the walk of `v` walks next: an item, a key or value of an entry, a wrapper's target,
  the target of the first attribute named `__wrapped__`, the value of a declared field of a
  record, or the value in a shared value's cell. -/
inductive Child (s : Store) : Value → Value → Prop
  | item {v : Value} {xs : List Value} {x : Value} : v.items? = some xs → x ∈ xs → Child s v x
  | key {es : List (Value × Value)} {k x : Value} : (k, x) ∈ es → Child s (.dict es) k
  | value {es : List (Value × Value)} {k x : Value} : (k, x) ∈ es → Child s (.dict es) x
  | handle {t : Value} : Child s (.handle t) t
  | proxy {t : Value} : Child s (.proxy t) t
  | weakRef {t : Value} : Child s (.weakRef (some t)) t
  | wrapped {text : String} {attrs : List (String × Value)} {x : Value} :
      attrs.lookup "__wrapped__" = some x → Child s (.object text attrs) x
  | field {c : RecordClass} {slots : List Value} {specs : List FieldSpec} {spec : FieldSpec}
      {x : Value} : fieldSpecs c = .ok specs → (spec, x) ∈ specs.zip slots →
      Child s (.record c slots) x
  | cell {l : Nat} {inner : Value} : s.get? l = some inner → Child s (.shared l) inner

/-- The values a walk of `root` comes to. -/
def Visits (s : Store) (root : Value) : Value → Prop := Relation.ReflTransGen (Child s) root

/-- A field of a record that the walk of `root` comes to: the record's class name, the field's
  declaration and its value. -/
def FieldOf (s : Store) (root : Value) (name : String) (spec : FieldSpec) (x : Value) : Prop :=
  ∃ c slots specs, name = c.name ∧ Visits s root (.record c slots) ∧ fieldSpecs c = .ok specs ∧
    (spec, x) ∈ specs.zip slots

theorem FieldOf.visits {s : Store} {root : Value} {name : String} {spec : FieldSpec} {x : Value}
    (h : FieldOf s root name spec x) : Visits s root x := by
  obtain ⟨c, slots, specs, -, hv, hs, hx⟩ := h
  exact hv.tail (.field hs hx)

theorem lookup_wrapped_cons_of_ne {n : String} {x : Value} {rest : List (String × Value)}
    (hn : ¬ (n == "__wrapped__") = true) :
    ((n, x) :: rest).lookup "__wrapped__" = rest.lookup "__wrapped__" := by
  have : ("__wrapped__" == n) = false :=
    Bool.eq_false_iff.2 fun h => hn (by rw [beq_iff_eq] at h ⊢; exact h.symm)
  simp [List.lookup, this]

theorem lookup_wrapped_cons_of_eq {n : String} {x : Value} {rest : List (String × Value)}
    (hn : (n == "__wrapped__") = true) : ((n, x) :: rest).lookup "__wrapped__" = some x := by
  rw [beq_iff_eq] at hn
  simp [List.lookup, hn]

/-! ## Outcomes in lockstep -/

/-- Two outcomes of walks in lockstep: both pass in states related by `R`, or both stop with one
  error in states related by `R`, or the first has left the comparison (`Gone`). -/
def Lockstep (R : WalkState → WalkState → Prop) (Gone : WalkOutcome → Prop) :
    WalkOutcome → WalkOutcome → Prop
  | .ok s₁, .ok s₂ => R s₁ s₂ ∨ Gone (.ok s₁)
  | .ok s₁, .error _ => Gone (.ok s₁)
  | .error p₁, .ok _ => Gone (.error p₁)
  | .error (e₁, s₁), .error (e₂, s₂) => e₁ = e₂ ∧ R s₁ s₂ ∨ Gone (.error (e₁, s₁))

/-- The outcomes of a first walk that stops alone with an error of `Esc`. -/
def StopsWith (Esc : CheckError → Prop) : WalkOutcome → Prop
  | .ok _ => False
  | .error (e, _) => Esc e

/-- An outcome with `g` applied to the state it ends or stops in. -/
def WalkOutcome.mapState (g : WalkState → WalkState) : WalkOutcome → WalkOutcome
  | .ok s => .ok (g s)
  | .error (e, s) => .error (e, g s)

namespace Lockstep

variable {R : WalkState → WalkState → Prop} {Gone : WalkOutcome → Prop}

theorem ok {s₁ s₂ : WalkState} (h : R s₁ s₂) : Lockstep R Gone (.ok s₁) (.ok s₂) := .inl h

theorem error {e : CheckError} {s₁ s₂ : WalkState} (h : R s₁ s₂) :
    Lockstep R Gone (.error (e, s₁)) (.error (e, s₂)) := .inl ⟨rfl, h⟩

theorem of_gone {o₁ : WalkOutcome} (h : Gone o₁) (o₂ : WalkOutcome) : Lockstep R Gone o₁ o₂ := by
  rcases o₁ with ⟨e₁, s₁⟩ | s₁ <;> rcases o₂ with ⟨e₂, s₂⟩ | s₂ <;> simp [Lockstep, h]

/-- Two outcomes that are one, when `R` holds of every state with itself. -/
theorem self (hR : ∀ s, R s s) (o : WalkOutcome) : Lockstep R Gone o o := by
  rcases o with ⟨e, s⟩ | s
  · exact error (hR s)
  · exact ok (hR s)

/-- Lockstep goes on through next steps that keep it, when the first's next step keeps it gone. -/
theorem bind {a₁ a₂ : WalkOutcome} {k₁ k₂ : WalkState → WalkOutcome}
    (h : Lockstep R Gone a₁ a₂) (hk : ∀ s₁ s₂, R s₁ s₂ → Lockstep R Gone (k₁ s₁) (k₂ s₂))
    (hgone : ∀ s₁, Gone (.ok s₁) → Gone (k₁ s₁)) :
    Lockstep R Gone (a₁ >>= k₁) (a₂ >>= k₂) := by
  rcases a₁ with ⟨e₁, s₁⟩ | s₁ <;> rcases a₂ with ⟨e₂, s₂⟩ | s₂
  · rcases h with ⟨rfl, hR⟩ | hg
    · exact error hR
    · exact of_gone hg _
  · exact of_gone (show Gone (.error (e₁, s₁)) from h) _
  · exact of_gone (hgone s₁ h) _
  · rcases h with hR | hg
    · exact hk s₁ s₂ hR
    · exact of_gone (hgone s₁ hg) _

/-- Outcomes in lockstep under equality, where the first is not gone, are one. -/
theorem eq_of_not_gone {a₁ a₂ : WalkOutcome} (h : Lockstep Eq Gone a₁ a₂) (hn : ¬ Gone a₁) :
    a₂ = a₁ := by
  rcases a₁ with ⟨e₁, s₁⟩ | s₁ <;> rcases a₂ with ⟨e₂, s₂⟩ | s₂
  · rcases h with ⟨rfl, rfl⟩ | hg
    · rfl
    · exact (hn hg).elim
  · exact (hn h).elim
  · exact (hn h).elim
  · rcases h with rfl | hg
    · rfl
    · exact (hn hg).elim

/-- Outcomes in lockstep under the graph of a function, where the first is never gone: the second
  is the first with its state mapped. -/
theorem graph_iff {f : WalkState → WalkState} {a₁ a₂ : WalkOutcome} :
    Lockstep (fun s₁ s₂ => s₂ = f s₁) (fun _ => False) a₁ a₂ ↔ a₂ = a₁.mapState f := by
  rcases a₁ with ⟨e₁, s₁⟩ | s₁ <;> rcases a₂ with ⟨e₂, s₂⟩ | s₂ <;>
    simp [Lockstep, WalkOutcome.mapState, eq_comm]

end Lockstep

/-! ## The whole walk in lockstep -/

namespace WalkContext

variable {cx₁ cx₂ : WalkContext} {R : WalkState → WalkState → Prop} {Gone : WalkOutcome → Prop}

/-- A value of none of the shapes the walk goes into ends the walk at once. -/
theorem walk_ends (cx : WalkContext) (P : List Nat) {v : Value} (st : WalkState)
    (h1 : ∀ l, v = .shared l → False) (h2 : ∀ xs, v = .list xs → False)
    (h3 : ∀ xs, v = .tuple xs → False) (h4 : ∀ xs, v = .set xs → False)
    (h5 : ∀ xs, v = .frozenSet xs → False) (h6 : ∀ xs, v = .deque xs → False)
    (h7 : ∀ es, v = .dict es → False) (h8 : ∀ t, v = .handle t → False)
    (h9 : ∀ t, v = .proxy t → False) (h10 : ∀ t, v = .weakRef (some t) → False)
    (h11 : ∀ text attrs, v = .object text attrs → False)
    (h12 : ∀ c slots, v = .record c slots → False) : cx.walk P v st = .ok st := by
  rw [walk.eq_def]; split <;> simp_all

/-- Fields without values, or values without fields, end the walk of a record. -/
theorem walkFields_ends (cx : WalkContext) (P : List Nat) (name : String) {specs : List FieldSpec}
    {xs : List Value} (st : WalkState)
    (h : ∀ spec specs' x xs', specs = spec :: specs' → xs = x :: xs' → False) :
    cx.walkFields P name specs xs st = .ok st := by
  rw [walkFields.eq_def]
  split
  · exact (h _ _ _ _ rfl rfl).elim
  · rfl

/-- Meeting a shared value again depends on the store alone, and hands the state on. -/
theorem metAgain_lockstep (hstore : cx₁.store = cx₂.store) {s₁ s₂ : WalkState} (h : R s₁ s₂) :
    ∀ f l, Lockstep R Gone (cx₁.metAgain f l s₁) (cx₂.metAgain f l s₂)
  | 0, _ => Lockstep.error h
  | f + 1, l => by
    rw [metAgain_succ, metAgain_succ, ← hstore]
    rcases wrapperRoute (cx₁.store.cell l) with _ | (name | w)
    · exact Lockstep.ok h
    · exact Lockstep.error h
    · exact metAgain_lockstep hstore h f w

/-- Two walks over one store, from related states, are in lockstep when checking each field the
  walk comes to keeps them so, and a first walk that has left the comparison stays gone. -/
theorem walk_lockstep (hstore : cx₁.store = cx₂.store) (root : Value)
    (hfield : ∀ name spec x, FieldOf cx₁.store root name spec x → ∀ s₁ s₂, R s₁ s₂ →
      Lockstep R Gone (cx₁.fieldStep name spec x s₁) (cx₂.fieldStep name spec x s₂))
    (hstop : ∀ e s, Gone (.ok s) → Gone (.error (e, s)))
    (hgone : ∀ name spec x s, Gone (.ok s) → Gone (cx₁.fieldStep name spec x s))
    (P : List Nat) {s₁ s₂ : WalkState} (h : R s₁ s₂) :
    Lockstep R Gone (cx₁.walk P root s₁) (cx₂.walk P root s₂) := by
  -- the induction runs over the walk of every value the root's walk visits
  have key := WalkContext.walk.induct cx₁
    (fun P v st => Visits cx₁.store root v → ∀ s₂, R st s₂ →
      Lockstep R Gone (cx₁.walk P v st) (cx₂.walk P v s₂))
    (fun P name specs xs st => (∀ spec x, (spec, x) ∈ specs.zip xs → FieldOf cx₁.store root name spec x) →
      ∀ s₂, R st s₂ → Lockstep R Gone (cx₁.walkFields P name specs xs st) (cx₂.walkFields P name specs xs s₂))
    (fun P attrs st => (∀ x, attrs.lookup "__wrapped__" = some x → Visits cx₁.store root x) →
      ∀ s₂, R st s₂ → Lockstep R Gone (cx₁.walkWrapped P attrs st) (cx₂.walkWrapped P attrs s₂))
    (fun P es st => (∀ k x, (k, x) ∈ es → Visits cx₁.store root k ∧ Visits cx₁.store root x) →
      ∀ s₂, R st s₂ → Lockstep R Gone (cx₁.walkEntries P es st) (cx₂.walkEntries P es s₂))
    (fun P xs st => (∀ x ∈ xs, Visits cx₁.store root x) →
      ∀ s₂, R st s₂ → Lockstep R Gone (cx₁.walkItems P xs st) (cx₂.walkItems P xs s₂))
  -- the five kinds of sequence, and the two cases of a record's next field, go alike
  have hitems : ∀ P v xs st, v.items? = some xs →
      ((∀ x ∈ xs, Visits cx₁.store root x) → ∀ s₂, R st s₂ →
        Lockstep R Gone (cx₁.walkItems P xs st) (cx₂.walkItems P xs s₂)) →
      Visits cx₁.store root v → ∀ s₂, R st s₂ → Lockstep R Gone (cx₁.walk P v st) (cx₂.walk P v s₂) := by
    intro P v xs st hxs ih hv s₂ hR
    rw [walk_items cx₁ hxs, walk_items cx₂ hxs]
    exact ih (fun x hx => hv.tail (.item hxs hx)) s₂ hR
  have hfields : ∀ P name spec specs x xs st,
      (∀ st, Visits cx₁.store root x → ∀ s₂, R st s₂ →
        Lockstep R Gone (cx₁.walk P x st) (cx₂.walk P x s₂)) →
      (∀ st, (∀ spec x, (spec, x) ∈ specs.zip xs → FieldOf cx₁.store root name spec x) →
        ∀ s₂, R st s₂ → Lockstep R Gone (cx₁.walkFields P name specs xs st)
          (cx₂.walkFields P name specs xs s₂)) →
      (∀ spec' x', (spec', x') ∈ (spec :: specs).zip (x :: xs) → FieldOf cx₁.store root name spec' x') →
      ∀ s₂, R st s₂ → Lockstep R Gone (cx₁.walkFields P name (spec :: specs) (x :: xs) st)
        (cx₂.walkFields P name (spec :: specs) (x :: xs) s₂) := by
    intro P name spec specs x xs st ih1 ih2 hf s₂ hR
    rw [walkFields_cons cx₁, walkFields_cons cx₂]
    have hx : FieldOf cx₁.store root name spec x := hf spec x (by simp)
    have hrest : ∀ spec x, (spec, x) ∈ specs.zip xs → FieldOf cx₁.store root name spec x :=
      fun spec' x' h => hf spec' x' (List.mem_cons_of_mem _ h)
    exact Lockstep.bind (Lockstep.bind (hfield name spec x hx st s₂ hR)
      (fun t₁ t₂ ht => ih1 t₁ hx.visits t₂ ht) (cx₁.walk_keeps Gone hstop hgone P x))
      (fun t₁ t₂ ht => ih2 t₁ hrest t₂ ht) (cx₁.walkFields_keeps Gone hstop hgone P name specs xs)
  refine key ?_ ?_ ?_ ?_ ?_ ?_ ?_ ?_ ?_ ?_ ?_ ?_ ?_ ?_ ?_ ?_ ?_ ?_ ?_ ?_ ?_ ?_ ?_ ?_ ?_ ?_
    P root s₁ .refl s₂ h
  -- a shared value: met again, missing, or entered
  · intro P st l hl _ s₂ hR
    have hl' : l ∈ P := by simpa using hl
    rw [walk_shared_mem cx₁ hl', walk_shared_mem cx₂ hl', ← hstore]
    exact metAgain_lockstep hstore hR _ _
  · intro P st l hl hget _ s₂ hR
    have hl' : l ∉ P := by simpa using hl
    rw [walk_shared_none cx₁ hl' hget, walk_shared_none cx₂ hl' (hstore ▸ hget)]
    exact Lockstep.ok hR
  · intro P st l hl inner hget ih hv s₂ hR
    have hl' : l ∉ P := by simpa using hl
    rw [walk_shared_some cx₁ hl' hget, walk_shared_some cx₂ hl' (hstore ▸ hget)]
    exact ih (hv.tail (.cell hget)) s₂ hR
  -- sequences and sets walk their items, a dictionary its entries, a wrapper its target
  · intro P st xs ih; exact hitems P (.list xs) xs st rfl ih
  · intro P st xs ih; exact hitems P (.tuple xs) xs st rfl ih
  · intro P st xs ih; exact hitems P (.set xs) xs st rfl ih
  · intro P st xs ih; exact hitems P (.frozenSet xs) xs st rfl ih
  · intro P st xs ih; exact hitems P (.deque xs) xs st rfl ih
  · intro P st es ih hv s₂ hR
    rw [walk_dict cx₁, walk_dict cx₂]
    exact ih (fun k x hx => ⟨hv.tail (.key hx), hv.tail (.value hx)⟩) s₂ hR
  · intro P st t ih hv s₂ hR
    rw [walk_unwrap cx₁ (Or.inl rfl), walk_unwrap cx₂ (Or.inl rfl)]
    exact ih (hv.tail .handle) s₂ hR
  · intro P st t ih hv s₂ hR
    rw [walk_unwrap cx₁ (Or.inr (Or.inl rfl)), walk_unwrap cx₂ (Or.inr (Or.inl rfl))]
    exact ih (hv.tail .proxy) s₂ hR
  · intro P st t ih hv s₂ hR
    rw [walk_unwrap cx₁ (Or.inr (Or.inr rfl)), walk_unwrap cx₂ (Or.inr (Or.inr rfl))]
    exact ih (hv.tail .weakRef) s₂ hR
  · intro P st text attrs ih hv s₂ hR
    rw [walk_object cx₁, walk_object cx₂]
    exact ih (fun x hx => hv.tail (.wrapped hx)) s₂ hR
  -- a record: its declaration fails in both, or both check and walk its fields
  · intro P st c slots f hf _ s₂ hR
    rw [walk_record_error cx₁ hf, walk_record_error cx₂ hf]
    exact Lockstep.error hR
  · intro P st c slots specs hs ih hv s₂ hR
    rw [walk_record_ok cx₁ hs, walk_record_ok cx₂ hs]
    exact ih (fun spec x hx => ⟨c, slots, specs, rfl, hv, hs, hx⟩) s₂ hR
  -- any other value ends both walks
  · intro P v st h1 h2 h3 h4 h5 h6 h7 h8 h9 h10 h11 h12 _ s₂ hR
    rw [walk_ends cx₁ P st h1 h2 h3 h4 h5 h6 h7 h8 h9 h10 h11 h12,
      walk_ends cx₂ P s₂ h1 h2 h3 h4 h5 h6 h7 h8 h9 h10 h11 h12]
    exact Lockstep.ok hR
  -- the fields of a record, whether the first is checked or skipped
  · intro P name spec specs x xs st _ ih1 ih2
    exact hfields P name spec specs x xs st ih1 ih2
  · intro P name spec specs x xs st _ ih1 ih2
    exact hfields P name spec specs x xs st ih1 ih2
  · intro P name specs xs st hne _ s₂ hR
    rw [walkFields_ends cx₁ P name st hne, walkFields_ends cx₂ P name s₂ hne]
    exact Lockstep.ok hR
  -- the first attribute named __wrapped__
  · intro P st _ s₂ hR
    rw [walkWrapped.eq_def, walkWrapped.eq_def]
    exact Lockstep.ok hR
  · intro P n x rest st hn ih hv s₂ hR
    rw [walkWrapped_cons cx₁, walkWrapped_cons cx₂, if_pos hn, if_pos hn]
    exact ih (hv x (lookup_wrapped_cons_of_eq hn)) s₂ hR
  · intro P n x rest st hn ih hv s₂ hR
    rw [walkWrapped_cons cx₁, walkWrapped_cons cx₂, if_neg hn, if_neg hn]
    exact ih (fun y hy => hv y (by rwa [lookup_wrapped_cons_of_ne hn])) s₂ hR
  -- entries, key before value, and items
  · intro P st _ s₂ hR
    rw [walkEntries.eq_def, walkEntries.eq_def]
    exact Lockstep.ok hR
  · intro P k x es st ih1 ih2 ih3 hv s₂ hR
    rw [walkEntries_cons cx₁, walkEntries_cons cx₂]
    have hkx := hv k x List.mem_cons_self
    exact Lockstep.bind (Lockstep.bind (ih1 hkx.1 s₂ hR) (fun t₁ t₂ ht => ih2 t₁ hkx.2 t₂ ht)
      (cx₁.walk_keeps Gone hstop hgone P x))
      (fun t₁ t₂ ht => ih3 t₁ (fun k' x' h => hv k' x' (List.mem_cons_of_mem _ h)) t₂ ht)
      (cx₁.walkEntries_keeps Gone hstop hgone P es)
  · intro P st _ s₂ hR
    rw [walkItems.eq_def, walkItems.eq_def]
    exact Lockstep.ok hR
  · intro P x xs st ih1 ih2 hv s₂ hR
    rw [walkItems_cons cx₁, walkItems_cons cx₂]
    exact Lockstep.bind (ih1 (hv x List.mem_cons_self) s₂ hR)
      (fun t₁ t₂ ht => ih2 t₁ (fun y hy => hv y (List.mem_cons_of_mem _ hy)) t₂ ht)
      (cx₁.walkItems_keeps Gone hstop hgone P xs)

end WalkContext

/-! ## Walks that keep results differently

Whether a result is kept is decided by `keep` alone; reading fields and running their rules does
not look at the results so far. So two walks whose contexts read fields alike go in lockstep
under any map of the results that the two ways of keeping respect (`walk_mapResults`). -/

/-- A state with its results passed through `f`. -/
def WalkState.mapResults (f : List CheckResult → List CheckResult) (st : WalkState) : WalkState :=
  { st with results := f st.results }

namespace WalkState

variable (f : List CheckResult → List CheckResult) (st : WalkState)

@[simp] theorem mapResults_checker : (st.mapResults f).checker = st.checker := rfl

@[simp] theorem mapResults_patterns : (st.mapResults f).patterns = st.patterns := rfl

@[simp] theorem mapResults_results : (st.mapResults f).results = f st.results := rfl

end WalkState

namespace WalkContext

/-- Two walk contexts that read and check fields alike: one store, one choice to honor
  serialization semantics and one kind of root. They may keep results differently. -/
structure ReadAlike (cx₁ cx₂ : WalkContext) : Prop where
  store : cx₁.store = cx₂.store
  honor : cx₁.options.honorSerialization = cx₂.options.honorSerialization
  addressable : cx₁.addressable = cx₂.addressable

theorem ReadAlike.refl (cx : WalkContext) : ReadAlike cx cx := ⟨rfl, rfl, rfl⟩

variable {cx₁ cx₂ : WalkContext} {f : List CheckResult → List CheckResult}

theorem ReadAlike.leftAlone (h : ReadAlike cx₁ cx₂) (tags : Tags) (value : Value) :
    cx₂.leftAlone tags value = cx₁.leftAlone tags value := by
  simp only [WalkContext.leftAlone, h.store, h.honor]

section MapResults

/- The second context keeps, from results passed through `f`, what the first keeps passed
  through `f`. -/
variable (hkeep : ∀ st r, cx₂.keep (st.mapResults f) r = (cx₁.keep st r).mapResults f)

include hkeep in
theorem checkExpr_mapResults (spec : FieldSpec) (value : Value) (st : WalkState) :
    cx₂.checkExpr spec value (st.mapResults f) =
      (cx₁.checkExpr spec value st).mapState (·.mapResults f) := by
  unfold checkExpr
  split
  · rfl
  · rename_i e _
    simp only [WalkState.mapResults_checker]
    -- the checker's verdict does not look at the results
    generalize st.checker.check spec.name value (rewriteShorthand spec.name e) = res
    obtain ⟨c, r⟩ := res
    cases r with
    | error e => rfl
    | ok v => exact congrArg Except.ok (hkeep ⟨c, st.patterns, st.results⟩ _)

include hkeep in
theorem checkPattern_mapResults (h : ReadAlike cx₁ cx₂) (spec : FieldSpec) (value : Value)
    (st : WalkState) :
    cx₂.checkPattern spec value (st.mapResults f) =
      (cx₁.checkPattern spec value st).mapState (·.mapResults f) := by
  unfold checkPattern
  split
  · rfl
  · rename_i p _
    rw [← h.store]
    cases cx₁.store.matchText value with
    | error e => rfl
    | ok text =>
      simp only [bind, Except.bind, Except.mapError, WalkState.mapResults_patterns]
      generalize st.patterns.search p text = res
      obtain ⟨q, r⟩ := res
      cases r with
      | error e => rfl
      | ok v => exact congrArg Except.ok (hkeep ⟨st.checker, q, st.results⟩ _)

include hkeep in
theorem fieldStep_mapResults (h : ReadAlike cx₁ cx₂) (name : String) (spec : FieldSpec)
    (x : Value) (st : WalkState) :
    cx₂.fieldStep name spec x (st.mapResults f) =
      (cx₁.fieldStep name spec x st).mapState (·.mapResults f) := by
  unfold fieldStep
  rw [← h.honor]
  split
  · rfl
  rw [checkField_eq, checkField_eq, h.leftAlone, ← h.store, ← h.honor, ← h.addressable]
  split
  · rfl
  split
  · rfl
  cases cx₁.leftAlone spec.tags (fieldTarget cx₁.store x) with
  | error e => rfl
  | ok alone =>
    cases alone
    · simp only [Except.mapError, bind, Except.bind, checkExpr_mapResults hkeep]
      cases cx₁.checkExpr spec (fieldTarget cx₁.store x) st with
      | error e => rfl
      | ok t => exact checkPattern_mapResults hkeep h spec _ t
    · rfl

include hkeep in
/-- Walks whose contexts read fields alike, from states whose results correspond under `f`, end
  or stop alike, with results that correspond under `f`, when the two ways of keeping respect
  `f`. -/
theorem walk_mapResults (h : ReadAlike cx₁ cx₂) (P : List Nat) (v : Value) (st : WalkState) :
    cx₂.walk P v (st.mapResults f) = (cx₁.walk P v st).mapState (·.mapResults f) := by
  -- the two walks are in lockstep under the graph of `mapResults f`
  have hl := @walk_lockstep cx₁ cx₂ (fun s₁ s₂ => s₂ = s₁.mapResults f) (fun _ => False) h.store v
    (fun name spec x _ s₁ s₂ hs => hs ▸ Lockstep.graph_iff.2 (fieldStep_mapResults hkeep h name spec x s₁))
    (fun _ _ h => h.elim) (fun _ _ _ _ h => h.elim) P st (st.mapResults f) rfl
  exact Lockstep.graph_iff.1 hl

end MapResults

end WalkContext

end FieldRules.Validation
