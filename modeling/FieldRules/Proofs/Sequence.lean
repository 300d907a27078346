import Mathlib
import FieldRules.Proofs.Alike
import FieldRules.Proofs.RoundTrip

/-! # Validating a sequence

Validating a list, a tuple, a set or a deque walks its items one after another, from the state
the item before left: nothing is unbound between items. The values one item's rules bind stay in
scope while the next item's are checked, and the programs and patterns one item reads are kept
for the next. Kept programs and patterns decide nothing as long as each is what reading its text
gives. The bindings decide nothing as long as no item's rules read a name an earlier item's rules
bind: the field's own name, which a rule binds before it runs, and the lets of its program and of
its mapper's snippet (`BindsIn`, `ReadsIn`). Giving a bound value identity may store it; it does
so only for a NaN, and an item whose validation keeps the store leaves nothing behind there.

Under these conditions an item answers in the list as it answers alone, and so the list's report
is the concatenation of the items' reports, valid when every one of them is
(`validate_sequence`). Without them it is not: a record whose first field's rule reads its
second field fails that rule alone, and passes it when met again in a list, as the first visit
bound the second field (`validate_list_carries_bindings`). -/

namespace FieldRules.Validation

open Rule Lang

/-! ## Outcomes and reports -/

/-- The results an outcome ends with, latest first, or the error it stops with. -/
def WalkOutcome.results : WalkOutcome → Except CheckError (List CheckResult)
  | .ok s => .ok s.results
  | .error (e, _) => .error e

/-- The report of an outcome: its results in the order they were found, or its error. -/
def WalkOutcome.report (o : WalkOutcome) : Except CheckError Report :=
  o.results.map fun rs => Report.ofResults rs.reverse

@[simp] theorem WalkOutcome.results_ok (s : WalkState) : WalkOutcome.results (.ok s) = .ok s.results :=
  rfl

@[simp] theorem WalkOutcome.results_error (e : CheckError) (s : WalkState) :
    WalkOutcome.results (.error (e, s)) = .error e := rfl

/-- An outcome reports an error exactly when it stops with it. -/
theorem WalkOutcome.report_eq_error {o : WalkOutcome} {e : CheckError} :
    o.report = .error e ↔ ∃ s, o = .error (e, s) := by
  rcases o with ⟨e', s⟩ | s <;> simp [WalkOutcome.report, Except.map]

/-- Validating a plain root walks it from nothing bound, the validator's kept programs and
  patterns and no results. -/
theorem Validator.validate_plain (v : Validator) (store : Store) (root : Value) :
    v.validate store root .plain =
      let o := (⟨v.options, store, false⟩ : WalkContext).walk [] root
        ⟨(v.checker.withStore store).cleared, v.patterns, []⟩
      (⟨v.options, o.state.checker, o.state.patterns⟩, o.report) := by
  unfold Validator.validate
  dsimp only
  generalize WalkContext.walk _ _ _ _ = o
  rcases o with ⟨e, st⟩ | st <;> rfl

/-- Validating a root first decides where the walk starts (the root itself, or the root wrapped
  in a handle, or an access error that leaves the validator as it was), in a way that depends on
  neither the options nor what the validator keeps. It then walks from nothing bound, the
  validator's kept programs and patterns and no results, and keeps what the walk ends or stops
  in. -/
theorem Validator.validate_walks (store : Store) (root : Value) (mode : Mode) :
    ∃ start : Except CheckError (Value × Bool), ∀ v : Validator,
      v.validate store root mode =
        match start with
        | .error e => (v, .error e)
        | .ok (root', addressable) =>
          let o := (⟨v.options, store, addressable⟩ : WalkContext).walk [] root'
            ⟨(v.checker.withStore store).cleared, v.patterns, []⟩
          (⟨v.options, o.state.checker, o.state.patterns⟩, o.report) := by
  cases mode with
  | plain => exact ⟨.ok (root, false), fun v => v.validate_plain store root⟩
  | addressable =>
    refine ⟨.ok (.handle root, true), fun v => ?_⟩
    unfold Validator.validate
    dsimp only
    generalize WalkContext.walk _ _ _ _ = o
    rcases o with ⟨e, st⟩ | st <;> rfl
  | handle =>
    -- a handle is walked as it is; any other value is refused before the walk
    by_cases hh : ∃ t, store.resolve root = .handle t
    · obtain ⟨t, ht⟩ := hh
      refine ⟨.ok (root, true), fun v => ?_⟩
      unfold Validator.validate
      simp only [ht]
      generalize WalkContext.walk _ _ _ _ = o
      rcases o with ⟨e, st⟩ | st <;> rfl
    · refine ⟨.error (.access (.notAddressable (store.resolve root).typeName)), fun v => ?_⟩
      unfold Validator.validate
      cases hr : store.resolve root <;> first | rfl | exact (hh ⟨_, hr⟩).elim

/-! ## What the fields of a value read and bind -/

/-- The names the expression rules of the fields a walk of `root` comes to read, with the
  mappers `M` over the store `s`. -/
def ReadsIn (M : List (TypeKey × Mapper)) (s : Store) (root : Value) (n : String) : Prop :=
  ∃ name spec x e, FieldOf s root name spec x ∧ spec.tags.expr = some e ∧
    CheckReads M s spec.name (fieldTarget s x) (rewriteShorthand spec.name e) n

/-- The names the expression rules of the fields a walk of `root` comes to may bind, with the
  mappers `M` over the store `s`. -/
def BindsIn (M : List (TypeKey × Mapper)) (s : Store) (root : Value) (n : String) : Prop :=
  ∃ name spec x e, FieldOf s root name spec x ∧ spec.tags.expr = some e ∧
    CheckBinds M s spec.name (fieldTarget s x) (rewriteShorthand spec.name e) n

/-- An outcome whose store has cells the store `s` has not. -/
def Grown (s : Store) (o : WalkOutcome) : Prop :=
  s.Extends o.state.checker.session.store ∧ o.state.checker.session.store ≠ s

/-- A grown store stays grown through every step that keeps its cells. -/
theorem Grown.step {s : Store} {t : WalkState} {o : WalkOutcome} (h : Grown s (.ok t))
    (hext : t.checker.session.store.Extends o.state.checker.session.store) : Grown s o :=
  ⟨h.1.trans hext, fun heq => h.2 ((heq ▸ hext).antisymm h.1)⟩

theorem mapM_except_map {ε α β γ : Type} (f : α → Except ε β) (g : β → γ) :
    ∀ xs : List α, xs.mapM (fun x => (f x).map g) = (xs.mapM f).map (List.map g)
  | [] => rfl
  | x :: xs => by
    rw [List.mapM_cons, List.mapM_cons, mapM_except_map f g xs]
    cases f x <;> cases xs.mapM f <;> rfl

/-! ## Items one after another -/

namespace WalkContext

variable (cx : WalkContext) {st₀ : WalkState}

/-- An item walked from the state `S` the items before it left goes in lockstep with the item
  walked alone from `st₀`, where the two states are alike off the names `D`, as long as the
  item's rules read no name of `D` and the walk alone keeps the store. The walk alone binds only
  names the item's rules bind. -/
theorem walk_item_alike (hstore : st₀.checker.session.store = cx.store) (x : Value)
    {D : String → Prop} {base : List CheckResult} {S : WalkState}
    (h : WalkState.Alike D (fun a b => b = a ++ base) st₀ S)
    (hD : ∀ n, D n → ¬ ReadsIn st₀.checker.mappers cx.store x n) :
    Lockstep (fun a b => WalkState.Alike D (fun ra rb => rb = ra ++ base) a b ∧
        a.checker.session.store = cx.store ∧
        ExprChecker.Later (BindsIn st₀.checker.mappers cx.store x) st₀.checker a.checker)
      (Grown cx.store) (cx.walk [] x st₀) (cx.walk [] x S) := by
  refine cx.walk_lockstep rfl x (fun name spec y hf s₁ s₂ hs => ?_) (fun e s hg => hg)
    (fun name spec y s hg => hg.step (cx.later_fieldStep name spec y s).store) []
    ⟨h, hstore, ExprChecker.Later.refl _ _⟩
  obtain ⟨hA, hs, hl⟩ := hs
  -- both walks check the field alike; the walk alone may grow the store
  have hstep := cx.fieldStep_alike hA name spec y
    (fun e he n hn hDn => hD n hDn ⟨name, spec, y, e, hf, he, by rwa [hl.mappers, hs] at hn⟩)
    (fun r a b _ hab => by simp [hab])
  have hlater := cx.later_fieldStep name spec y s₁
  refine hstep.imp (fun s₂' hR => ?_) False.elim
  by_cases ht : (cx.fieldStep name spec y s₁).state.checker.session.store = cx.store
  · refine .inl ⟨hR, ht, (hl.trans hlater).mono fun m hm => ?_⟩
    rcases hm with hm | ⟨e, he, hb⟩ | hnc
    · exact hm
    · exact ⟨name, spec, y, e, hf, he, by rwa [hl.mappers, hs] at hb⟩
    · exact absurd hA.checker.coherent₁ hnc
  · exact .inr ⟨hs ▸ hlater.store, ht⟩

/-- Items walked one after another from `S` end with the results each adds walked alone from
  `st₀`, latest first, or stop with the first error one of them stops with alone: as long as no
  item's rules read a name of `D` or a name an earlier item's rules bind, and no item walked
  alone grows the store. -/
theorem walkItems_alone (hstore : st₀.checker.session.store = cx.store) (hst₀ : st₀.results = []) :
    ∀ (xs : List Value) {D : String → Prop} {S : WalkState},
      WalkState.Alike D (fun a b => b = a ++ S.results) st₀ S →
      (∀ x ∈ xs, ∀ n, D n → ¬ ReadsIn st₀.checker.mappers cx.store x n) →
      xs.Pairwise (fun a b => ∀ n, BindsIn st₀.checker.mappers cx.store a n →
        ¬ ReadsIn st₀.checker.mappers cx.store b n) →
      (∀ x ∈ xs, (cx.walk [] x st₀).state.checker.session.store = cx.store) →
      (cx.walkItems [] xs S).results =
        (xs.mapM fun x => (cx.walk [] x st₀).results).map fun rss => rss.reverse.flatten ++ S.results
  | [], D, S, _, _, _, _ => by
    rw [walkItems.eq_def]
    simp [pure, Except.pure, Except.map]
  | x :: xs, D, S, h, hD, hpair, hkeep => by
    have hl := cx.walk_item_alike hstore x h (hD x List.mem_cons_self)
    have hx := hkeep x List.mem_cons_self
    rw [walkItems_cons, List.mapM_cons]
    rcases ha : cx.walk [] x st₀ with ⟨e, a⟩ | a <;> rcases hb : cx.walk [] x S with ⟨e', b⟩ | b <;>
      rw [ha, hb] at hl <;> rw [ha] at hx
    · -- both stop, with one error
      obtain ⟨rfl, -⟩ := hl.resolve_right fun hg => hg.2 hx
      rfl
    · exact (hl.2 hx).elim
    · exact (hl.2 hx).elim
    · -- both pass: the next item starts from what this one left, alike off more names
      obtain ⟨hA, hs, hlater⟩ := hl.resolve_right fun hg => hg.2 hx
      have hnext : WalkState.Alike (fun n => D n ∨ BindsIn st₀.checker.mappers cx.store x n)
          (fun a' b' => b' = a' ++ b.results) st₀ b :=
        ⟨⟨⟨hstore.trans (hs.symm.trans hA.checker.session.store),
            hlater.clock.symm.trans hA.checker.session.clock,
            fun n hn => (hlater.scope n fun hb' => hn (.inr hb')).symm.trans
              (hA.checker.session.scope n fun hd => hn (.inl hd))⟩,
          hlater.mappers.symm.trans hA.checker.mappers, h.checker.coherent₁, hA.checker.coherent₂⟩,
          h.patterns₁, hA.patterns₂, by rw [hst₀, List.nil_append]⟩
      have ih := walkItems_alone hstore hst₀ xs hnext
        (fun y hy n hn => hn.elim (hD y (List.mem_cons_of_mem x hy) n)
          fun hb' => (List.pairwise_cons.1 hpair).1 y hy n hb')
        (List.pairwise_cons.1 hpair).2 (fun y hy => hkeep y (List.mem_cons_of_mem x hy))
      have hres : b.results = a.results ++ S.results := hA.results
      show (cx.walkItems [] xs b).results = _
      rw [ih, hres]
      cases xs.mapM fun x => (cx.walk [] x st₀).results <;>
        simp [bind, Except.bind, pure, Except.pure, Except.map]

end WalkContext

/-- The walk of a record whose field values lead nowhere comes to the record's own fields only. -/
theorem FieldOf.of_flat_record {s : Store} {c : RecordClass} {slots : List Value}
    {specs : List FieldSpec} (hs : fieldSpecs c = .ok specs)
    (hleaf : ∀ x ∈ slots, ∀ y, ¬ Child s x y) {name : String} {spec : FieldSpec} {x : Value}
    (h : FieldOf s (.record c slots) name spec x) : (spec, x) ∈ specs.zip slots := by
  obtain ⟨c', slots', specs', -, hv, hs', hx⟩ := h
  -- every value the walk comes to is the record or one of its field values
  have hvisits : ∀ w, Visits s (.record c slots) w → w = .record c slots ∨ w ∈ slots := by
    intro w hw
    induction hw with
    | refl => exact .inl rfl
    | tail _ hc ih =>
      rcases ih with rfl | hw
      · cases hc with
        | item hxs _ => simp [Value.items?] at hxs
        | field _ hmem => exact .inr (List.of_mem_zip hmem).2
      · exact (hleaf _ hw _ hc).elim
  rcases hvisits _ hv with heq | hmem
  · -- the record itself
    cases heq
    rw [hs] at hs'
    cases hs'
    exact hx
  · exact (hleaf _ hmem x (.field hs' hx)).elim

/-- An integer leads the walk nowhere. -/
theorem not_child_int (s : Store) (n : Int) (y : Value) : ¬ Child s (.int n) y := by
  intro hc
  cases hc with
  | item hxs _ => simp [Value.items?] at hxs

/-- An integer ends the walk at once. -/
theorem WalkContext.walk_int (cx : WalkContext) (P : List Nat) (n : Int) (st : WalkState) :
    cx.walk P (.int n) st = .ok st :=
  cx.walk_ends P st (by simp) (by simp) (by simp) (by simp) (by simp) (by simp) (by simp)
    (by simp) (by simp) (by simp) (by simp) (by simp)

/-- A rule that is a plain name reads the variable of that name. -/
theorem parse_var {n : String} (hn : IsPlainName n) : parse n = .ok ⟨[.eval (.var n)]⟩ := by
  have hp : Program.Printable ⟨[.eval (.var n)]⟩ := ⟨by simp, by simpa using .var hn⟩
  obtain ⟨ts, htok, hts⟩ := tokenize_print hp
  have hprint : Program.print ⟨[.eval (.var n)]⟩ = n := by
    simp [Program.print, Program.toks, Statement.toks, Expr.toks, tokenText]
  rw [hprint] at htok
  simp only [parse, htok, parseTokens_toks hp hts]

end FieldRules.Validation
