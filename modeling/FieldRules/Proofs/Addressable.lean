import Mathlib
import FieldRules.Proofs.Sequence

/-! # Addressable roots

A root validated as addressable is wrapped in a handle, which the walk passes through, and lets
rules on private fields run. Nothing else tells the two validations apart: a field's check on
the plain path either does what it does on the addressable one or stops with the access error
of a private field with rules, read while serialization semantics are not honored
(`fieldStep_addressable`). So the plain walk and the addressable one go in lockstep until the
plain one stops so (`walk_plain_addressable`).

The addressable walk, and the plain one when serialization semantics are honored, stop with no
access error: what else a walk stops with is a rule's error, a record class's or meeting a
shared value again (`walk_no_access`). Hence the addressable validation refines the plain one
(`validate_addressable_refines`): it never fails to read a field; it answers as the plain one
does whenever that one reads every field it comes to, as it always does when serialization
semantics are honored; and the plain one fails to read a field only when they are not honored
and the walk comes to a field whose name starts with an underscore and that has a rule. -/

namespace FieldRules.Rule

/-- An error of reading a field: an access error. -/
def CheckError.IsAccess : CheckError → Prop
  | .access _ => True
  | _ => False

end FieldRules.Rule

namespace FieldRules.Validation

open Rule

/-- A private field with a rule that the walk of `root` comes to: its name starts with an
  underscore, and it has an expression or a pattern rule, which is never blank. -/
def PrivateRuled (s : Store) (root : Value) : Prop :=
  ∃ name spec x, FieldOf s root name spec x ∧ spec.name.startsWith "_" ∧ spec.tags.hasRules = true

/-! ## Which fields are private -/

theorem mem_of_mapM_eq_ok {ε α β : Type} {f : α → Except ε β} :
    ∀ {xs : List α} {ys : List β}, xs.mapM f = .ok ys → ∀ y ∈ ys, ∃ x ∈ xs, f x = .ok y
  | [], ys, h => by
    simp only [List.mapM_nil, pure, Except.pure, Except.ok.injEq] at h
    simp [← h]
  | x :: xs, ys, h => by
    rw [List.mapM_cons] at h
    obtain ⟨b, hb, h⟩ := except_bind_eq_ok.1 h
    obtain ⟨bs, hbs, h⟩ := except_bind_eq_ok.1 h
    obtain rfl : b :: bs = ys := Except.ok.inj h
    intro y hy
    rcases List.mem_cons.1 hy with rfl | hy
    · exact ⟨x, List.mem_cons_self, hb⟩
    · obtain ⟨x', hx', hf⟩ := mem_of_mapM_eq_ok hbs y hy
      exact ⟨x', List.mem_cons_of_mem _ hx', hf⟩

/-- A declared field with a rule is private exactly when its name starts with an underscore:
  the private attributes of a model carry no rules. -/
theorem fieldSpecs_isPrivate {c : RecordClass} {specs : List FieldSpec} (h : fieldSpecs c = .ok specs)
    {spec : FieldSpec} (hs : spec ∈ specs) (hr : spec.tags.hasRules = true) :
    spec.isPrivate = isPrivateName spec.name := by
  unfold fieldSpecs at h
  obtain ⟨fields, hfields, h⟩ := except_bind_eq_ok.1 h
  obtain rfl := Except.ok.inj h
  rcases List.mem_append.1 hs with hs | hs
  · obtain ⟨f, -, hf⟩ := mem_of_mapM_eq_ok hfields spec hs
    obtain ⟨tags, -, hf⟩ := except_bind_eq_ok.1 hf
    obtain rfl := Except.ok.inj hf
    rfl
  · split at hs
    · obtain ⟨n, -, rfl⟩ := List.mem_map.1 hs
      simp [Tags.empty, Tags.hasRules] at hr
    · cases hs

/-! ## A field's check, plain and addressable -/

namespace WalkContext

variable (cx : WalkContext)

/-- A field's check from a root that is not addressable does what it does from an addressable
  one, unless it stops with the access error of a private field with rules while serialization
  semantics are not honored. -/
theorem fieldStep_addressable (hcx : cx.addressable = false) (name : String) (spec : FieldSpec)
    (x : Value) (st : WalkState) :
    cx.fieldStep name spec x st = { cx with addressable := true }.fieldStep name spec x st ∨
      (cx.fieldStep name spec x st = .error (.access (.privateField spec.name name), st) ∧
        cx.options.honorSerialization = false ∧ spec.isPrivate = true ∧
        spec.tags.hasRules = true) := by
  unfold fieldStep
  split
  · exact .inl rfl
  rename_i hskip
  rw [checkField_eq, checkField_eq]
  split
  · exact .inl rfl
  rename_i hrules
  split
  · -- the private branch, which the addressable check passes
    rename_i hpriv
    simp only [hcx, Bool.not_false, Bool.and_true] at hpriv
    simp only [Bool.and_eq_true, hpriv] at hskip
    simp only [Bool.or_eq_true, Bool.not_eq_true', not_or] at hrules
    exact .inr ⟨rfl, by simpa using hskip, hpriv, by simpa using hrules.1⟩
  · -- past the private branch the two checks are one
    simp only [Bool.not_true, Bool.and_false, Bool.false_eq_true, ↓reduceIte]
    exact .inl rfl

/-- Neither a rule nor meeting a shared value again stops a walk with an access error. -/
theorem metAgain_not_access : ∀ (f l : Nat) (st : WalkState),
    ErrorsIn (fun p : CheckError × WalkState => ¬ p.1.IsAccess) (cx.metAgain f l st)
  | 0, _, _ => by simp [metAgain, CheckError.IsAccess]
  | f + 1, l, st => by
    rw [metAgain_succ]
    split
    · simp [CheckError.IsAccess]
    · exact metAgain_not_access f _ st
    · exact ErrorsIn.ok st

/-- From an addressable root, or with serialization semantics honored, a walk stops with no
  access error: no field's check does. -/
theorem walk_no_access (hcx : cx.addressable = true ∨ cx.options.honorSerialization = true)
    (root : Value) (st : WalkState) :
    ErrorsIn (fun p : CheckError × WalkState => ¬ p.1.IsAccess) (cx.walk [] root st) := by
  rintro ⟨e, s⟩ he
  rcases (cx.walk_sound root [] root st OnPath.start).1 e s he with
    (⟨name, spec, x, st', st'', hf⟩ | ⟨c, f, -, rfl⟩) | ⟨l, -, -, st', st'', hm⟩
  · rcases cx.fieldStep_errors name spec x st' _ hf with hr | ⟨hacc, hhonor, haddr, -⟩
    · cases e <;> simp_all [CheckError.IsAccess]
    · dsimp only at hacc
      simp_all
  · simp [CheckError.IsAccess]
  · exact cx.metAgain_not_access _ l st' (e, st'') hm

end WalkContext

/-! ## The plain walk and the addressable one -/

/-- The plain walk of a root and the addressable one go in lockstep from one state: they pass
  alike or stop with one error, or the plain one stops alone with an access error, while
  serialization semantics are not honored and a private field with rules is in reach. -/
theorem walk_plain_addressable (o : Options) (store : Store) (root : Value) (st : WalkState) :
    Lockstep Eq (StopsWith fun e => e.IsAccess ∧ o.honorSerialization = false ∧
        PrivateRuled store root)
      ((⟨o, store, false⟩ : WalkContext).walk [] root st)
      ((⟨o, store, true⟩ : WalkContext).walk [] root st) := by
  refine @WalkContext.walk_lockstep ⟨o, store, false⟩ ⟨o, store, true⟩ Eq _ rfl root
    (fun name spec x hx s₁ s₂ hs => ?_) (fun _ _ h => h.elim) (fun _ _ _ _ h => h.elim) [] st st rfl
  subst hs
  rcases (⟨o, store, false⟩ : WalkContext).fieldStep_addressable rfl name spec x s₁ with
    heq | ⟨herr, hhonor, hpriv, hrules⟩
  · rw [heq]
    exact Lockstep.self (fun _ => rfl) _
  · -- the plain check stops alone, at a private field with rules in reach
    obtain ⟨c, slots, specs, -, -, hspecs, hmem⟩ := id hx
    have hname : isPrivateName spec.name = true :=
      (fieldSpecs_isPrivate hspecs (List.of_mem_zip hmem).1 hrules) ▸ hpriv
    rw [herr]
    exact Lockstep.of_gone ⟨trivial, hhonor, name, spec, x, hx, hname, hrules⟩ _

/-! ## Validating a root plainly and as addressable -/

/-- Validating a root as addressable walks it from an addressable root: the handle it is wrapped
  in leads to it. -/
theorem Validator.validate_addressable (v : Validator) (store : Store) (root : Value) :
    v.validate store root .addressable =
      let o := (⟨v.options, store, true⟩ : WalkContext).walk [] root
        ⟨(v.checker.withStore store).cleared, v.patterns, []⟩
      (⟨v.options, o.state.checker, o.state.patterns⟩, o.report) := by
  unfold Validator.validate
  dsimp only
  rw [WalkContext.walk_unwrap _ (Or.inl rfl)]
  generalize WalkContext.walk _ _ _ _ = o
  rcases o with ⟨e, st⟩ | st <;> rfl

/-- The addressable path refines the plain one. Validating a root as addressable never fails to
  read a field. Where validating it plainly reads every field it comes to, both answer alike;
  so they do when serialization semantics are honored, as the plain validation then reads every
  field. And the plain validation fails to read a field only when serialization semantics are
  not honored and the walk comes to a field whose name starts with an underscore and that has a
  rule. -/
theorem validate_addressable_refines (v : Validator) (store : Store) (root : Value) :
    (∀ p, (v.validate store root .addressable).2 ≠ .error (.access p)) ∧
      ((∀ p, (v.validate store root .plain).2 ≠ .error (.access p)) →
        (v.validate store root .addressable).2 = (v.validate store root .plain).2) ∧
      (v.options.honorSerialization = true →
        (∀ p, (v.validate store root .plain).2 ≠ .error (.access p)) ∧
          (v.validate store root .addressable).2 = (v.validate store root .plain).2) ∧
      (∀ p, (v.validate store root .plain).2 = .error (.access p) →
        v.options.honorSerialization = false ∧ PrivateRuled store root) := by
  simp only [Validator.validate_plain, Validator.validate_addressable]
  have hlock := walk_plain_addressable v.options store root
    ⟨(v.checker.withStore store).cleared, v.patterns, []⟩
  have haddr := (⟨v.options, store, true⟩ : WalkContext).walk_no_access (.inl rfl) root
    ⟨(v.checker.withStore store).cleared, v.patterns, []⟩
  have hhonor := fun h => (⟨v.options, store, false⟩ : WalkContext).walk_no_access (.inr h) root
    ⟨(v.checker.withStore store).cleared, v.patterns, []⟩
  generalize (⟨v.options, store, false⟩ : WalkContext).walk [] root _ = r₁ at hlock hhonor ⊢
  generalize (⟨v.options, store, true⟩ : WalkContext).walk [] root _ = r₂ at hlock haddr ⊢
  simp only [ne_eq, WalkOutcome.report_eq_error, not_exists, forall_exists_index]
  -- the plain walk stops with no access error: the two are one
  have hsame : (∀ p s, ¬ r₁ = .error (.access p, s)) → r₂ = r₁ := fun hn =>
    hlock.eq_of_not_gone fun hg => by
      rcases r₁ with ⟨e, s⟩ | s
      · obtain ⟨hacc, -⟩ := id hg
        cases e with
        | access p => exact hn p s rfl
        | _ => exact hacc.elim
      · exact hg
  have hnone : v.options.honorSerialization = true → ∀ p s, ¬ r₁ = .error (.access p, s) :=
    fun h p s he => hhonor h _ he trivial
  refine ⟨fun p s he => haddr _ he trivial, fun hn => by rw [hsame hn],
    fun h => ⟨hnone h, by rw [hsame (hnone h)]⟩, fun p s he => ?_⟩
  -- the addressable walk did not stop so, hence the plain one stopped alone
  subst he
  rcases r₂ with ⟨e₂, s₂⟩ | s₂
  · rcases hlock with ⟨rfl, -⟩ | hg
    · exact (haddr _ rfl trivial).elim
    · exact hg.2
  · exact hlock.2

end FieldRules.Validation
