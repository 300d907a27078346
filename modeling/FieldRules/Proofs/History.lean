import Mathlib
import FieldRules.Proofs.Sequence

/-! # A validator's answers do not depend on its history

A validator keeps the programs it has read and the patterns it has compiled, by their texts,
and its expression checker a session that outlives each check. None of this shows in its
answers. Every kept program is what reading its text gives, and every kept pattern what
compiling its text gives (`CacheCoherent`), so a check finds by looking up what it would find
by reading; each validation starts with nothing bound, also after one that failed part-way and
kept what it had come to, and no operation changes the options or the clock
(`Validator.Sound`). Two walks from states that differ only in what they keep go in
lockstep (`walk_agree`), and so a validator reached by any sequence of validations, mapper
registrations and copies answers every validation as a validator built afresh with its options
and mappers does (`validate_independent_of_history`): two validations in a row answer alike, and
so do a validator and its copy. -/

namespace FieldRules.Validation

open Rule Lang

/-! ## Walks from states alike but for what they keep -/

/-- Walks from states alike but for the programs and patterns they keep, each kept one being
  what reading its text gives, go in lockstep and end or stop alike; the first keeps the mappers
  `M` and the clock `K` it starts with. -/
theorem WalkContext.walk_agree (cx : WalkContext) {M : List (TypeKey × Mapper)} {K : Int}
    (P : List Nat) (v : Value) {s₁ s₂ : WalkState} (h : WalkState.Alike (fun _ => False) Eq s₁ s₂)
    (hm : s₁.checker.mappers = M) (hk : s₁.checker.session.clock = K) :
    Lockstep (fun a b => WalkState.Alike (fun _ => False) Eq a b ∧ a.checker.mappers = M ∧
        a.checker.session.clock = K) (fun _ => False) (cx.walk P v s₁) (cx.walk P v s₂) := by
  refine cx.walk_lockstep rfl v (fun name spec x _ t₁ t₂ ht => ?_) (fun _ _ h => h)
    (fun _ _ _ _ h => h.elim) P ⟨h, hm, hk⟩
  obtain ⟨ht, htm, htk⟩ := ht
  -- every name is read alike, and the mappers and the clock of the first stay
  have hlater := cx.later_fieldStep name spec x t₁
  exact (cx.fieldStep_alike ht name spec x (fun _ _ _ _ h => h)
    (fun _ _ _ _ hab => by rw [hab])).imp
    (fun _ hR => .inl ⟨hR, hlater.mappers.trans htm, hlater.clock.trans htk⟩) id

/-! ## Validators -/

namespace Validator

/-- A validator as built: the options, the mappers and the clock given, nothing bound and nothing
  kept. -/
def fresh (options : Options) (mappers : List (TypeKey × Mapper)) (store : Store) (clock : Int) :
    Validator :=
  ⟨options, ⟨Session.start store clock, mappers, []⟩, {}⟩

/-- A validator whose kept programs and patterns are what reading their texts gives, with the
  options `o` and the clock `K`. -/
structure Sound (o : Options) (K : Int) (v : Validator) : Prop where
  scripts : CacheCoherent parse v.checker.scripts
  patterns : CacheCoherent compilePattern v.patterns.entries
  options : v.options = o
  clock : v.checker.session.clock = K

theorem fresh_sound (o : Options) (mappers : List (TypeKey × Mapper)) (store : Store) (K : Int) :
    (fresh o mappers store K).Sound o K :=
  ⟨CacheCoherent.nil, CacheCoherent.nil, rfl, rfl⟩

variable {o : Options} {K : Int} {v : Validator}

/-- A sound validator validates as one built afresh with its options and mappers does, stays
  sound, and keeps its mappers. -/
theorem Sound.validate (hv : v.Sound o K) (store₀ store : Store) (root : Value) (mode : Mode) :
    (v.validate store root mode).2 =
        ((fresh o v.checker.mappers store₀ K).validate store root mode).2 ∧
      (v.validate store root mode).1.Sound o K ∧
      (v.validate store root mode).1.checker.mappers = v.checker.mappers := by
  obtain ⟨hs, hp, rfl, rfl⟩ := hv
  obtain ⟨start, hstart⟩ := Validator.validate_walks store root mode
  rw [hstart, hstart]
  rcases start with e | ⟨root', addressable⟩
  · exact ⟨rfl, ⟨hs, hp, rfl, rfl⟩, rfl⟩
  -- the two walks start alike but for what the validator keeps
  have hstart : WalkState.Alike (fun _ => False) Eq
      ⟨(v.checker.withStore store).cleared, v.patterns, []⟩
      ⟨((fresh v.options v.checker.mappers store₀ v.checker.session.clock).checker.withStore
        store).cleared, {}, []⟩ :=
    ⟨⟨⟨rfl, rfl, fun _ _ => rfl⟩, rfl, hs, CacheCoherent.nil⟩, hp, CacheCoherent.nil, rfl⟩
  have hl := (⟨v.options, store, addressable⟩ : WalkContext).walk_agree [] root' hstart rfl rfl
  dsimp only [fresh] at hl ⊢
  generalize (⟨v.options, store, addressable⟩ : WalkContext).walk [] root'
    ⟨(v.checker.withStore store).cleared, v.patterns, []⟩ = r₁ at hl ⊢
  generalize (⟨v.options, store, addressable⟩ : WalkContext).walk [] root' _ = r₂ at hl ⊢
  rcases r₁ with ⟨e₁, t₁⟩ | t₁ <;> rcases r₂ with ⟨e₂, t₂⟩ | t₂
  · -- both stop with one error, the first in a sound state
    obtain ⟨rfl, hA, hm, hk⟩ := hl.resolve_right id
    exact ⟨rfl, ⟨hA.checker.coherent₁, hA.patterns₁, rfl, hk⟩, hm⟩
  · exact hl.elim
  · exact hl.elim
  · obtain ⟨hA, hm, hk⟩ := hl.resolve_right id
    refine ⟨?_, ⟨hA.checker.coherent₁, hA.patterns₁, rfl, hk⟩, hm⟩
    simp only [WalkOutcome.report, WalkOutcome.results_ok, hA.results]

theorem Sound.addMapper (hv : v.Sound o K) (key : TypeKey) (m : Mapper) :
    (v.addMapper key m).Sound o K := by
  unfold Validator.addMapper ExprChecker.addMapper
  split <;> exact ⟨hv.scripts, hv.patterns, hv.options, hv.clock⟩

theorem Sound.copy (hv : v.Sound o K) : v.copy.Sound o K :=
  ⟨CacheCoherent.nil, CacheCoherent.nil, hv.options, hv.clock⟩

/-- What can be done with a validator: validate a value, register a mapper, or copy it and go on
  with the copy. -/
inductive Op where
  | validate (store : Store) (root : Value) (mode : Mode)
  | addMapper (key : TypeKey) (m : Mapper)
  | copy

/-- The validator after an operation. -/
def Op.apply : Op → Validator → Validator
  | .validate store root mode, v => (v.validate store root mode).1
  | .addMapper key m, v => v.addMapper key m
  | .copy, v => v.copy

/-- The validator after operations, the first applied first. -/
def applyAll (v : Validator) (ops : List Op) : Validator := ops.foldl (fun v op => op.apply v) v

theorem Sound.apply (hv : v.Sound o K) (op : Op) : (op.apply v).Sound o K := by
  cases op with
  | validate store root mode => exact (hv.validate store store root mode).2.1
  | addMapper key m => exact hv.addMapper key m
  | copy => exact hv.copy

/-- Every operation keeps a validator sound, so every history does. -/
theorem Sound.applyAll (hv : v.Sound o K) (ops : List Op) : (v.applyAll ops).Sound o K := by
  induction ops generalizing v with
  | nil => exact hv
  | cons op ops ih => exact ih (hv.apply op)

end Validator

/-- A validator's answers do not depend on its history: after any validations, failed ones
  included, mapper registrations and copies, it validates every value, plain or addressable, as a
  validator built afresh with its options and mappers does. So two validations in a row answer
  alike, and so do a validator and its copy. -/
theorem validate_independent_of_history (options : Options) (mappers : List (TypeKey × Mapper))
    (store₀ : Store) (clock : Int) (ops : List Validator.Op) (store : Store) (root : Value)
    (mode : Mode) :
    let v := (Validator.fresh options mappers store₀ clock).applyAll ops
    (v.validate store root mode).2 =
        ((Validator.fresh options v.checker.mappers store₀ clock).validate store root mode).2 ∧
      ((v.validate store root mode).1.validate store root mode).2 = (v.validate store root mode).2 ∧
      (v.copy.validate store root mode).2 = (v.validate store root mode).2 := by
  intro v
  have hv : v.Sound options clock := (Validator.fresh_sound options mappers store₀ clock).applyAll ops
  obtain ⟨hfresh, hnext, hmappers⟩ := hv.validate store₀ store root mode
  refine ⟨hfresh, ?_, ?_⟩
  · -- the next validation answers as a fresh validator with the same mappers does
    rw [(hnext.validate store₀ store root mode).1, hmappers, hfresh]
  · rw [(hv.copy.validate store₀ store root mode).1, hfresh]
    rfl

end FieldRules.Validation
