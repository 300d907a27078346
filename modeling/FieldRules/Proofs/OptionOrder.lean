import Mathlib
import FieldRules.Proofs.HostOrder
import FieldRules.Validation.Options

/-! # Options applied in order

A validator's options are read from a sequence of name and value pairs, applied one after
another over the defaults (`Options.ofPairs`, one pair at a time by `Options.apply`). A pair is
a valid option when its name spells one of the two options, in snake or in camel case, and its
value is a truth value (`optionSetting`); nothing else counts as one, not `1` and not `"true"`.

Main statements:
* `ofPairs_eq_ok_iff`: reading succeeds exactly when every pair is a valid option, and then
  each option has the value of the last pair that names it, under either spelling, or its
  default.
* `ofPairs_first_invalid`: otherwise the first invalid pair decides the failure, an unknown
  name or a value that is no truth value, provided its name can be hashed and shown, as every
  text can (`ofPairs_text_first_invalid`).
* `ofEnv_eq_ok_iff`: options from the environment are the truth values their two variables
  spell, or the defaults.
* `options_fold_in_order` gathers the three, for options named by texts.
-/

namespace FieldRules.Validation

/-! ## Options one at a time -/

/-- The value of one option. -/
def Options.get (o : Options) : OptionName → Bool
  | .honorSerialization => o.honorSerialization
  | .showSuccesses => o.showSuccesses

@[simp] theorem Options.get_set (o : Options) (n m : OptionName) (b : Bool) :
    (o.set n b).get m = if n = m then b else o.get m := by
  cases n <;> cases m <;> rfl

/-- Options are their two values. -/
theorem Options.eq_mk_get (o : Options) :
    o = ⟨o.get .honorSerialization, o.get .showSuccesses⟩ := rfl

/-- The setting a pair makes when it is a valid option: a name that spells an option, and a
  truth value. -/
def optionSetting (s : Store) (option : Value × Value) : Option (OptionName × Bool) :=
  match optionNamed s option.1, s.resolve option.2 with
  | some name, .bool b => some (name, b)
  | _, _ => none

/-- The value that the last of some settings to name an option gives it, if one does. -/
def lastSetting (settings : List (OptionName × Bool)) (name : OptionName) : Option Bool :=
  ((settings.filter (·.1 = name)).getLast?).map Prod.snd

/-- After settings in turn, each option has its last setting, or the value it had. -/
theorem get_foldl_set (settings : List (OptionName × Bool)) (o₀ : Options) (name : OptionName) :
    (settings.foldl (fun o (m, b) => o.set m b) o₀).get name =
      (lastSetting settings name).getD (o₀.get name) := by
  induction settings generalizing o₀ with
  | nil => simp [lastSetting]
  | cons p ps ih =>
    obtain ⟨m, b⟩ := p
    rw [List.foldl_cons, ih]
    by_cases hm : m = name
    · -- this setting counts unless a later one names the option too
      subst hm
      cases hl : (ps.filter (·.1 = m)).getLast? <;> simp [lastSetting, List.getLast?_cons, hl]
    · simp [lastSetting, hm]

/-! ## One pair -/

section Apply

variable {s : Store} {o : Options} {n v : Value}

/-- A text can be hashed. -/
theorem unhashable_str (t : String) : s.unhashable (.str t) = none := by
  rw [Store.unhashable, Store.unhashablePart.eq_def]

/-- A name that spells an option is a text, or refers to a stored one, and can be hashed. -/
theorem unhashable_of_optionNamed {name : OptionName} (h : optionNamed s n = some name) :
    s.unhashable n = none := by
  unfold optionNamed at h
  split at h
  · rename_i t ht
    rcases Store.resolve_eq_str s ht with rfl | ⟨l, rfl, hl⟩
    · exact unhashable_str t
    · rw [Store.unhashable, Store.unhashablePart.eq_def]
      dsimp only
      rw [hl, Store.unhashablePart.eq_def]
  · cases h

/-- A valid option sets its option. -/
theorem apply_of_setting {name : OptionName} {b : Bool}
    (h : optionSetting s (n, v) = some (name, b)) : Options.apply s o (n, v) = .ok (o.set name b) := by
  unfold optionSetting at h
  split at h
  · rename_i name' b' hname hv
    cases h
    simp [Options.apply, unhashable_of_optionNamed hname, hname, hv, pure, Except.pure]
  · cases h

/-- A failure whose text is worked out first is a failure still. -/
theorem throw_after_ne_ok {α : Type} {m : Except ConfigError String} {f : String → ConfigError}
    {a : α} : (do let x ← m; throw (f x) : Except ConfigError α) ≠ .ok a := by
  cases m <;> simp [bind, Except.bind, throw, throwThe, MonadExceptOf.throw]

/-- Only a valid option is applied. -/
theorem setting_of_apply {o' : Options} (h : Options.apply s o (n, v) = .ok o') :
    ∃ name b, optionSetting s (n, v) = some (name, b) ∧ o' = o.set name b := by
  simp only [Options.apply] at h
  split at h
  · cases h
  · -- every way out but a truth value for a spelled name is a failure
    cases hname : optionNamed s n with
    | none =>
      rw [hname] at h
      exact absurd h throw_after_ne_ok
    | some name =>
      rw [hname] at h
      dsimp only at h
      split at h
      · rename_i b hv
        cases h
        exact ⟨name, b, by simp [optionSetting, hname, hv], rfl⟩
      · exact absurd h throw_after_ne_ok

/-- An invalid option whose name can be hashed and shown is refused by name: unknown, or
  with a value that is no truth value. -/
theorem apply_of_invalid (hbad : optionSetting s (n, v) = none) (hhash : s.unhashable n = none)
    {shown : String} (hshown : s.display n = .ok shown) :
    Options.apply s o (n, v) =
      .error (if (optionNamed s n).isSome then .notBool shown else .unknownOption shown) := by
  simp only [Options.apply, hhash, hshown]
  cases hname : optionNamed s n with
  | none => rfl
  | some name =>
    -- the name spells an option, so the value is the culprit
    have hv : ∀ b, s.resolve v ≠ .bool b := fun b hb => by
      simp [optionSetting, hname, hb] at hbad
    dsimp only
    split
    · rename_i b hb
      exact absurd hb (hv b)
    · rfl

/-- A text is shown as itself. -/
theorem display_str (t : String) : s.display (.str t) = .ok t := by
  rw [Store.display, Store.textOf.eq_def]
  rfl

end Apply

/-! ## A sequence of pairs -/

section Fold

variable {s : Store}

/-- Applying pairs succeeds exactly when every pair is a valid option, and then makes their
  settings in turn. -/
theorem foldlM_apply_eq_ok_iff (pairs : List (Value × Value)) (o₀ o : Options) :
    pairs.foldlM (Options.apply s) o₀ = .ok o ↔
      (∀ p ∈ pairs, (optionSetting s p).isSome) ∧
      o = (pairs.filterMap (optionSetting s)).foldl (fun o (m, b) => o.set m b) o₀ := by
  induction pairs generalizing o₀ with
  | nil =>
    simp only [List.foldlM_nil, List.not_mem_nil, IsEmpty.forall_iff, forall_const, true_and,
      List.filterMap_nil, List.foldl_nil]
    exact ⟨fun h => by cases h; rfl, fun h => by rw [h]; rfl⟩
  | cons p ps ih =>
    obtain ⟨n, v⟩ := p
    rw [List.foldlM_cons]
    cases happ : Options.apply s o₀ (n, v) with
    | error e =>
      -- an invalid pair stops the reading, whatever follows it
      have hbad : optionSetting s (n, v) = none := by
        cases hset : optionSetting s (n, v) with
        | none => rfl
        | some setting => simp [apply_of_setting hset] at happ
      simp [bind, Except.bind, hbad]
    | ok o₁ =>
      obtain ⟨name, b, hset, rfl⟩ := setting_of_apply happ
      simp [bind, Except.bind, ih, hset]

/-- Reading options succeeds exactly when every pair is a valid option; each option then has
  the value of the last pair that names it, or its default: true for honoring serialization,
  false for showing successes. -/
theorem ofPairs_eq_ok_iff (s : Store) (pairs : List (Value × Value)) (o : Options) :
    Options.ofPairs s pairs = .ok o ↔
      (∀ p ∈ pairs, (optionSetting s p).isSome) ∧
      o = ⟨(lastSetting (pairs.filterMap (optionSetting s)) .honorSerialization).getD true,
        (lastSetting (pairs.filterMap (optionSetting s)) .showSuccesses).getD false⟩ := by
  rw [Options.ofPairs, foldlM_apply_eq_ok_iff]
  refine and_congr_right fun _ => ?_
  rw [Options.eq_mk_get (List.foldl _ _ _), get_foldl_set, get_foldl_set]
  rfl

/-- The first invalid pair decides the failure, when its name can be hashed and shown: an
  unknown name, or a value that is no truth value for a name that spells an option. -/
theorem ofPairs_first_invalid (s : Store) {pre post : List (Value × Value)} {n v : Value}
    (hpre : ∀ p ∈ pre, (optionSetting s p).isSome) (hbad : optionSetting s (n, v) = none)
    (hhash : s.unhashable n = none) {shown : String} (hshown : s.display n = .ok shown) :
    Options.ofPairs s (pre ++ (n, v) :: post) =
      .error (if (optionNamed s n).isSome then .notBool shown else .unknownOption shown) := by
  obtain ⟨o₁, ho₁⟩ : ∃ o₁, pre.foldlM (Options.apply s) Options.defaults = .ok o₁ :=
    ⟨_, (foldlM_apply_eq_ok_iff pre _ _).2 ⟨hpre, rfl⟩⟩
  rw [Options.ofPairs, List.foldlM_append, ho₁]
  show List.foldlM (Options.apply s) o₁ ((n, v) :: post) = _
  rw [List.foldlM_cons, apply_of_invalid hbad hhash hshown]
  rfl

/-- A text names the option it spells. -/
theorem optionNamed_str (s : Store) (t : String) :
    optionNamed s (.str t) = optionSpellings.lookup t := rfl

/-- Among options named by texts, the first invalid one decides the failure, by its name. -/
theorem ofPairs_text_first_invalid (s : Store) {pre post : List (String × Value)} {n : String}
    {v : Value} (hpre : ∀ p ∈ pre, (optionSetting s (.str p.1, p.2)).isSome)
    (hbad : optionSetting s (.str n, v) = none) :
    Options.ofPairs s ((pre ++ (n, v) :: post).map fun p => (.str p.1, p.2)) =
      .error (if (optionSpellings.lookup n).isSome then .notBool n else .unknownOption n) := by
  have hpre' : ∀ p ∈ pre.map fun p => ((.str p.1 : Value), p.2), (optionSetting s p).isSome := by
    intro p hp
    obtain ⟨q, hq, rfl⟩ := List.mem_map.1 hp
    exact hpre q hq
  rw [List.map_append, List.map_cons, ← optionNamed_str s n]
  exact ofPairs_first_invalid s hpre' hbad (unhashable_str n) (display_str n)

end Fold

/-! ## The environment -/

/-- The variable that sets honoring serialization. -/
def honorVariable : String := "TAGEVAL_HONOR_SERIALIZATION_SEMANTICS"

/-- The variable that sets showing successes. -/
def successesVariable : String := "TAGEVAL_SHOW_SUCCESSES"

/-- Options from the environment: reading succeeds exactly when each of the two variables that
  is set spells a truth value, and each option then has that value, or its default. -/
theorem ofEnv_eq_ok_iff (env : List (String × String)) (o : Options) :
    Options.ofEnv env = .ok o ↔
      (∀ key ∈ [honorVariable, successesVariable], ∀ raw, env.lookup key = some raw →
        (envTruth raw).isSome) ∧
      o = ⟨((env.lookup honorVariable).bind envTruth).getD true,
        ((env.lookup successesVariable).bind envTruth).getD false⟩ := by
  simp only [Options.ofEnv, envKeys, List.foldlM_cons, List.foldlM_nil, List.mem_cons,
    List.not_mem_nil, or_false, forall_eq_or_imp, forall_eq, honorVariable, successesVariable]
  rw [@eq_comm _ o]
  -- the first variable is read first: when it is set and spells nothing, the second is not read
  cases h₁ : env.lookup "TAGEVAL_HONOR_SERIALIZATION_SEMANTICS" with
  | none =>
    cases h₂ : env.lookup "TAGEVAL_SHOW_SUCCESSES" with
    | none => simp [bind, Except.bind, pure, Except.pure, Options.defaults]
    | some raw₂ =>
      cases e₂ : envTruth raw₂ <;>
        simp [bind, Except.bind, pure, Except.pure, Options.defaults, Options.set, e₂]
  | some raw₁ =>
    cases e₁ : envTruth raw₁ with
    | none => simp [bind, Except.bind, e₁]
    | some b₁ =>
      cases h₂ : env.lookup "TAGEVAL_SHOW_SUCCESSES" with
      | none => simp [bind, Except.bind, pure, Except.pure, Options.defaults, Options.set, e₁]
      | some raw₂ =>
        cases e₂ : envTruth raw₂ <;>
          simp [bind, Except.bind, pure, Except.pure, Options.defaults, Options.set, e₁, e₂]

/-! ## Options in order -/

/-- Reading options named by texts applies them in order over the defaults. It succeeds exactly
  when every name spells an option and every value is a truth value, and each option then has
  the value of the last pair that names it, under either spelling, or its default. Otherwise the
  first invalid pair is refused by its name: as an unknown option, or for a value that is no
  truth value. From the environment, each option has the truth value its variable spells, or its
  default. -/
theorem options_fold_in_order :
    (∀ (s : Store) (pairs : List (String × Value)) (o : Options),
      Options.ofPairs s (pairs.map fun p => (.str p.1, p.2)) = .ok o ↔
        (∀ p ∈ pairs, (optionSetting s (.str p.1, p.2)).isSome) ∧
        o = ⟨(lastSetting (pairs.filterMap fun p => optionSetting s (.str p.1, p.2))
              .honorSerialization).getD true,
          (lastSetting (pairs.filterMap fun p => optionSetting s (.str p.1, p.2))
              .showSuccesses).getD false⟩) ∧
    (∀ (s : Store) (pre post : List (String × Value)) (n : String) (v : Value),
      (∀ p ∈ pre, (optionSetting s (.str p.1, p.2)).isSome) → optionSetting s (.str n, v) = none →
      ∃ e, Options.ofPairs s ((pre ++ (n, v) :: post).map fun p => (.str p.1, p.2)) = .error e ∧
        e.kind = "ConfigurationError" ∧
        e.message = if (optionSpellings.lookup n).isSome then "bool value expected for option " ++ n
          else "unknown option: " ++ n) ∧
    ∀ (env : List (String × String)) (o : Options),
      Options.ofEnv env = .ok o ↔
        (∀ key ∈ [honorVariable, successesVariable], ∀ raw, env.lookup key = some raw →
          (envTruth raw).isSome) ∧
        o = ⟨((env.lookup honorVariable).bind envTruth).getD true,
          ((env.lookup successesVariable).bind envTruth).getD false⟩ := by
  refine ⟨fun s pairs o => ?_, fun s pre post n v hpre hbad => ?_, ofEnv_eq_ok_iff⟩
  · -- a text pair is valid exactly when the pair of values it stands for is
    rw [ofPairs_eq_ok_iff, List.forall_mem_map, List.filterMap_map]
    rfl
  · refine ⟨_, ofPairs_text_first_invalid s hpre hbad, ?_, ?_⟩ <;> split <;> rfl

/-- A valid option, then an unknown one, then a value that is no truth value: the unknown name
  is reported, and the last pair is never looked at. -/
theorem options_unknown_after_valid :
    (∀ p ∈ [("showSuccesses", Value.bool true)], (optionSetting {} (.str p.1, p.2)).isSome) ∧
    optionSetting {} (.str "verbose", .bool true) = none ∧
    ∃ e, Options.ofPairs {} (([("showSuccesses", .bool true)] ++
        ("verbose", .bool true) :: [("showSuccesses", .int 1)] : List (String × Value)).map
          fun p => (.str p.1, p.2)) =
        .error e ∧
      e.kind = "ConfigurationError" ∧ e.message = "unknown option: verbose" := by
  have hpre : ∀ p ∈ [("showSuccesses", Value.bool true)], (optionSetting {} (.str p.1, p.2)).isSome := by
    simp only [List.mem_singleton, forall_eq]
    rfl
  have hbad : optionSetting {} (.str "verbose", .bool true) = none := rfl
  have hunknown : optionSpellings.lookup "verbose" = none := rfl
  obtain ⟨e, he, hk, hm⟩ :=
    options_fold_in_order.2.1 {} _ [("showSuccesses", .int 1)] _ _ hpre hbad
  rw [hunknown] at hm
  exact ⟨hpre, hbad, e, he, hk, hm⟩

end FieldRules.Validation
