import Mathlib
import FieldRules.Proofs.History

/-! # How a rule's check fails

Checking an expression rule fails with a mapping error only when a mapper is registered for
the value's exact type, with a compile error only when the rule does not read, and with an
execute error only when it does (`check_errors`). Two failures of the host get past these
errors: an integer literal with more digits than the reader converts, in the rule or in a
mapper's snippet, fails as the host's refusal to convert it, and a rule whose value is a
signaling NaN fails as the host's refusal to take its truth (`CheckError.HostLetThrough`). A
rule of 4301 digits shows the first (`check_long_integer_escapes`). -/

namespace FieldRules.Rule

open Lang

/-- A failure of the host that a rule's check lets through: an integer literal too long to
  convert, or the truth of a signaling NaN refused. -/
def CheckError.HostLetThrough : CheckError → Prop
  | .host (.valueError m) => ∃ n, m = (LexError.integerTooLong n).message
  | .host (.decimal .invalidOperation) => True
  | _ => False

/-- Only a signaling NaN has its truth refused. -/
theorem Value.truth_error {v : Value} {f : Fault} (h : v.truth = .error f) :
    f = .decimal .invalidOperation := by
  cases v <;> simp only [Value.truth, reduceCtorEq] at h
  split at h
  · exact (Except.error.inj h).symm
  · cases h

namespace ExprChecker

/-- Preparing a value fails with a mapping error only when a mapper is registered for its exact
  type, or with a literal of the mapper's snippet too long to convert. -/
theorem prepare_errors (c : ExprChecker) (v : Value) :
    ErrorsIn (fun e => (∃ t m, e = .mapping t m ∧
        (c.mappers.lookup (TypeKey.of (c.session.store.resolve v))).isSome) ∨ e.HostLetThrough)
      (c.prepare v).2 := by
  unfold prepare
  dsimp only
  split
  · exact ErrorsIn.ok v
  · rename_i m hm
    split
    · simp [hm]
    · split
      · simp
      · exact (ErrorsIn.error_iff _).2 (.inr ⟨_, rfl⟩)
      · simp [hm]

/-- How checking a rule fails: with a mapping error only when a mapper is registered for the
  value's exact type, with a compile error only when the rule does not read for another reason
  than a literal too long to convert, with an execute error only when the rule reads, or with
  one of the failures of the host let through. -/
theorem check_errors (c : ExprChecker) (hc : CacheCoherent parse c.scripts) (name : String)
    (v : Value) (expr : String) :
    ErrorsIn (fun e =>
        (∃ t m, e = .mapping t m ∧
          (c.mappers.lookup (TypeKey.of (c.session.store.resolve v))).isSome) ∨
        (∃ m, e = .script .compile name expr m ∧
          ∃ se, parse expr = .error se ∧ ∀ n, se ≠ .lex (.integerTooLong n)) ∨
        (∃ m, e = .script .execute name expr m ∧ ∃ p, parse expr = .ok p) ∨
        e.HostLetThrough)
      (c.check name v expr).2 := by
  have hprep := c.prepare_errors v
  have hkept := (c.prepare_keeps v).1
  unfold ExprChecker.check
  generalize c.prepare v = q at hprep hkept ⊢
  obtain ⟨d, r⟩ := q
  cases r with
  | error e =>
    -- preparing failed
    intro e' he'
    obtain rfl := Except.error.inj he'
    rcases hprep e rfl with hmap | hhost
    · exact .inl hmap
    · exact .inr (.inr (.inr hhost))
  | ok w =>
    -- the rule is read from the kept programs, which give what reading it gives
    dsimp only
    have hcoh : CacheCoherent parse ({ d with session := d.session.bind name w } : ExprChecker).scripts :=
      hkept ▸ hc
    obtain ⟨hread, -⟩ := compileRule_of_coherent hcoh expr
    generalize ({ d with session := d.session.bind name w } : ExprChecker).compileRule expr = q
      at hread ⊢
    obtain ⟨d', r'⟩ := q
    dsimp only at hread
    subst hread
    cases hparse : parse expr with
    | error se =>
      cases se with
      | lex le =>
        cases le with
        | unexpectedChar ch pos line col => simp
        | integerTooLong n => exact (ErrorsIn.error_iff _).2 (.inr (.inr (.inr ⟨_, rfl⟩)))
      | parse pe => simp
    | ok p =>
      -- the rule reads: running it fails as an execute error, or its value's truth is refused
      dsimp only
      generalize d'.session.run p = q'
      obtain ⟨ss, r''⟩ := q'
      cases r'' with
      | error e => simp
      | ok result =>
        dsimp only
        cases htruth : ss.store.truth result with
        | ok b => exact ErrorsIn.ok b
        | error f =>
          have hf := Value.truth_error htruth
          subst hf
          simp [CheckError.HostLetThrough]

/-- A rule with an integer literal too long to convert fails as the host's refusal to convert
  it, once the value is prepared. -/
theorem check_integer_too_long {c : ExprChecker} (hc : CacheCoherent parse c.scripts)
    {v w : Value} (hprep : (c.prepare v).2 = .ok w) {name src : String} {n : Nat}
    (hparse : parse src = .error (.lex (.integerTooLong n))) :
    (c.check name v src).2 = .error (.host (.valueError (LexError.integerTooLong n).message)) := by
  have hkept := (c.prepare_keeps v).1
  unfold ExprChecker.check
  generalize c.prepare v = q at hprep hkept ⊢
  obtain ⟨d, r⟩ := q
  dsimp only at hprep hkept
  subst hprep
  dsimp only
  have hcoh : CacheCoherent parse ({ d with session := d.session.bind name w } : ExprChecker).scripts :=
    hkept ▸ hc
  obtain ⟨hread, -⟩ := compileRule_of_coherent hcoh src
  generalize ({ d with session := d.session.bind name w } : ExprChecker).compileRule src = q at hread ⊢
  obtain ⟨d', r'⟩ := q
  dsimp only at hread
  subst hread
  rw [hparse]

end ExprChecker

/-- A rule that is an integer literal of 4301 digits fails with the host's refusal to convert
  it, not with a compile error. -/
theorem check_long_integer_escapes :
    ((ExprChecker.start {} 0).check "a" (.int 1)
        (Program.print ⟨[.eval (.lit (.int (10 ^ 4300 : Nat)))]⟩)).2 =
      .error (.host (.valueError (LexError.integerTooLong 4301).message)) := by
  have hparse := parse_print_integer_too_long (m := 10 ^ 4300)
    (pow_le_pow_right₀ (by norm_num) (by decide))
  rw [length_toDigits_pow (k := 4300) (by decide)] at hparse
  have hk : (TypeKey.named "int" == TypeKey.named "datetime") = false := by decide
  have hprep : ((ExprChecker.start {} 0).prepare (.int 1)).2 = .ok (.int 1) := by
    simp [ExprChecker.prepare, ExprChecker.start, Session.start, hk, TypeKey.of, Store.resolve,
      List.lookup, Value.typeName]
  exact ExprChecker.check_integer_too_long CacheCoherent.nil hprep hparse

end FieldRules.Rule
