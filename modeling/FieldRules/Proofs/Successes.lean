import Mathlib
import FieldRules.Proofs.Addressable

/-! # Showing successes only adds results

Whether passing results are shown is read by `keep` alone: a failed rule's result is kept either
way, a passing rule's only when successes are shown. A walk that hides successes therefore goes
in lockstep with one that shows them, and its results are always the failures among the other's
(`walk_hiding_successes`). Validating with successes hidden answers as validating with them
shown, with the same error or with the report cut down to its failures and the same verdict,
which holds when no result failed; and the two validators stay alike but for the option
(`validate_hides_successes`). -/

namespace FieldRules.Validation

open Rule

/-- Keeping only the failures of a report keeps its verdict: the failures all pass exactly when
  no result failed. -/
theorem Report.ofResults_failures (rs : List CheckResult) :
    Report.ofResults (rs.filter (!·.valid)) =
      ⟨(Report.ofResults rs).valid, (Report.ofResults rs).failures⟩ := by
  have hall : (rs.filter (!·.valid)).all (·.valid) = rs.all (·.valid) := by
    induction rs with
    | nil => rfl
    | cons r rs ih => cases hr : r.valid <;> simp [hr, ih]
  simp [Report.ofResults, Report.failures, hall]

/-- A report is valid exactly when none of its results failed. -/
theorem Report.ofResults_valid_iff (rs : List CheckResult) :
    (Report.ofResults rs).valid = true ↔ ∀ r ∈ rs, r.valid = true := by
  simp [Report.ofResults]

namespace WalkContext

/-- With successes shown, hiding them keeps exactly the failures among what is kept. -/
theorem keep_hiding (o : Options) (store : Store) (addressable : Bool) (st : WalkState)
    (r : CheckResult) :
    (⟨o.set .showSuccesses false, store, addressable⟩ : WalkContext).keep
        (st.mapResults (List.filter (!·.valid))) r =
      ((⟨o.set .showSuccesses true, store, addressable⟩ : WalkContext).keep st r).mapResults
        (List.filter (!·.valid)) := by
  cases hr : r.valid <;> simp [keep, Options.set, WalkState.mapResults, hr]

/-- A walk with successes hidden ends as the walk with them shown, with only its failed
  results. -/
theorem walk_hiding_successes (o : Options) (store : Store) (addressable : Bool) (P : List Nat)
    (v : Value) (st : WalkState) :
    (⟨o.set .showSuccesses false, store, addressable⟩ : WalkContext).walk P v
        (st.mapResults (List.filter (!·.valid))) =
      ((⟨o.set .showSuccesses true, store, addressable⟩ : WalkContext).walk P v st).mapState
        (·.mapResults (List.filter (!·.valid))) :=
  walk_mapResults (keep_hiding o store addressable) ⟨rfl, rfl, rfl⟩ P v st

end WalkContext

/-- Showing successes only adds results. Validating with successes hidden fails exactly when
  validating with them shown fails, with the same error; otherwise its report is the shown one cut
  down to the failed results, in their order, with the same verdict, which holds exactly when no
  result failed. Afterwards the two validators are alike but for the option, so this holds of
  every later validation too. -/
theorem validate_hides_successes (v : Validator) (store : Store) (root : Value) (mode : Mode) :
    let shown : Validator := { v with options := v.options.set .showSuccesses true }
    let hidden : Validator := { v with options := v.options.set .showSuccesses false }
    (hidden.validate store root mode).2 =
        (shown.validate store root mode).2.map (fun rep => ⟨rep.valid, rep.failures⟩) ∧
      (∀ rep, (shown.validate store root mode).2 = .ok rep →
        (rep.valid = true ↔ ∀ r ∈ rep.results, r.valid = true)) ∧
      (hidden.validate store root mode).1 =
        { (shown.validate store root mode).1 with options := hidden.options } := by
  intro shown hidden
  obtain ⟨start, hstart⟩ := Validator.validate_walks store root mode
  rw [hstart hidden, hstart shown]
  rcases start with e | ⟨root', addressable⟩
  · refine ⟨rfl, fun rep h => ?_, rfl⟩
    cases h
  -- the first state holds no results, so it is its own failures
  have hwalk := WalkContext.walk_hiding_successes v.options store addressable [] root'
    ⟨(v.checker.withStore store).cleared, v.patterns, []⟩
  dsimp only
  erw [hwalk]
  rcases (⟨v.options.set .showSuccesses true, store, addressable⟩ : WalkContext).walk [] root'
    ⟨(v.checker.withStore store).cleared, v.patterns, []⟩ with ⟨e, st⟩ | st
  · refine ⟨rfl, fun rep h => ?_, rfl⟩
    cases h
  · refine ⟨?_, fun rep h => ?_, rfl⟩
    · simp only [WalkOutcome.mapState, WalkOutcome.report, WalkOutcome.results_ok, Except.map,
        WalkState.mapResults_results, ← List.filter_reverse, Report.ofResults_failures]
    · -- a report is made of its results
      cases h
      exact Report.ofResults_valid_iff _

end FieldRules.Validation
