import SchemaMigration.Proofs.Precondition.Flattening
import SchemaMigration.Proofs.Precondition.Meaning

/-! When a guard stops what it guards. Its policy tells failures from errors, but one error among
the preconditions makes an error of all that was found; so which of the two reactions counts depends
on whether anything could not be evaluated, and a failure beside it is left to the reaction to
errors. -/

namespace SchemaMigration

namespace Findings

theorem errors_ofResult_eq_nil_iff (changelog : Option Value) (p : Precondition) {r : CheckResult}
    (filled : r.IsFilled) : (ofResult changelog p r).errors = [] ↔ r.meaning ≠ .error := by
  cases r with
  | pass => simp [ofResult, CheckResult.meaning]
  | fail message => simp [ofResult, CheckResult.meaning]
  | broken fault => simp [ofResult, CheckResult.meaning]
  | failures entries => simp [ofResult, CheckResult.meaning]
  | errors entries failed => exact iff_of_false filled fun none_broken => none_broken rfl

end Findings

namespace Precondition

theorem errors_evaluateAll_eq_nil_iff (scene : Scene) (ps : List Precondition) :
    (evaluateAll scene ps).1.errors = [] ↔ ∀ p ∈ ps, (p.evaluate scene).1.meaning ≠ .error := by
  induction ps with
  | nil => simp [evaluateAll]
  | cons p rest ih =>
    rw [evaluateAll_cons, Findings.errors_append, List.append_eq_nil_iff, found,
      Findings.errors_ofResult_eq_nil_iff _ _ (isFilled_evaluate scene p), ih, List.forall_mem_cons]

end Precondition

/-- How a reaction lets what is guarded go on; one of them does not. -/
def Reaction.passage? : Reaction → Option Passage
  | .halt => none
  | .warn => some .proceed
  | .retry => some .skip
  | .markRan => some .markRan

namespace Guard

variable (scene : Scene)

theorem react_eq (reaction : Reaction) (message : Value) (report : CheckResult) :
    (react reaction message report).1 = (reaction.passage?.elim (.error report) .ok) := by
  cases reaction <;> rfl

theorem run_eq (g : Guard) :
    (g.run scene).1 =
      let found := (Precondition.evaluateAll scene g.preconditions).1
      if found.errors ≠ [] then
        g.policy.onError.passage?.elim (.error (.errors found.errors found.failures)) .ok
      else if found.failures ≠ [] then
        g.policy.onFail.passage?.elim (.error (.failures found.failures)) .ok
      else .ok .proceed := by
  have evaluated : (g.evaluate scene).1 =
      (Precondition.evaluateAll scene g.preconditions).1.result := by
    unfold evaluate toPrecondition Precondition.evaluate
    rfl
  unfold run
  rw [evaluated]
  obtain ⟨errors, failures⟩ := (Precondition.evaluateAll scene g.preconditions).1
  cases errors with
  | cons e more => exact react_eq _ _ _
  | nil =>
    cases failures with
    | cons f more => exact react_eq _ _ _
    | nil => rfl

/-- A guard that is to halt on failures, and has found one, halts exactly if it is to halt on errors
as well or if none of its preconditions errs; it reports the failures that it has found. Else it
goes on as it is to on errors. -/
theorem isHalted_iff_of_failures (g : Guard) (halting : g.policy.onFail = .halt)
    (failed : (Precondition.evaluateAll scene g.preconditions).1.failures ≠ []) :
    ((∃ report, (g.run scene).1 = .error report) ↔
        g.policy.onError = .halt ∨ ∀ p ∈ g.preconditions, (p.evaluate scene).1.meaning ≠ .error) ∧
      (∀ report, (g.run scene).1 = .error report →
        report = (Precondition.evaluateAll scene g.preconditions).1.result) ∧
      ∀ passage, (g.run scene).1 = .ok passage → g.policy.onError.passage? = some passage := by
  rw [run_eq, ← Precondition.errors_evaluateAll_eq_nil_iff, halting]
  generalize (Precondition.evaluateAll scene g.preconditions).1 = found at failed ⊢
  obtain ⟨errors, failures⟩ := found
  cases failures with
  | nil => exact absurd rfl failed
  | cons f more =>
    cases errors with
    | nil => simp [Reaction.passage?, Findings.result]
    | cons e others => cases g.policy.onError <;> simp [Reaction.passage?, Findings.result]

def emptyCustomers : Guard where
  policy := { onFail := .halt, onError := .warn }
  preconditions := [
    .check (.sqlCheck (.text "SELECT count(*) FROM customers") (.int 0)),
    .check (.tableExists (.text "customers") .null)]

def withoutCustomers : Scene where
  database := {
    name := "sqlite"
    style := .of (some .sqlite)
    engine := some ({} : EngineScript).engine }
  changelog := some (.text "db/changelog.py")

/-- The table is not there, and the guard lets pass. -/
theorem emptyCustomers_proceeds :
    emptyCustomers.policy.onFail = .halt ∧
      (Precondition.evaluateAll withoutCustomers emptyCustomers.preconditions).1.failures ≠ [] ∧
      (emptyCustomers.run withoutCustomers).1 = .ok .proceed :=
  ⟨rfl, by decide +kernel, by rfl⟩

theorem isHalted_iff_of_failures_emptyCustomers :
    emptyCustomers.policy.onFail = .halt ∧
      (Precondition.evaluateAll withoutCustomers emptyCustomers.preconditions).1.failures ≠ [] ∧
      ((∃ report, (emptyCustomers.run withoutCustomers).1 = .error report) ↔
        emptyCustomers.policy.onError = .halt ∨
          ∀ p ∈ emptyCustomers.preconditions, (p.evaluate withoutCustomers).1.meaning ≠ .error) ∧
      ∀ passage, (emptyCustomers.run withoutCustomers).1 = .ok passage →
        emptyCustomers.policy.onError.passage? = some passage := by
  have failed : (Precondition.evaluateAll withoutCustomers
      emptyCustomers.preconditions).1.failures ≠ [] := by
    decide +kernel
  obtain ⟨halted, -, goes_on⟩ := isHalted_iff_of_failures withoutCustomers emptyCustomers rfl failed
  exact ⟨rfl, failed, halted, goes_on⟩

end Guard

end SchemaMigration
