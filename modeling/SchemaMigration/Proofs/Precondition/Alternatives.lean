import SchemaMigration.Proofs.Precondition.Flattening
import SchemaMigration.Proofs.Precondition.Meaning

/-! What a disjunction comes to. It passes with the first of its alternatives that passes; if none
does, it reports what all of them report, and since no alternative fails without a word, that is
something. Only where there are no alternatives is there nothing to report, and nothing reported is
a pass. -/

namespace SchemaMigration

theorem CheckResult.meaning_eq_pass_iff {r : CheckResult} : r.meaning = .pass ↔ r = .pass := by
  cases r <;> simp [meaning]

theorem Findings.result_eq_of_ne_pass {f : Findings} (not_passing : f.result ≠ .pass) :
    (f.errors ≠ [] ∨ f.failures ≠ []) ∧
      f.result = if f.errors ≠ [] then .errors f.errors f.failures else .failures f.failures := by
  obtain ⟨errors, failures⟩ := f
  cases errors with
  | cons e more => simp [result]
  | nil =>
    cases failures with
    | cons e more => simp [result]
    | nil => exact absurd rfl not_passing

namespace Precondition

variable (scene : Scene)

theorem foldlM_add_or (ps added : List Precondition) :
    added.foldlM add (.or ps) = .ok (.or (ps ++ added)) := by
  induction added generalizing ps with
  | nil =>
    rw [List.append_nil]
    rfl
  | cons part rest ih =>
    have whole := ih (ps ++ [part])
    rw [List.append_assoc, List.singleton_append] at whole
    rw [List.foldlM_cons]
    exact whole

theorem evaluateAny_of_passing (before : Findings) {ps : List Precondition}
    (passing : ∃ p ∈ ps, (p.evaluate scene).1 = .pass) :
    (evaluateAny scene before ps).1 = .pass := by
  induction ps generalizing before with
  | nil => simp at passing
  | cons p rest ih =>
    rw [evaluateAny_cons]
    by_cases first : (p.evaluate scene).1 = .pass
    · rw [if_pos (CheckResult.meaning_eq_pass_iff.mpr first)]
    · rw [if_neg (mt CheckResult.meaning_eq_pass_iff.mp first)]
      have later : ∃ q ∈ rest, (q.evaluate scene).1 = .pass := by simpa [first] using passing
      exact ih _ later

theorem evaluateAny_of_none_passing (before : Findings) {ps : List Precondition}
    (none_passing : ∀ p ∈ ps, (p.evaluate scene).1 ≠ .pass) :
    (evaluateAny scene before ps).1 = (before ++ (evaluateAll scene ps).1).result := by
  induction ps generalizing before with
  | nil => rw [evaluateAny, evaluateAll, Findings.append_empty]
  | cons p rest ih =>
    obtain ⟨first, others⟩ := List.forall_mem_cons.mp none_passing
    rw [evaluateAny_cons, if_neg (mt CheckResult.meaning_eq_pass_iff.mp first), evaluateAll_cons]
    dsimp only
    rw [ih _ others, Findings.append_assoc, found]

theorem result_evaluateAll_eq_pass_iff (ps : List Precondition) :
    (evaluateAll scene ps).1.result = .pass ↔ ∀ p ∈ ps, (p.evaluate scene).1 = .pass := by
  rw [← CheckResult.meaning_eq_pass_iff, ← Findings.meaning]
  induction ps with
  | nil => simp [evaluateAll, Findings.meaning, Findings.result, CheckResult.meaning]
  | cons p rest ih =>
    rw [evaluateAll_cons, Findings.meaning_append, found, meaning_found, List.forall_mem_cons, ← ih,
      ← CheckResult.meaning_eq_pass_iff]
    cases (p.evaluate scene).1.meaning <;> cases (evaluateAll scene rest).1.meaning
      <;> simp [Meaning.worse]

theorem evaluate_or_of_none_passing {ps : List Precondition}
    (none_passing : ∀ p ∈ ps, (p.evaluate scene).1 ≠ .pass) :
    ((Precondition.or ps).evaluate scene).1 = (evaluateAll scene ps).1.result := by
  rw [evaluate, evaluateAny_of_none_passing scene {} none_passing, Findings.empty_append]

theorem evaluate_or_eq_pass_iff (ps : List Precondition) :
    ((Precondition.or ps).evaluate scene).1 = .pass ↔ ps = [] ∨
      ∃ p ∈ ps, (p.evaluate scene).1 = .pass := by
  by_cases passing : ∃ p ∈ ps, (p.evaluate scene).1 = .pass
  · rw [evaluate]
    exact iff_of_true (evaluateAny_of_passing scene {} passing) (.inr passing)
  · have none_passing : ∀ p ∈ ps, (p.evaluate scene).1 ≠ .pass :=
      fun p hp passes => passing ⟨p, hp, passes⟩
    rw [evaluate_or_of_none_passing scene none_passing, result_evaluateAll_eq_pass_iff]
    cases ps with
    | nil => simp
    | cons p rest =>
      have first := none_passing p List.mem_cons_self
      exact iff_of_false (fun all => first (all p List.mem_cons_self))
        (not_or.mpr ⟨List.cons_ne_nil p rest, passing⟩)

/-- A disjunction passes exactly if it has no alternatives or one of them passes, however they came
into it. Else something is left behind by its alternatives, and it reports what all of them leave,
one after the other. -/
theorem or_passes_iff (ps added : List Precondition) :
    ∃ p, added.foldlM add (.or ps) = .ok p ∧
      let parts := ps ++ added
      let errors := parts.flatMap fun q => (q.found scene).errors
      let failures := parts.flatMap fun q => (q.found scene).failures
      ((p.evaluate scene).1 = .pass ↔ parts = [] ∨ ∃ q ∈ parts, (q.evaluate scene).1 = .pass) ∧
        ((p.evaluate scene).1 ≠ .pass →
          (errors ≠ [] ∨ failures ≠ []) ∧
            (p.evaluate scene).1 = if errors ≠ [] then
              .errors errors failures else .failures failures) := by
  refine ⟨_, foldlM_add_or ps added, evaluate_or_eq_pass_iff scene (ps ++ added),
    fun not_passing => ?_⟩
  have none_passing : ∀ q ∈ ps ++ added, (q.evaluate scene).1 ≠ .pass := fun q hq passes =>
    not_passing ((evaluate_or_eq_pass_iff scene (ps ++ added)).mpr (.inr ⟨q, hq, passes⟩))
  have reported := evaluate_or_of_none_passing scene none_passing
  rw [reported] at not_passing ⊢
  rw [evaluateAll_eq_flatMap] at not_passing ⊢
  exact Findings.result_eq_of_ne_pass not_passing

def unconnected : Scene where
  database := { name := "postgresql", style := .of (some .postgresql) }

def unfilled : Guard where
  preconditions := [.or []]

/-- No alternative passes, and what the guard stands before goes on; the contrary does not pass. -/
theorem unfilled_proceeds :
    (¬ ∃ q ∈ ([] : List Precondition), (q.evaluate unconnected).1 = .pass) ∧
      ((Precondition.or []).evaluate unconnected).1 = .pass ∧
    (unfilled.run unconnected).1 = .ok .proceed ∧
      ((Precondition.not (.or [])).evaluate unconnected).1 ≠ .pass :=
  ⟨by simp, rfl, rfl, nofun⟩

end Precondition

end SchemaMigration
