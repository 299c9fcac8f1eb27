import SchemaMigration.Precondition.Evaluation

namespace SchemaMigration

variable {path : Option Value}

def CheckResult.naming (path : Option Value) : CheckResult → CheckResult
  | .failures entries => .failures (entries.map fun e => { e with changelog := path })
  | .errors entries failed =>
    .errors (entries.map fun e => { e with changelog := path })
      (failed.map fun e => { e with changelog := path })
  | result => result

def Scene.naming (path : Option Value) (scene : Scene) : Scene := { scene with changelog := path }

namespace Findings

def naming (path : Option Value) (f : Findings) : Findings where
  errors := f.errors.map fun e => { e with changelog := path }
  failures := f.failures.map fun e => { e with changelog := path }

theorem naming_append (f g : Findings) : (f ++ g).naming path = f.naming path ++ g.naming path := by
  change Findings.mk _ _ = Findings.mk _ _
  rw [mk.injEq]
  exact ⟨List.map_append, List.map_append⟩

theorem result_naming (f : Findings) : (f.naming path).result = f.result.naming path := by
  obtain ⟨errors, failures⟩ := f
  cases errors with
  | cons e more => rfl
  | nil =>
    cases failures with
    | cons e more => rfl
    | nil => rfl

theorem isEmpty_naming (f : Findings) : (f.naming path).isEmpty = f.isEmpty := by
  simp [isEmpty, naming]

theorem ofResult_naming (before : Option Value) (p : Precondition) (r : CheckResult) :
    ofResult path p (r.naming path) = (ofResult before p r).naming path := by
  cases r <;> rfl

end Findings

theorem Check.verdict_naming (scene : Scene) (c : Check) :
    c.verdict (scene.naming path) = c.verdict scene := by
  cases c with
  | dbms types => cases types <;> rfl
  | _ => rfl

namespace Precondition

theorem negated_naming (p : Precondition) (r : CheckResult) :
    negated p (r.naming path) = (negated p r).naming path := by
  cases r <;> rfl

theorem naming_result (v : Verdict) : v.result.naming path = v.result := by
  cases v <;> rfl

mutual

theorem evaluate_naming (scene : Scene) : (p : Precondition) →
    p.evaluate (scene.naming path) = ((p.evaluate scene).1.naming path, (p.evaluate scene).2)
  | .check c => by
    simp only [evaluate]
    rw [c.verdict_naming, naming_result]
  | .not p => by
    simp only [evaluate]
    rw [evaluate_naming scene p, negated_naming]
  | .and ps => by
    simp only [evaluate]
    rw [evaluateAll_naming scene ps, Findings.result_naming]
  | .or ps => by
    simp only [evaluate]
    exact evaluateAny_naming scene {} ps
  | .guard _ ps => by
    simp only [evaluate]
    rw [evaluateAll_naming scene ps, Findings.result_naming]

theorem evaluateAll_naming (scene : Scene) : (ps : List Precondition) →
    evaluateAll (scene.naming path) ps = ((evaluateAll scene ps).1.naming path,
      (evaluateAll scene ps).2)
  | [] => rfl
  | p :: rest => by
    simp only [evaluateAll]
    rw [evaluate_naming scene p, evaluateAll_naming scene rest, Findings.naming_append,
      ← Findings.ofResult_naming scene.changelog]
    rfl

theorem evaluateAny_naming (scene : Scene) (before : Findings) : (ps : List Precondition) →
    evaluateAny (scene.naming path) (before.naming path) ps =
      ((evaluateAny scene before ps).1.naming path, (evaluateAny scene before ps).2)
  | [] => by
    simp only [evaluateAny]
    rw [before.result_naming]
  | p :: rest => by
    have found : Findings.ofResult (scene.naming path).changelog p
      ((p.evaluate scene).1.naming path) =
        (Findings.ofResult scene.changelog p (p.evaluate scene).1).naming path :=
      Findings.ofResult_naming scene.changelog p _
    simp only [evaluateAny]
    rw [evaluate_naming scene p]
    dsimp only
    rw [found, Findings.isEmpty_naming, ← Findings.naming_append, evaluateAny_naming scene _ rest]
    split
    · rfl
    · rfl

end

end Precondition

namespace Guard

theorem react_naming (reaction : Reaction) (message : Value) (r : CheckResult) :
    (react reaction message (r.naming path)).1 = (react reaction message r).1.mapError
    (.naming path) := by
  cases reaction <;> rfl

theorem run_naming (scene : Scene) (g : Guard) :
    (g.run (scene.naming path)).1 = (g.run scene).1.mapError (.naming path) := by
  unfold run evaluate
  rw [Precondition.evaluate_naming]
  dsimp only
  cases (g.toPrecondition.evaluate scene).1 with
  | pass => rfl
  | fail message => rfl
  | broken fault => rfl
  | failures entries => exact react_naming _ _ (.failures entries)
  | errors entries failed => exact react_naming _ _ (.errors entries failed)

end Guard

end SchemaMigration
