import SchemaMigration.Precondition.Evaluation

/-! Scopes inside scopes. What a conjunction finds goes up as one batch and is taken apart again by
the scope around it, so it makes no difference to a report whether preconditions stand in a scope of
their own or directly among its siblings. -/

namespace SchemaMigration

namespace Findings

@[ext] theorem ext {f g : Findings} (errors : f.errors = g.errors)
    (failures : f.failures = g.failures) :
    f = g := by
  cases f
  cases g
  cases errors
  cases failures
  rfl

@[simp] theorem errors_append (f g : Findings) : (f ++ g).errors = f.errors ++ g.errors := rfl

@[simp] theorem failures_append (f g : Findings) :
    (f ++ g).failures = f.failures ++ g.failures := rfl

theorem empty_append (f : Findings) : {} ++ f = f := rfl

theorem append_empty (f : Findings) : f ++ {} = f := by
  ext1
  · exact List.append_nil _
  · exact List.append_nil _

theorem append_assoc (f g h : Findings) : f ++ g ++ h = f ++ (g ++ h) := by
  ext1
  · exact List.append_assoc _ _ _
  · exact List.append_assoc _ _ _

@[simp] theorem ofResult_result (changelog : Option Value) (p : Precondition) (f : Findings) :
    ofResult changelog p f.result = f := by
  obtain ⟨errors, failures⟩ := f
  cases errors with
  | cons e more => rfl
  | nil =>
    cases failures with
    | cons e more => rfl
    | nil => rfl

end Findings

namespace Precondition

variable (scene : Scene)

def found (p : Precondition) : Findings := .ofResult scene.changelog p (p.evaluate scene).1

theorem evaluateAll_cons (p : Precondition) (rest : List Precondition) :
    evaluateAll scene (p :: rest) =
      (p.found scene ++ (evaluateAll scene rest).1, (p.evaluate scene).2 ++
        (evaluateAll scene rest).2) := by
  rw [evaluateAll]
  rfl

theorem evaluateAll_append (ps qs : List Precondition) :
    evaluateAll scene (ps ++ qs) =
      ((evaluateAll scene ps).1 ++ (evaluateAll scene qs).1,
        (evaluateAll scene ps).2 ++ (evaluateAll scene qs).2) := by
  induction ps with
  | nil => simp [evaluateAll, Findings.empty_append]
  | cons p rest ih =>
    rw [List.cons_append, evaluateAll_cons, evaluateAll_cons, ih]
    rw [Findings.append_assoc, List.append_assoc]

theorem evaluateAll_singleton (p : Precondition) :
    evaluateAll scene [p] = (p.found scene, (p.evaluate scene).2) := by
  rw [evaluateAll_cons, evaluateAll, Findings.append_empty, List.append_nil]

theorem evaluateAll_and (ps : List Precondition) :
    evaluateAll scene [.and ps] = evaluateAll scene ps := by
  rw [evaluateAll_singleton, found, evaluate, Findings.ofResult_result]

theorem evaluateAll_guard (policy : Policy) (ps : List Precondition) :
    evaluateAll scene [.guard policy ps] = evaluateAll scene ps := by
  rw [evaluateAll_singleton, found, evaluate, Findings.ofResult_result]

mutual
def opened : Precondition → List Precondition
  | .and ps => openedAll ps
  | .guard _ ps => openedAll ps
  | .check c => [.check c]
  | .not p => [.not p]
  | .or ps => [.or ps]

def openedAll : List Precondition → List Precondition
  | [] => []
  | p :: rest => opened p ++ openedAll rest
end

def isScope : Precondition → Bool
  | .and _ => true
  | .guard _ _ => true
  | _ => false

mutual

theorem not_isScope_of_mem_opened : (p : Precondition) → ∀ q ∈ p.opened, q.isScope = false
  | .and ps, q, hq => not_isScope_of_mem_openedAll ps q (by simpa [opened] using hq)
  | .guard _ ps, q, hq => not_isScope_of_mem_openedAll ps q (by simpa [opened] using hq)
  | .check c, q, hq => by
    obtain rfl : q = .check c := by simpa [opened] using hq
    rfl
  | .not p, q, hq => by
    obtain rfl : q = .not p := by simpa [opened] using hq
    rfl
  | .or ps, q, hq => by
    obtain rfl : q = .or ps := by simpa [opened] using hq
    rfl

theorem not_isScope_of_mem_openedAll :
    (ps : List Precondition) → ∀ q ∈ openedAll ps, q.isScope = false
  | [], q, hq => by
    cases hq
  | p :: rest, q, hq => by
    rcases List.mem_append.mp (by simpa [openedAll] using hq) with here | later
    · exact not_isScope_of_mem_opened p q here
    · exact not_isScope_of_mem_openedAll rest q later

end

mutual

theorem evaluateAll_opened : (p : Precondition) → evaluateAll scene p.opened = evaluateAll scene [p]
  | .and ps => by
    rw [opened, evaluateAll_and, evaluateAll_openedAll ps]
  | .guard policy ps => by
    rw [opened, evaluateAll_guard, evaluateAll_openedAll ps]
  | .check c => by rw [opened]
  | .not p => by rw [opened]
  | .or ps => by rw [opened]

theorem evaluateAll_openedAll :
    (ps : List Precondition) → evaluateAll scene (openedAll ps) = evaluateAll scene ps
  | [] => rfl
  | p :: rest => by
    rw [openedAll, evaluateAll_append, evaluateAll_opened p, evaluateAll_openedAll rest,
      ← evaluateAll_append, List.singleton_append]

end

theorem evaluateAll_eq_flatMap (ps : List Precondition) :
    (evaluateAll scene ps).1 =
      ⟨ps.flatMap fun p => (p.found scene).errors, ps.flatMap fun p =>
        (p.found scene).failures⟩ := by
  induction ps with
  | nil => rfl
  | cons p rest ih =>
    rw [evaluateAll_cons, ih]
    rfl

/-- A scope among other preconditions can be replaced by its parts: the same is found, and the same
checks are made, in the same order. So a guard reports, and does, what the guard over its opened
parts does; and what it finds are the entries of these, each once. -/
theorem evaluateAll_spliced :
    (∀ ps qs rs : List Precondition,
      evaluateAll scene (ps ++ [.and qs] ++ rs) = evaluateAll scene (ps ++ qs ++ rs) ∧
        ∀ policy, evaluateAll scene (ps ++ [.guard policy qs] ++ rs) =
          evaluateAll scene (ps ++ qs ++ rs)) ∧
      ∀ g : Guard,
        (g.evaluate scene = { g with preconditions := openedAll g.preconditions }.evaluate scene ∧
          g.run scene = { g with preconditions := openedAll g.preconditions }.run scene) ∧
        (∀ p ∈ openedAll g.preconditions, p.isScope = false) ∧
        (evaluateAll scene g.preconditions).1 =
          ⟨(openedAll g.preconditions).flatMap fun p => (p.found scene).errors,
            (openedAll g.preconditions).flatMap fun p => (p.found scene).failures⟩ := by
  refine ⟨fun ps qs rs => ⟨?_, fun policy => ?_⟩, fun g => ?_⟩
  · simp only [evaluateAll_append, evaluateAll_and]
  · simp only [evaluateAll_append, evaluateAll_guard]
  · have same : g.evaluate scene = { g with preconditions := openedAll g.preconditions }.evaluate
        scene := by
      unfold Guard.evaluate Guard.toPrecondition evaluate
      rw [evaluateAll_openedAll]
    refine ⟨⟨same, ?_⟩, not_isScope_of_mem_openedAll g.preconditions, ?_⟩
    · unfold Guard.run
      rw [same]
    · rw [← evaluateAll_eq_flatMap, evaluateAll_openedAll]

end Precondition

end SchemaMigration
