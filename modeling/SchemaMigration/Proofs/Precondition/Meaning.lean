import SchemaMigration.Precondition.Evaluation

/-! What preconditions mean, apart from what they report. A precondition passes, fails or errs; a
composite one takes its value from those of its parts, and which checks are made follows from these
values, too. Evaluation reports batches, and that does not change the value: no batch is empty, and
every error is handed on. -/

namespace SchemaMigration

inductive Meaning
  | pass
  | fail
  | error
  deriving DecidableEq, Repr

namespace Meaning

def ofAll (parts : List Meaning) : Meaning :=
  if .error ∈ parts then .error
  else if .fail ∈ parts then .fail
  else .pass

def ofAny (parts : List Meaning) : Meaning :=
  if .pass ∈ parts then .pass
  else if .error ∈ parts then .error
  else .fail

def negated : Meaning → Meaning
  | .pass => .fail
  | .fail => .pass
  | .error => .error

def worse : Meaning → Meaning → Meaning
  | .error, _ => .error
  | _, .error => .error
  | .fail, _ => .fail
  | _, m => m

@[simp] theorem pass_worse (m : Meaning) : worse .pass m = m := by
  cases m <;> rfl

theorem worse_assoc (l m n : Meaning) : (l.worse m).worse n = l.worse (m.worse n) := by
  cases l <;> cases m <;> cases n <;> rfl

theorem ofAll_cons (m : Meaning) (parts : List Meaning) :
    ofAll (m :: parts) = m.worse (ofAll parts) := by
  cases m with
  | pass => simp [ofAll]
  | error => simp [ofAll, worse]
  | fail =>
    by_cases broken : .error ∈ parts
    · simp [ofAll, broken, worse]
    · by_cases failed : .fail ∈ parts
      · simp [ofAll, broken, failed, worse]
      · simp [ofAll, broken, failed, worse]

theorem ofAny_eq_ofAll {parts : List Meaning} (some_part : parts ≠ [])
    (none_passes : .pass ∉ parts) :
    ofAny parts = ofAll parts := by
  by_cases broken : .error ∈ parts
  · simp [ofAny, ofAll, none_passes, broken]
  · -- every part is a failure
    have failed : .fail ∈ parts := by
      obtain ⟨m, hm⟩ := List.exists_mem_of_ne_nil parts some_part
      cases m with
      | pass => exact absurd hm none_passes
      | fail => exact hm
      | error => exact absurd hm broken
    simp [ofAny, ofAll, none_passes, broken, failed]

end Meaning

def Verdict.meaning : Verdict → Meaning
  | .pass => .pass
  | .fail _ => .fail
  | .error _ => .error

/-- The value that a result stands for: a failure may be one or a batch, and so may an error. -/
def CheckResult.meaning : CheckResult → Meaning
  | .pass => .pass
  | .fail _ => .fail
  | .failures _ => .fail
  | .broken _ => .error
  | .errors _ _ => .error

namespace Precondition

mutual
/-- The value of a precondition, by those of its parts. -/
def meaning (scene : Scene) : Precondition → Meaning
  | .check c => (c.verdict scene).meaning
  | .not p => (meaning scene p).negated
  | .and ps => .ofAll (meanings scene ps)
  | .or ps => .ofAny (meanings scene ps)
  | .guard _ ps => .ofAll (meanings scene ps)

def meanings (scene : Scene) : List Precondition → List Meaning
  | [] => []
  | p :: rest => meaning scene p :: meanings scene rest
end

mutual
/-- The checks to be made for a precondition, in order. -/
def checks (scene : Scene) : Precondition → List Check
  | .check c => [c]
  | .not p => checks scene p
  | .and ps => checksOfAll scene ps
  | .or ps => checksOfAny scene ps
  | .guard _ ps => checksOfAll scene ps

def checksOfAll (scene : Scene) : List Precondition → List Check
  | [] => []
  | p :: rest => checks scene p ++ checksOfAll scene rest

def checksOfAny (scene : Scene) : List Precondition → List Check
  | [] => []
  | p :: rest =>
    checks scene p ++ if meaning scene p = .pass then [] else checksOfAny scene rest
end

mutual
/-- Whether every alternative of a precondition, at any depth, is one of some parts. -/
def hasAlternatives : Precondition → Bool
  | .check _ => true
  | .not p => hasAlternatives p
  | .and ps => haveAlternatives ps
  | .or ps => !ps.isEmpty && haveAlternatives ps
  | .guard _ ps => haveAlternatives ps

def haveAlternatives : List Precondition → Bool
  | [] => true
  | p :: rest => hasAlternatives p && haveAlternatives rest
end

end Precondition

def CheckResult.IsFilled : CheckResult → Prop
  | .failures entries => entries ≠ []
  | .errors entries _ => entries ≠ []
  | _ => True

theorem Verdict.isFilled_result (v : Verdict) : v.result.IsFilled := by
  cases v <;> trivial

theorem Verdict.meaning_result (v : Verdict) : v.result.meaning = v.meaning := by
  cases v <;> rfl

namespace Findings

def meaning (f : Findings) : Meaning := f.result.meaning

theorem isFilled_result (f : Findings) : f.result.IsFilled := by
  obtain ⟨errors, failures⟩ := f
  cases errors with
  | cons e more => simp [result, CheckResult.IsFilled]
  | nil =>
    cases failures with
    | cons e more => simp [result, CheckResult.IsFilled]
    | nil => trivial

theorem meaning_append (f g : Findings) : (f ++ g).meaning = f.meaning.worse g.meaning := by
  obtain ⟨errors, failures⟩ := f
  obtain ⟨errors', failures'⟩ := g
  change (Findings.mk (errors ++ errors') (failures ++ failures')).meaning = _
  cases errors <;> cases failures <;> cases errors' <;> cases failures' <;> rfl

theorem isEmpty_iff (f : Findings) : f.isEmpty = true ↔ f.meaning = .pass := by
  obtain ⟨errors, failures⟩ := f
  cases errors <;> cases failures <;> simp [isEmpty, meaning, result, CheckResult.meaning]

theorem meaning_ofResult (changelog : Option Value) (p : Precondition) {r : CheckResult}
    (filled : r.IsFilled) :
    (ofResult changelog p r).meaning = r.meaning := by
  cases r with
  | pass => rfl
  | fail message => rfl
  | broken fault => rfl
  | failures entries =>
    cases entries with
    | nil => exact absurd rfl filled
    | cons e more => rfl
  | errors entries failed =>
    cases entries with
    | nil => exact absurd rfl filled
    | cons e more => rfl

end Findings

namespace Precondition

variable (scene : Scene)

theorem meaning_negated (p : Precondition) (r : CheckResult) :
    (negated p r).meaning = r.meaning.negated := by
  cases r <;> rfl

theorem isFilled_negated (p : Precondition) {r : CheckResult} (filled : r.IsFilled) :
    (negated p r).IsFilled := by
  cases r with
  | errors entries failed => exact filled
  | _ => trivial

-- the parts do not matter here: either a pass ends the search, or findings become the result
theorem isFilled_evaluateAny (ps : List Precondition) (before : Findings) :
    (evaluateAny scene before ps).1.IsFilled := by
  induction ps generalizing before with
  | nil => exact before.isFilled_result
  | cons p rest ih =>
    unfold evaluateAny
    dsimp only
    split
    · trivial
    · exact ih _

theorem isFilled_evaluate : (p : Precondition) → (p.evaluate scene).1.IsFilled
  | .check c => by
    unfold evaluate
    exact (c.verdict scene).isFilled_result
  | .not p => by
    unfold evaluate
    exact isFilled_negated p (isFilled_evaluate p)
  | .and ps => by
    unfold evaluate
    exact (evaluateAll scene ps).1.isFilled_result
  | .or ps => by
    unfold evaluate
    exact isFilled_evaluateAny scene ps {}
  | .guard _ ps => by
    unfold evaluate
    exact (evaluateAll scene ps).1.isFilled_result

theorem meaning_found (p : Precondition) :
    (Findings.ofResult scene.changelog p (p.evaluate scene).1).meaning =
      (p.evaluate scene).1.meaning :=
  Findings.meaning_ofResult scene.changelog p (isFilled_evaluate scene p)

theorem evaluateAny_cons (before : Findings) (p : Precondition) (rest : List Precondition) :
    evaluateAny scene before (p :: rest) =
      if (p.evaluate scene).1.meaning = .pass then (.pass, (p.evaluate scene).2)
      else
        let found := before ++ Findings.ofResult scene.changelog p (p.evaluate scene).1
        ((evaluateAny scene found rest).1, (p.evaluate scene).2 ++
            (evaluateAny scene found rest).2) := by
  have nothing_left := Findings.isEmpty_iff (.ofResult scene.changelog p (p.evaluate scene).1)
  rw [meaning_found] at nothing_left
  rw [evaluateAny]
  by_cases passes : (p.evaluate scene).1.meaning = .pass
  · have empty := nothing_left.mpr passes
    simp only [empty, passes, if_true]
  · have left_over := mt nothing_left.mp passes
    simp only [left_over, passes, if_false]
    rfl

mutual
theorem evaluate_eq : (p : Precondition) → p.hasAlternatives = true →
    (p.evaluate scene).1.meaning = p.meaning scene ∧ (p.evaluate scene).2 = p.checks scene
  | .check c, _ => by
    unfold evaluate meaning checks
    exact ⟨(c.verdict scene).meaning_result, rfl⟩
  | .not p, some_parts => by
    obtain ⟨value, made⟩ := evaluate_eq p (by simpa [hasAlternatives] using some_parts)
    unfold evaluate meaning checks
    exact ⟨by rw [meaning_negated, value], made⟩
  | .and ps, some_parts => by
    obtain ⟨value, made⟩ := evaluateAll_eq ps (by simpa [hasAlternatives] using some_parts)
    unfold evaluate meaning checks
    exact ⟨value, made⟩
  | .guard _ ps, some_parts => by
    obtain ⟨value, made⟩ := evaluateAll_eq ps (by simpa [hasAlternatives] using some_parts)
    unfold evaluate meaning checks
    exact ⟨value, made⟩
  | .or ps, some_parts => by
    obtain ⟨nonempty, some_parts⟩ : ps ≠ [] ∧ haveAlternatives ps = true := by
      simpa [hasAlternatives] using some_parts
    obtain ⟨value, made⟩ := evaluateAny_eq {} ps some_parts
    unfold evaluate meaning checks
    refine ⟨?_, made⟩
    rw [value]
    split
    next passes => simp [Meaning.ofAny, passes]
    next none_passes =>
      have some_value : meanings scene ps ≠ [] := by
        cases ps with
        | nil => exact absurd rfl nonempty
        | cons p rest => simp [meanings]
      -- without a pass, the search has collected what a conjunction of the same parts would
      rw [Meaning.ofAny_eq_ofAll some_value none_passes]
      exact Meaning.pass_worse _

theorem evaluateAll_eq : (ps : List Precondition) → haveAlternatives ps = true →
    (evaluateAll scene ps).1.meaning = Meaning.ofAll (meanings scene ps) ∧
      (evaluateAll scene ps).2 = checksOfAll scene ps
  | [], _ => ⟨rfl, rfl⟩
  | p :: rest, some_parts => by
    obtain ⟨parts, parts_rest⟩ : p.hasAlternatives = true ∧ haveAlternatives rest = true := by
      simpa [haveAlternatives] using some_parts
    obtain ⟨value, made⟩ := evaluate_eq p parts
    obtain ⟨value_rest, made_rest⟩ := evaluateAll_eq rest parts_rest
    unfold evaluateAll meanings checksOfAll
    rw [Meaning.ofAll_cons, ← value, ← value_rest, ← made, ← made_rest]
    exact ⟨by rw [Findings.meaning_append, meaning_found], rfl⟩

-- for any findings, since the search hands on to the next part what it has found so far
theorem evaluateAny_eq (before : Findings) : (ps : List Precondition) → haveAlternatives ps = true →
    (evaluateAny scene before ps).1.meaning =
        (if .pass ∈ meanings scene ps then .pass
          else before.meaning.worse (Meaning.ofAll (meanings scene ps))) ∧
      (evaluateAny scene before ps).2 = checksOfAny scene ps
  | [], _ => by
    refine ⟨?_, rfl⟩
    change before.meaning = before.meaning.worse .pass
    cases before.meaning <;> rfl
  | p :: rest, some_parts => by
    obtain ⟨parts, parts_rest⟩ : p.hasAlternatives = true ∧ haveAlternatives rest = true := by
      simpa [haveAlternatives] using some_parts
    obtain ⟨value, made⟩ := evaluate_eq p parts
    rw [evaluateAny_cons, value, made]
    unfold meanings checksOfAny
    by_cases passes : p.meaning scene = .pass
    · simp [passes, CheckResult.meaning]
    · obtain ⟨value_rest, made_rest⟩ :=
        evaluateAny_eq (before ++ Findings.ofResult scene.changelog p (p.evaluate scene).1)
          rest parts_rest
      simp only [passes, if_false, made_rest, value_rest, List.mem_cons, Ne.symm passes,
        false_or, and_true]
      rw [Findings.meaning_append, meaning_found, value, Meaning.worse_assoc, Meaning.ofAll_cons]
end

/-- A precondition passes, fails or errs by the values of its parts: it reports a failure exactly if
it has that value, alone or as a batch, and anything else exactly if it errs. All parts of a
conjunction are evaluated, each once and in order, and those of a disjunction up to the first one
that passes. -/
theorem evaluate_iff (p : Precondition) (some_parts : p.hasAlternatives = true) :
    (((p.evaluate scene).1 = .pass ↔ p.meaning scene = .pass) ∧
      ((∃ message, (p.evaluate scene).1 = .fail message) ∨
        (∃ entries, (p.evaluate scene).1 = .failures entries) ↔
        p.meaning scene = .fail) ∧
      ((∃ fault, (p.evaluate scene).1 = .broken fault) ∨
          (∃ entries failures, (p.evaluate scene).1 = .errors entries failures) ↔
        p.meaning scene = .error)) ∧
      (p.evaluate scene).2 = p.checks scene := by
  obtain ⟨value, made⟩ := evaluate_eq scene p some_parts
  refine ⟨?_, made⟩
  rw [← value]
  cases (p.evaluate scene).1 <;> simp [CheckResult.meaning]

def severalGuards : Precondition :=
  .guard {} [
    .or [
      .not (.check (.fixed 0 "online" .pass)),
      .and [.check (.fixed 1 "reachable" (.error (.stated "ValueError" "no host"))),
        .check (.fixed 2 "writable" (.fail "read only"))],
      .not (.check (.fixed 3 "locked" (.fail "not locked"))),
      .check (.fixed 4 "forced" .pass)],
    .not (.check (.fixed 5 "migrated" (.error (.stated "ValueError" "no table")))),
    .check (.fixed 6 "empty" (.fail "not empty"))]

theorem evaluate_severalGuards :
    let scene : Scene := { database := { name := "sqlite", style := .of (some .sqlite) } }
    severalGuards.hasAlternatives = true ∧
      ((∃ fault, (severalGuards.evaluate scene).1 = .broken fault) ∨
        ∃ entries failures, (severalGuards.evaluate scene).1 = .errors entries failures) ∧
      (severalGuards.evaluate scene).2.map Check.name =
        ["online", "reachable", "writable", "locked", "migrated", "empty"] := by
  intro scene
  obtain ⟨⟨-, -, errs⟩, made⟩ := evaluate_iff scene severalGuards rfl
  exact ⟨rfl, errs.mpr rfl, congrArg (List.map Check.name) made⟩

end Precondition

end SchemaMigration
