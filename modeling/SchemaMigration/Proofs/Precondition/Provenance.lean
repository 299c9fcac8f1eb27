import SchemaMigration.Proofs.Precondition.Flattening

/-! Whom an error is put down to. A check that breaks does so alone, and the scope around it makes
an entry of it; a not in between hands the fault on, and the scope takes it for the fault of the
not. So an entry tells the check that broke, or the outermost of the nots directly around it, and no
check is told twice. -/

namespace SchemaMigration

def Verdict.fault? : Verdict → Option CheckFault
  | .error fault => some fault
  | _ => none

structure Site where
  leaf : Check
  nots : Nat := 0

namespace Site

/-- What a scope has for it: the check, or the outermost of the nots. -/
def bearer (s : Site) : Precondition := Nat.repeat .not s.nots (.check s.leaf)

def negated (s : Site) : Site := { s with nots := s.nots + 1 }

theorem bearer_negated (s : Site) : s.negated.bearer = .not s.bearer := rfl

def entry? (scene : Scene) (s : Site) : Option ErrorEntry :=
  (s.leaf.verdict scene).fault?.map fun fault => ⟨fault, scene.changelog, s.bearer⟩

end Site

namespace Precondition

def isSingle : Precondition → Bool
  | .check _ => true
  | .not p => isSingle p
  | _ => false

mutual
def sites : Precondition → List Site
  | .check c => [{ leaf := c }]
  | .not p => if p.isSingle then (sites p).map Site.negated else sites p
  | .and ps => sitesOfAll ps
  | .or ps => sitesOfAll ps
  | .guard _ ps => sitesOfAll ps

def sitesOfAll : List Precondition → List Site
  | [] => []
  | p :: rest => sites p ++ sitesOfAll rest
end

mutual
def avoidsOr : Precondition → Bool
  | .check _ => true
  | .not p => avoidsOr p
  | .and ps => avoidOr ps
  | .or _ => false
  | .guard _ ps => avoidOr ps

def avoidOr : List Precondition → Bool
  | [] => true
  | p :: rest => avoidsOr p && avoidOr rest
end

variable (scene : Scene)

theorem evaluate_of_isSingle : (p : Precondition) → p.isSingle = true →
    ∃ s v, p.sites = [s] ∧ s.bearer = p ∧ (p.evaluate scene).1 = Verdict.result v ∧
      v.fault? = (s.leaf.verdict scene).fault?
  | .check c, _ => by
    refine ⟨{ leaf := c }, c.verdict scene, ?_, rfl, ?_, rfl⟩
    · rw [sites]
    · rw [evaluate]
  | .not p, single => by
    have inner : p.isSingle = true := by simpa [isSingle] using single
    obtain ⟨s, v, sites_eq, bearer_eq, result_eq, same_fault⟩ := evaluate_of_isSingle p inner
    have sites_not : (Precondition.not p).sites = [s.negated] := by
      rw [sites, if_pos inner, sites_eq, List.map_singleton]
    have bearer_not : s.negated.bearer = .not p := by rw [s.bearer_negated, bearer_eq]
    have result_not : ((Precondition.not p).evaluate scene).1 = negated p v.result := by
      rw [evaluate, ← result_eq]
    cases v with
    | pass => exact ⟨s.negated, .fail _, sites_not, bearer_not, result_not, same_fault⟩
    | fail message => exact ⟨s.negated, .pass, sites_not, bearer_not, result_not, same_fault⟩
    | error fault => exact ⟨s.negated, .error fault, sites_not, bearer_not, result_not, same_fault⟩

theorem errors_ofResult_verdict (changelog : Option Value) (p : Precondition) (v : Verdict) :
    (Findings.ofResult changelog p v.result).errors =
      (v.fault?.map fun fault => ⟨fault, changelog, p⟩).toList := by
  cases v <;> rfl

theorem errors_found_of_isSingle {p : Precondition} (single : p.isSingle = true) :
    (p.found scene).errors = p.sites.filterMap (Site.entry? scene) := by
  obtain ⟨s, v, sites_eq, bearer_eq, result_eq, same_fault⟩ := evaluate_of_isSingle scene p single
  rw [found, result_eq, errors_ofResult_verdict, same_fault, sites_eq, ← bearer_eq]
  cases h : (s.leaf.verdict scene).fault? with
  | none => simp [Site.entry?, h]
  | some fault => simp [Site.entry?, h]

theorem result_ne_broken (f : Findings) (fault : CheckFault) : f.result ≠ .broken fault := by
  obtain ⟨errors, failures⟩ := f
  cases errors with
  | cons e more => nofun
  | nil =>
    cases failures with
    | cons e more => nofun
    | nil => nofun

theorem evaluateAny_ne_broken (fault : CheckFault) (before : Findings) (ps : List Precondition) :
    (evaluateAny scene before ps).1 ≠ .broken fault := by
  induction ps generalizing before with
  | nil => exact result_ne_broken before fault
  | cons p rest ih =>
    rw [evaluateAny]
    dsimp only
    split
    · intro passed
      cases passed
    · exact ih _

theorem evaluate_ne_broken (fault : CheckFault) : (p : Precondition) → p.isSingle = false →
    (p.evaluate scene).1 ≠ .broken fault
  | .check c, composed => by simp [isSingle] at composed
  | .not p, composed => by
    have inner := evaluate_ne_broken fault p (by simpa [isSingle] using composed)
    rw [evaluate]
    dsimp only
    cases result : (p.evaluate scene).1 with
    | broken fault' =>
      rw [result] at inner
      exact inner
    | _ => nofun
  | .and ps, _ => by
    rw [evaluate]
    exact result_ne_broken _ fault
  | .guard _ ps, _ => by
    rw [evaluate]
    exact result_ne_broken _ fault
  | .or ps, _ => by
    rw [evaluate]
    exact evaluateAny_ne_broken scene fault {} ps

theorem errors_found_not {p : Precondition} (composed : p.isSingle = false) :
    ((Precondition.not p).found scene).errors = (p.found scene).errors := by
  have batches := fun fault => evaluate_ne_broken scene fault p composed
  rw [found, found, evaluate]
  dsimp only
  cases result : (p.evaluate scene).1 with
  | broken fault => exact absurd result (batches fault)
  | _ => rfl

/-- Errors are those of checks that break, each one's own, in order. None is left out from a tree
without alternatives. -/
structure AreOf (errors : List ErrorEntry) (sites : List Site) (straight : Bool) : Prop where
  in_order : errors.Sublist (sites.filterMap (Site.entry? scene))
  all : straight = true → errors = sites.filterMap (Site.entry? scene)

mutual

theorem areOf_found : (p : Precondition) → AreOf scene (p.found scene).errors p.sites p.avoidsOr
  | .check c => by
    have whole := errors_found_of_isSingle scene (p := .check c) rfl
    exact ⟨whole ▸ .refl _, fun _ => whole⟩
  | .not p => by
    cases single : p.isSingle with
    | true =>
      have whole := errors_found_of_isSingle scene (p := .not p) single
      exact ⟨whole ▸ .refl _, fun _ => whole⟩
    | false =>
      rw [errors_found_not scene single, sites, avoidsOr, single]
      exact areOf_found p
  | .and ps => by
    have opened := congrArg Prod.fst (evaluateAll_and scene ps)
    rw [evaluateAll_singleton] at opened
    dsimp only at opened
    rw [opened, sites, avoidsOr]
    exact areOf_evaluateAll ps
  | .guard policy ps => by
    have opened := congrArg Prod.fst (evaluateAll_guard scene policy ps)
    rw [evaluateAll_singleton] at opened
    dsimp only at opened
    rw [opened, sites, avoidsOr]
    exact areOf_evaluateAll ps
  | .or ps => by
    rw [found, evaluate, sites, avoidsOr]
    exact ⟨errors_evaluateAny_sublist _ {} ps, nofun⟩

theorem areOf_evaluateAll : (ps : List Precondition) →
    AreOf scene (evaluateAll scene ps).1.errors (sitesOfAll ps) (avoidOr ps)
  | [] => ⟨.refl _, fun _ => rfl⟩
  | p :: rest => by
    obtain ⟨some_here, all_here⟩ := areOf_found p
    obtain ⟨some_later, all_later⟩ := areOf_evaluateAll rest
    rw [evaluateAll_cons, sitesOfAll, avoidOr]
    constructor
    · rw [List.filterMap_append]
      exact some_here.append some_later
    · intro straight
      obtain ⟨here, later⟩ := Bool.and_eq_true_iff.mp straight
      rw [Findings.errors_append, all_here here, all_later later, List.filterMap_append]

-- what has been found before goes up with the rest, if no alternative passes
theorem errors_evaluateAny_sublist (p : Precondition) (before : Findings) :
    (ps : List Precondition) →
    (Findings.ofResult scene.changelog p (evaluateAny scene before ps).1).errors.Sublist
      (before.errors ++ (sitesOfAll ps).filterMap (Site.entry? scene))
  | [] => by
    rw [evaluateAny, Findings.ofResult_result]
    exact List.sublist_append_left _ _
  | q :: rest => by
    rw [evaluateAny]
    dsimp only
    split
    · exact List.nil_sublist _
    · have later := errors_evaluateAny_sublist p (before ++ q.found scene) rest
      rw [Findings.errors_append, List.append_assoc] at later
      rw [sitesOfAll, List.filterMap_append]
      exact later.trans (((areOf_found q).in_order.append_right _).append_left _)

end

/-- Whether an entry names a check of the trees, and holds the fault of this very check. -/
def NamesItsCheck (ps : List Precondition) (e : ErrorEntry) : Prop :=
  ∃ s ∈ sitesOfAll ps, e.precondition = .check s.leaf ∧ (s.leaf.verdict scene).fault? = some e.fault

theorem namesItsCheck_iff {ps : List Precondition} {s : Site} {e : ErrorEntry}
    (hs : s ∈ sitesOfAll ps)
    (entry : s.entry? scene = some e) : NamesItsCheck scene ps e ↔ s.nots = 0 := by
  obtain ⟨fault, broken, rfl⟩ := Option.map_eq_some_iff.mp entry
  obtain ⟨leaf, nots⟩ := s
  cases nots with
  | zero => exact iff_of_true ⟨_, hs, rfl, broken⟩ rfl
  | succ n =>
    refine iff_of_false ?_ (Nat.succ_ne_zero n)
    rintro ⟨t, -, named, -⟩
    cases named

/-- The errors in some trees are those of their checks that break, in order, each once, and if there
are no alternatives, of all of them. An entry names its check exactly if that does not stand
directly in a not, and else the outermost of the nots around it. -/
theorem errors_name_sites (ps : List Precondition) :
    AreOf scene (evaluateAll scene ps).1.errors (sitesOfAll ps) (avoidOr ps) ∧
      ∀ e ∈ (evaluateAll scene ps).1.errors, ∃ s ∈ sitesOfAll ps,
        (s.leaf.verdict scene).fault? = some e.fault ∧ e.changelog = scene.changelog ∧
          e.precondition = s.bearer ∧ (NamesItsCheck scene ps e ↔ s.nots = 0) := by
  have reported := areOf_evaluateAll scene ps
  refine ⟨reported, fun e he => ?_⟩
  obtain ⟨s, hs, entry⟩ := List.mem_filterMap.mp (reported.in_order.subset he)
  have named := namesItsCheck_iff scene hs entry
  obtain ⟨fault, broken, rfl⟩ := Option.map_eq_some_iff.mp entry
  exact ⟨s, hs, broken, rfl, rfl, named⟩

def offline : Scene where
  database := { name := "sqlite", style := .of (some .sqlite) }
  changelog := some (.text "db/changelog.py")

/-- The table is not to be there, and a column of another one is. -/
def customersMoved : List Precondition :=
  [.not (.check (.tableExists (.text "customers") .null)),
    .not (.and [.check (.columnExists (.text "clients") (.text "id") .null)])]

theorem errors_customersMoved :
    (evaluateAll offline customersMoved).1.errors =
      [⟨.noConnection "tableExists", some (.text "db/changelog.py"),
          .not (.check (.tableExists (.text "customers") .null))⟩,
        ⟨.noConnection "columnExists", some (.text "db/changelog.py"),
          .check (.columnExists (.text "clients") (.text "id") .null)⟩] := by
  rfl

/-- The first entry names the not, and not the check that broke. -/
theorem customersMoved_misnamed :
    ∃ e ∈ (evaluateAll offline customersMoved).1.errors,
      ¬ NamesItsCheck offline customersMoved e := by
  rw [errors_customersMoved]
  refine ⟨_, List.mem_cons_self, ?_⟩
  rintro ⟨s, -, named, -⟩
  cases named

theorem errors_name_sites_customersMoved :
    avoidOr customersMoved = true ∧
      (evaluateAll offline customersMoved).1.errors =
        (sitesOfAll customersMoved).filterMap (Site.entry? offline) ∧
      ∃ e ∈ (evaluateAll offline customersMoved).1.errors, ∃ s ∈ sitesOfAll customersMoved,
        e.precondition = s.bearer ∧ (NamesItsCheck offline customersMoved e ↔ s.nots = 0) := by
  obtain ⟨reported, named⟩ := errors_name_sites offline customersMoved
  refine ⟨rfl, reported.all rfl, ?_⟩
  rw [errors_customersMoved] at named ⊢
  obtain ⟨s, hs, -, -, bearer, own⟩ := named _ List.mem_cons_self
  exact ⟨_, List.mem_cons_self, s, hs, bearer, own⟩

end Precondition

end SchemaMigration
