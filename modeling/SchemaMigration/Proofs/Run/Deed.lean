import SchemaMigration.Proofs.Run.Pending

namespace SchemaMigration

inductive Deed
  | committed (i : Identity)
  | marked (i : Identity)
  | undone (i : Identity) (done : Bool)
  deriving DecidableEq, Repr

namespace Deed

variable {i : Identity} {d : Deed} {deeds more past earlier later : List Deed}

def Lasts (i : Identity) (d : Deed) (deeds : List Deed) : Prop :=
  ∃ before since, deeds = before ++ d :: since ∧ .undone i true ∉ since

/-- The SQL of a changeset was committed and has not been rolled back since. -/
def IsApplied (i : Identity) (deeds : List Deed) : Prop := Lasts i (.committed i) deeds

/-- A changeset was recorded without its SQL having been committed since the last rollback of it. -/
def IsOnlyMarked (i : Identity) (deeds : List Deed) : Prop :=
  Lasts i (.marked i) deeds ∧ ¬ IsApplied i deeds

def Stands (i : Identity) (deeds : List Deed) : Prop :=
  IsApplied i deeds ∨ Lasts i (.marked i) deeds

theorem Stands.isApplied_iff (h : Stands i deeds) : IsApplied i deeds ↔ ¬ IsOnlyMarked i deeds := by
  constructor
  · intro applied only
    exact only.2 applied
  · intro not_only
    rcases h with applied | marked
    · exact applied
    · by_contra not_applied
      exact not_only ⟨marked, not_applied⟩

theorem Lasts.append (h : Lasts i d deeds) (kept : .undone i true ∉ more) :
    Lasts i d (deeds ++ more) := by
  obtain ⟨before, since, rfl, lasting⟩ := h
  refine ⟨before, since ++ more, by simp, ?_⟩
  simp [lasting, kept]

theorem lasts_append_of_mem (h : d ∈ more) (kept : .undone i true ∉ more) :
    Lasts i d (deeds ++ more) := by
  obtain ⟨before, since, rfl⟩ := List.append_of_mem h
  refine ⟨deeds ++ before, since, by simp, ?_⟩
  intro undone
  exact kept (by simp [undone])

theorem Stands.append (h : Stands i deeds) (kept : .undone i true ∉ more) :
    Stands i (deeds ++ more) := by
  rcases h with applied | marked
  · exact .inl (applied.append kept)
  · exact .inr (marked.append kept)

def AreFounded (past : List Deed) : List Deed → Prop
  | [] => True
  | d :: rest => (∀ i done, d = .undone i done → Stands i past) ∧ AreFounded (past ++ [d]) rest

theorem AreFounded.append (h : AreFounded past deeds) (k : AreFounded (past ++ deeds) more) :
    AreFounded past (deeds ++ more) := by
  induction deeds generalizing past with
  | nil => simpa using k
  | cons d rest ih =>
    refine ⟨h.1, ih h.2 ?_⟩
    simpa using k

theorem areFounded_of_not_undone (h : ∀ i done, .undone i done ∉ deeds) :
    AreFounded past deeds := by
  induction deeds generalizing past with
  | nil => exact trivial
  | cons d rest ih =>
    constructor
    · rintro i done rfl
      exact absurd List.mem_cons_self (h i done)
    · apply ih
      intro i done undone
      exact h i done (List.mem_cons_of_mem d undone)

theorem AreFounded.stands {done : Bool} (h : AreFounded past (earlier ++ .undone i done :: later)) :
    Stands i (past ++ earlier) := by
  induction earlier generalizing past with
  | nil => simpa using h.1 i done rfl
  | cons d rest ih => simpa using ih h.2

end Deed

structure MemoryStore.IsTraced (store : MemoryStore) (changeSets : List ChangeSet)
    (deeds : List Deed) : Prop where
  owned : ∀ r ∈ store.records, ∃ c ∈ changeSets, r.identity = c.identity
  stands : ∀ r ∈ store.records, Deed.Stands r.identity deeds

theorem Selection.mem_writtenBack {s : Selection} {store : MemoryStore} {c : ChangeSet} {r : Record}
    (h : r ∈ (s.writtenBack store c).records) : ∃ old ∈ store.records,
      old.identity = r.identity := by
  unfold writtenBack at h
  split at h
  next => exact ⟨r, h, rfl⟩
  next i _ =>
    obtain ⟨old, old_mem, rfl⟩ := List.mem_map.mp h
    exact ⟨old, old_mem, (Snapshot.identity_updated i _ old).symm⟩

namespace Visit

variable {σ : Type}

def deeds (v : Visit σ) : List Deed :=
  (v.sent.filter Transaction.committed).map (fun _ => .committed v.changeSet.identity) ++
    if v.isMarked then [.marked v.changeSet.identity] else []

theorem not_undone_mem_deeds (v : Visit σ) (i : Identity) (done : Bool) :
    .undone i done ∉ v.deeds := by
  unfold deeds
  cases v.isMarked with
  | false => simp
  | true => simp

theorem stands_deeds {v : Visit σ} (h : v.isCommitted = true ∨ v.isMarked = true)
    (past : List Deed) : Deed.Stands v.changeSet.identity (past ++ v.deeds) := by
  have kept := v.not_undone_mem_deeds v.changeSet.identity true
  rcases h with committed | marked
  · left
    apply Deed.lasts_append_of_mem _ kept
    obtain ⟨t, sent, t_committed⟩ := List.any_eq_true.mp committed
    apply List.mem_append_left
    exact List.mem_map.mpr ⟨t, List.mem_filter.mpr ⟨sent, t_committed⟩, rfl⟩
  · right
    apply Deed.lasts_append_of_mem _ kept
    simp [deeds, marked]

end Visit

namespace Migration

variable {m : Migration} {c : ChangeSet} {s : Selection} {w w' : World MemoryStore}

theorem Turn.mem_records {result : Except Failure (Step × Selection)} (hc : c.identity.IsTextual)
    (current : s.IsCurrent w.store c) (h : Turn m s c w result w') {r : Record}
    (hr : r ∈ w'.store.records) :
    (∃ old ∈ w.store.records, old.identity = r.identity) ∨
      r.identity = c.identity ∧ ((Visit.mk c w (result.map Prod.fst) w').isCommitted = true ∨
        (Visit.mk c w (result.map Prod.fst) w').isMarked = true) := by
  cases h with
  | obstructed _ store _ => exact .inl ⟨r, store ▸ hr, rfl⟩
  | skipped _ _ store _ => exact .inl (Selection.mem_writtenBack (store ▸ hr))
  | @treated outcome _ _ _ treatment =>
    rw [map_fst_outcome]
    by_cases done : (Visit.mk c w outcome w').isCommitted = true ∨
        (Visit.mk c w outcome w').isMarked = true
    · rcases treatment.store_memory with kept | marked
      · exact .inl (Selection.mem_writtenBack (kept ▸ hr))
      · obtain ⟨order, put⟩ := Snapshot.markRan_eq_ok marked
        rw [put] at hr
        rcases Snapshot.mem_putRecord hr with rfl | old
        · -- it took the place of the governing record, if there was one
          rw [Snapshot.identity_ofRun, Snapshot.recordedAs_recordedPath hc]
          cases found : s.snapshot.find? c with
          | none => exact .inr ⟨rfl, done⟩
          | some governing =>
            rw [current.agrees.find?] at found
            exact .inl ⟨governing, List.mem_of_find?_eq_some found, rfl⟩
        · exact .inl (Selection.mem_writtenBack old)
    · rw [not_or, Bool.not_eq_true, Bool.not_eq_true] at done
      have unchanged := treatment.store_eq done.1 done.2
      exact .inl (Selection.mem_writtenBack (unchanged ▸ hr))

theorem Turn.isTraced {changeSets : List ChangeSet} {deeds : List Deed}
    {result : Except Failure (Step × Selection)} (hc : c.identity.IsTextual)
    (known : c ∈ changeSets)
    (current : s.IsCurrent w.store c) (traced : w.store.IsTraced changeSets deeds)
    (h : Turn m s c w result w') :
    w'.store.IsTraced changeSets
      (deeds ++ (Visit.mk c w (result.map Prod.fst) w').deeds) where
  owned r hr := by
    rcases h.mem_records hc current hr with ⟨old, old_mem, same⟩ | ⟨new, -⟩
    · rw [← same]
      exact traced.owned old old_mem
    · exact ⟨c, known, new⟩
  stands r hr := by
    rcases h.mem_records hc current hr with ⟨old, old_mem, same⟩ | ⟨new, done⟩
    · rw [← same]
      exact (traced.stands old old_mem).append (Visit.not_undone_mem_deeds _ _ true)
    · rw [new]
      exact Visit.stands_deeds done deeds

theorem isTraced_updateAll (m : Migration) {known : List ChangeSet} (changeSets : List ChangeSet)
    (s : Selection) (w : World MemoryStore) (deeds : List Deed)
    (all_known : ∀ c ∈ changeSets, c ∈ known)
    (distinct : ChangeSet.AreDistinct s.snapshot.ignoreCase changeSets)
    (current : ∀ c ∈ changeSets, s.IsCurrent w.store c) (traced : w.store.IsTraced known deeds) :
    ((m.updateAll false s changeSets).run w).2.store.IsTraced known
      (deeds ++ (m.visitsFrom s changeSets w).flatMap Visit.deeds) := by
  induction changeSets generalizing s w deeds with
  | nil => simpa [visitsFrom, updateAll] using traced
  | cons c rest ih =>
    have turn := run_updateOne m s distinct.head w
    rcases visited : (m.updateOne false s c).run w with ⟨e | ⟨step, s'⟩, w'⟩
    · rw [visited] at turn
      rw [run_updateAll_error visited, visitsFrom_error visited]
      have after := turn.isTraced distinct.head (all_known c List.mem_cons_self)
        (current c List.mem_cons_self) traced
      rw [List.flatMap_singleton]
      exact after
    · rw [visited] at turn
      have after := turn.isTraced distinct.head (all_known c List.mem_cons_self)
        (current c List.mem_cons_self) traced
      have current' := turn.isCurrent distinct current
      cases turn.selection_eq
      rw [run_updateAll_ok visited, visitsFrom_ok visited, List.flatMap_cons, ← List.append_assoc]
      exact ih (s.noting c) w' _ (fun d hd => all_known d (List.mem_cons_of_mem c hd))
        (by simpa using distinct.tail) current' after

theorem isTraced_update (m : Migration) {w : World MemoryStore} {deeds : List Deed}
    (distinct : ChangeSet.AreDistinct m.ignoreCase m.changeLog.changeSets)
    (traced : w.store.IsTraced m.changeLog.changeSets deeds) :
    ((m.update false).run w).2.store.IsTraced m.changeLog.changeSets
      (deeds ++ (m.visits w).flatMap Visit.deeds) := by
  have course := run_update m w
  generalize m.visits w = visits at course ⊢
  generalize ((m.update false).run w).2 = w' at course ⊢
  generalize ((m.update false).run w).1 = result at course
  cases course with
  | halted _ store _ => simpa [store] using traced
  | unmet _ _ store _ => simpa [store] using traced
  | @visited log _ w₁ _ _ visited store _ =>
    have row := isTraced_updateAll m m.changeLog.changeSets (m.startingSelection w)
      { w with log := log } deeds (fun c hc => hc) distinct
      (fun c _ => Selection.isCurrent_ofStore _ _ c) traced
    rw [visited] at row
    rw [store]
    exact row

end Migration

end SchemaMigration
