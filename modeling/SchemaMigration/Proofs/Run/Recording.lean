import SchemaMigration.Proofs.Change.Content
import SchemaMigration.Proofs.History.Records
import SchemaMigration.Proofs.Run.Handling

/-! Commits and records. A changeset is recorded after its transaction was committed, by a write of
its own; so what was committed is recorded unless the store refuses this write, and then the update
ends. What is recorded is not executed again. -/

namespace SchemaMigration

def HasRecord (ignoreCase : Bool) (c : ChangeSet) (records : List Record) : Prop :=
  ∃ r ∈ records, Snapshot.matches? ignoreCase c r = true

/-- Whether a record is that of a changeset, and holds a checksum. -/
def HasRecordWith (ignoreCase : Bool) (c : ChangeSet) (checksum : String)
    (records : List Record) : Prop :=
  ∃ r ∈ records, Snapshot.matches? ignoreCase c r = true ∧ r.checksum = .text checksum

/-- Whether two changesets count as one, under the policy on letter case. -/
def ChangeSet.SharesIdentity (ignoreCase : Bool) (c d : ChangeSet) : Prop :=
  c.identity.texts? ignoreCase = d.identity.texts? ignoreCase

structure ChangeSet.IsPlain (c : ChangeSet) : Prop where
  not_always : c.runAlways.isTrue = false
  not_on_change : c.runOnChange.isTrue = false

section Written

variable {ignoreCase : Bool} {c d : ChangeSet} {records records' records'' : List Record}

theorem HasRecordWith.hasRecord {checksum : String}
    (h : HasRecordWith ignoreCase c checksum records) :
    HasRecord ignoreCase c records := by
  obtain ⟨r, hr, own, -⟩ := h
  exact ⟨r, hr, own⟩

/-- Records before and after something was written for changesets. The records of others are the
same, and where a checksum is gone, there is that of one of these in its place. -/
structure WrittenFor (ignoreCase : Bool) (changeSets : List ChangeSet)
    (records records' : List Record) : Prop where
  kept : ∀ c : ChangeSet, c.identity.IsTextual →
    (∀ d ∈ changeSets, ¬ d.SharesIdentity ignoreCase c) →
    ∀ r, Snapshot.matches? ignoreCase c r = true → (r ∈ records' ↔ r ∈ records)
  overwritten : ∀ c : ChangeSet, c.identity.IsTextual → ∀ checksum,
    HasRecordWith ignoreCase c checksum records → HasRecordWith ignoreCase c checksum records' ∨
      ∃ d ∈ changeSets, d.SharesIdentity ignoreCase c ∧
        HasRecordWith ignoreCase c d.checksum records'

namespace WrittenFor

variable {changeSets more : List ChangeSet}

theorem of_eq (h : records' = records) : WrittenFor ignoreCase changeSets records records' := by
  rw [h]
  exact ⟨fun _ _ _ _ _ => .rfl, fun _ _ _ held => .inl held⟩

theorem of_subset (subset : changeSets ⊆ more)
    (h : WrittenFor ignoreCase changeSets records records') :
    WrittenFor ignoreCase more records records' where
  kept c hc others := h.kept c hc fun d hd => others d (subset hd)
  overwritten c hc checksum held := by
    rcases h.overwritten c hc checksum held with held | ⟨d, hd, overwritten⟩
    · exact .inl held
    · exact .inr ⟨d, subset hd, overwritten⟩

theorem trans (h : WrittenFor ignoreCase changeSets records records')
    (k : WrittenFor ignoreCase more records' records'') :
    WrittenFor ignoreCase (changeSets ++ more) records records'' where
  kept c hc others r own := by
    have later := k.kept c hc (fun d hd => others d (List.mem_append_right _ hd)) r own
    exact later.trans (h.kept c hc (fun d hd => others d (List.mem_append_left _ hd)) r own)
  overwritten c hc checksum held := by
    rcases h.overwritten c hc checksum held with held | ⟨d, hd, shared, held⟩
    · rcases k.overwritten c hc checksum held with held | ⟨e, he, overwritten⟩
      · exact .inl held
      · exact .inr ⟨e, List.mem_append_right _ he, overwritten⟩
    · rcases k.overwritten c hc d.checksum held with held | ⟨e, he, overwritten⟩
      · exact .inr ⟨d, List.mem_append_left _ hd, shared, held⟩
      · exact .inr ⟨e, List.mem_append_right _ he, overwritten⟩

theorem map_rewritten {i : Identity} (textual : i.IsTextual)
    (own_identity : i.texts? ignoreCase = d.identity.texts? ignoreCase) :
    WrittenFor ignoreCase [d] records (records.map (Record.rewritten i (.text d.checksum))) where
  kept c hc others r own := by
    have other := others d (List.mem_singleton.mpr rfl)
    have unchanged : ∀ s : Record, Snapshot.matches? ignoreCase c s = true →
        s.rewritten i (.text d.checksum) = s := by
      intro s own_s
      apply if_neg
      rintro rfl
      exact other (own_identity.symm.trans ((Snapshot.matches?_iff hc s).mp own_s))
    rw [List.mem_map]
    constructor
    · rintro ⟨s, hs, rfl⟩
      rw [Snapshot.matches?_congr (s.identity_rewritten _ _)] at own
      rwa [unchanged s own]
    · intro hr
      exact ⟨r, hr, unchanged r own⟩
  overwritten c hc checksum := by
    rintro ⟨r, hr, own, content⟩
    have own' : Snapshot.matches? ignoreCase c (r.rewritten i (.text d.checksum)) = true := by
      rwa [Snapshot.matches?_congr (r.identity_rewritten _ _)]
    by_cases same : r.identity = i
    · right
      refine ⟨d, List.mem_singleton.mpr rfl, ?_, _, List.mem_map.mpr ⟨r, hr, rfl⟩, own', ?_⟩
      · rw [ChangeSet.SharesIdentity, ← own_identity, ← same]
        exact (Snapshot.matches?_iff hc r).mp own
      · exact congrArg Record.checksum (if_pos same)
    · have unchanged : r.rewritten i (.text d.checksum) = r := if_neg same
      exact .inl ⟨r, List.mem_map.mpr ⟨r, hr, unchanged⟩, own, content⟩

end WrittenFor

end Written

section Store

variable {σ : Type} [HistoryStore σ] [RecordStore σ] {s : Selection} {c d : ChangeSet}
  {store store' : σ}

open RecordStore (records)

theorem writtenFor_reconcile {result : Except StoreError (Bool × Selection)}
    (hd : d.identity.IsTextual)
    (h : s.reconcile store d = (result, store')) :
    WrittenFor s.snapshot.ignoreCase [d] (records store) (records store') := by
  cases result with
  | error e =>
    rcases Selection.reconcile_eq_error h with rfl | ⟨i, refused⟩
    · exact .of_eq rfl
    · exact .of_eq (RecordStore.updateChecksum_error refused)
  | ok done =>
    obtain ⟨-, ⟨-, -, rfl⟩ | ⟨i, due, -, written⟩⟩ := Selection.reconcile_eq_ok h
    · exact .of_eq rfl
    · obtain ⟨r, found, rfl, -⟩ := Selection.toReconcile?_eq_some due
      have textual := Snapshot.isTextual_of_find? hd found
      rw [RecordStore.updateChecksum_ok textual written]
      exact .map_rewritten textual ((Snapshot.matches?_iff hd r).mp
        (Snapshot.matches?_of_find? found))

theorem writtenFor_markRan {result : Except StoreError Unit} {now : Timestamp}
    (hd : d.identity.IsTextual)
    (h : HistoryStore.markRan store now d (s.snapshot.recordedPath d) = (result, store')) :
    WrittenFor s.snapshot.ignoreCase [d] (records store) (records store') := by
  cases result with
  | error e => exact .of_eq (RecordStore.markRan_error h)
  | ok _ =>
    have place := Snapshot.texts?_recordedAs (s := s.snapshot) hd
    obtain ⟨⟨new, new_mem, new_place, content⟩, others⟩ :=
      RecordStore.markRan_ok (Snapshot.isTextual_recordedAs hd) h
    constructor
    · intro c hc others_c r own
      apply others
      intro same
      rw [← same] at place
      exact others_c d (List.mem_singleton.mpr rfl)
        (place.symm.trans ((Snapshot.matches?_iff hc r).mp own))
    · rintro c hc checksum ⟨r, hr, own, held⟩
      by_cases same : r.identity = d.recordedAs (s.snapshot.recordedPath d)
      · have own_texts := (Snapshot.matches?_iff hc r).mp own
        have shared : d.SharesIdentity s.snapshot.ignoreCase c := by
          rw [ChangeSet.SharesIdentity, ← place, ← same, own_texts]
        refine .inr ⟨d, List.mem_singleton.mpr rfl, shared, new, new_mem, ?_, content⟩
        rw [Snapshot.matches?_congr (new_place.trans same.symm), own]
      · exact .inl ⟨r, (others r same).mpr hr, own, held⟩

theorem hasRecordWith_markRan {now : Timestamp} (hc : c.identity.IsTextual)
    (h : HistoryStore.markRan store now c (s.snapshot.recordedPath c) = (.ok (), store')) :
    HasRecordWith s.snapshot.ignoreCase c c.checksum (records store') := by
  obtain ⟨⟨new, new_mem, place, content⟩, -⟩ :=
    RecordStore.markRan_ok (Snapshot.isTextual_recordedAs hc) h
  refine ⟨new, new_mem, ?_, content⟩
  rw [Snapshot.matches?_iff hc, place, Snapshot.texts?_recordedAs hc]

theorem hasRecordWith_reconcile_iff {written : Bool} {s' : Selection} (hc : c.identity.IsTextual)
    (agrees : ∀ r, Snapshot.matches? s.snapshot.ignoreCase c r = true →
      (r ∈ s.snapshot.records ↔ r ∈ records store))
    (unwritten : ∀ r, s.snapshot.find? c = some r → s.written? r.identity = none)
    (h : s.reconcile store c = (.ok (written, s'), store')) :
    HasRecordWith s.snapshot.ignoreCase c c.checksum (records store') ↔
      HasRecord s.snapshot.ignoreCase c (records store) := by
  have due := Selection.toReconcile?_of_unwritten unwritten
  obtain ⟨-, course⟩ := Selection.reconcile_eq_ok h
  cases found : s.snapshot.find? c with
  | none =>
    have unknown : ¬ HasRecord s.snapshot.ignoreCase c (records store) := by
      rintro ⟨r, hr, own⟩
      exact List.find?_eq_none.mp found r ((agrees r own).mpr hr) own
    rw [found] at due
    rcases course with ⟨-, -, rfl⟩ | ⟨i, due', -⟩
    · exact iff_of_false (fun held => unknown held.hasRecord) unknown
    · rw [due] at due'
      cases due'
  | some r =>
    have own := Snapshot.matches?_of_find? found
    have known : r ∈ records store := (agrees r own).mp (List.mem_of_find?_eq_some found)
    refine iff_of_true ?_ ⟨r, known, own⟩
    rw [found] at due
    rcases course with ⟨current, -, rfl⟩ | ⟨i, due', -, written⟩
    · rw [due] at current
      have same : r.checksum = .text c.checksum := by
        simpa [Option.filter, Snapshot.hasDrifted] using current
      exact ⟨r, known, own, same⟩
    · have i_eq : i = r.identity := by
        rw [due] at due'
        cases drifted : Snapshot.hasDrifted c r with
        | false => simp [Option.filter, drifted] at due'
        | true => simpa [Option.filter, drifted] using due'.symm
      rw [i_eq] at written
      rw [RecordStore.updateChecksum_ok (Snapshot.isTextual_of_find? hc found) written]
      refine ⟨_, List.mem_map.mpr ⟨r, known, rfl⟩, ?_, congrArg Record.checksum (if_pos rfl)⟩
      rwa [Snapshot.matches?_congr (r.identity_rewritten _ _)]

/-- The SQL of a visit leaves the records of the store as they are, whether or not a checksum is
written back to one of them before. -/
def Visit.SparesRecords (v : Visit σ) : Prop :=
  ∀ store, (store = v.before.store ∨
      ∃ i checksum, store = (HistoryStore.updateChecksum v.before.store i checksum).2) →
    ∀ t ∈ v.sent, records (HistoryStore.follow store t) = records store

theorem Visit.sparesRecords_of_detached [DetachedStore σ] (v : Visit σ) : v.SparesRecords :=
  fun store _ t _ => congrArg records (DetachedStore.follow_eq store t)

namespace Migration

variable {m : Migration} {w w' : World σ}

theorem records_follow {outcome : Except Failure Step}
    {result : Except StoreError (Bool × Selection)}
    {t : Transaction} (spared : (Visit.mk c w outcome w').SparesRecords)
    (reconciled : s.reconcile w.store c = (result, store))
    (sent : w'.transactions = w.transactions ++ [t]) :
    records (HistoryStore.follow store t) = records store :=
  spared store (Selection.store_of_reconcile reconciled) t (by simp [Visit.sent, sent])

theorem Dealing.writtenFor {outcome : Except Failure Step}
    {result : Except Failure (Step × Selection)} (hd : d.identity.IsTextual)
    (h : Dealing m s d w result w') (spared : (Visit.mk d w outcome w').SparesRecords) :
    WrittenFor s.snapshot.ignoreCase [d] (records w.store) (records w'.store) := by
  cases h with
  | refused reconciled _ => exact writtenFor_reconcile hd reconciled
  | skipped reconciled _ => exact writtenFor_reconcile hd reconciled
  | @treated _ _ _ w₁ _ reconciled _ transactions effect =>
    have first := writtenFor_reconcile hd reconciled
    -- what the store says to the record does not matter
    have recorded {t : Transaction} {result : Except StoreError Unit}
        (marked : HistoryStore.markRan (HistoryStore.follow w₁.store t) m.now d
          (s.snapshot.recordedPath d) = (result, w'.store))
        (sent : w'.transactions = w₁.transactions ++ [t]) :
        WrittenFor s.snapshot.ignoreCase [d] (records w.store) (records w'.store) := by
      rw [transactions] at sent
      have later := writtenFor_markRan hd marked
      rw [records_follow spared reconciled sent] at later
      exact (first.trans later).of_subset (by simp)
    cases effect with
    | unsent store _ =>
      rcases store with kept | ⟨done, marked⟩
      · rwa [kept]
      · exact (first.trans (writtenFor_markRan hd marked)).of_subset (by simp)
    | thwarted store sent =>
      rw [transactions] at sent
      rw [store, records_follow spared reconciled sent]
      exact first
    | recorded marked sent => exact recorded marked sent
    | unrecorded marked sent => exact recorded marked sent

theorem writtenFor_updateAll (m : Migration) (changeSets : List ChangeSet) (s : Selection)
    (w : World σ) (textual : ∀ d ∈ changeSets, d.identity.IsTextual)
    (spared : ∀ v ∈ m.visitsFrom s changeSets w, v.SparesRecords) :
    WrittenFor s.snapshot.ignoreCase ((m.visitsFrom s changeSets w).map Visit.changeSet)
      (records w.store) (records ((m.updateAll false s changeSets).run w).2.store) := by
  induction changeSets generalizing s w with
  | nil => exact .of_eq rfl
  | cons d rest ih =>
    have dealing := run_updateOne_dealing m s d w
    have hd := textual d List.mem_cons_self
    rcases visited : (m.updateOne false s d).run w with ⟨e | ⟨step, s'⟩, w'⟩
    · rw [visited] at dealing
      rw [visitsFrom_error visited] at spared ⊢
      rw [run_updateAll_error visited]
      exact dealing.writtenFor hd (spared _ List.mem_cons_self)
    · rw [visited] at dealing
      rw [visitsFrom_ok visited] at spared ⊢
      rw [run_updateAll_ok visited]
      have first := dealing.writtenFor hd (spared _ List.mem_cons_self)
      have later := ih s' w' (fun b hb => textual b (List.mem_cons_of_mem d hb))
        fun v hv => spared v (List.mem_cons_of_mem _ hv)
      rw [dealing.snapshot_eq] at later
      exact first.trans later

structure Reached (s : Selection) (w : World σ) (front : List ChangeSet) (s₁ : Selection)
    (w₁ : World σ) : Prop where
  snapshot : s₁.snapshot = s.snapshot
  written : WrittenFor s.snapshot.ignoreCase front (records w.store) (records w₁.store)
  noted : ∀ entry ∈ s₁.reconciled, entry ∈ s.reconciled ∨
    ∃ d ∈ front, entry.1.texts? s.snapshot.ignoreCase = d.identity.texts? s.snapshot.ignoreCase

theorem Dealing.reached {step : Step} {outcome : Except Failure Step} {s' : Selection}
    (hd : d.identity.IsTextual) (h : Dealing m s d w (.ok (step, s')) w')
    (spared : (Visit.mk d w outcome w').SparesRecords) : Reached s w [d] s' w' where
  snapshot := h.snapshot_eq
  written := h.writtenFor hd spared
  noted entry noted := by
    obtain ⟨_, _, reconciled⟩ := h.eq_ok
    obtain ⟨-, ⟨-, rfl, -⟩ | ⟨i, due, rfl, -⟩⟩ := Selection.reconcile_eq_ok reconciled
    · exact .inl noted
    · rcases List.mem_cons.mp noted with rfl | old
      · obtain ⟨r, found, rfl, -⟩ := Selection.toReconcile?_eq_some due
        have own := (Snapshot.matches?_iff hd r).mp (Snapshot.matches?_of_find? found)
        exact .inr ⟨d, List.mem_singleton.mpr rfl, own⟩
      · exact .inl old

theorem Reached.trans {s₁ s₂ : Selection} {w₁ w₂ : World σ} {front more : List ChangeSet}
    (h : Reached s w front s₁ w₁) (k : Reached s₁ w₁ more s₂ w₂) :
    Reached s w (front ++ more) s₂ w₂ where
  snapshot := k.snapshot.trans h.snapshot
  written := by
    have later := k.written
    rw [h.snapshot] at later
    exact h.written.trans later
  noted entry noted := by
    rcases k.noted entry noted with old | ⟨d, hd, same⟩
    · rcases h.noted entry old with old | ⟨d, hd, same⟩
      · exact .inl old
      · exact .inr ⟨d, List.mem_append_left _ hd, same⟩
    · rw [h.snapshot] at same
      exact .inr ⟨d, List.mem_append_right _ hd, same⟩

theorem reached_of_visitsFrom (m : Migration) (changeSets : List ChangeSet) (s : Selection)
    (w : World σ) (textual : ∀ d ∈ changeSets, d.identity.IsTextual)
    (spared : ∀ v ∈ m.visitsFrom s changeSets w, v.SparesRecords) {front back : List (Visit σ)}
    {v : Visit σ} (split : m.visitsFrom s changeSets w = front ++ v :: back) :
    ∃ s₁ result, Reached s w (front.map Visit.changeSet) s₁ v.before ∧
      Dealing m s₁ v.changeSet v.before result v.after ∧ v.outcome = result.map Prod.fst ∧
      WrittenFor s.snapshot.ignoreCase (back.map Visit.changeSet) (records v.after.store)
        (records ((m.updateAll false s changeSets).run w).2.store) ∧
      ∀ e, v.outcome = .error e →
        back = [] ∧ (m.updateAll false s changeSets).run w = (.error e, v.after) := by
  induction changeSets generalizing s w front with
  | nil => simp [visitsFrom] at split
  | cons d rest ih =>
    have hd := textual d List.mem_cons_self
    have textual_rest : ∀ b ∈ rest, b.identity.IsTextual := fun b hb =>
      textual b (List.mem_cons_of_mem d hb)
    have dealing := run_updateOne_dealing m s d w
    have start : Reached s w [] s w := ⟨rfl, .of_eq rfl, fun _ old => .inl old⟩
    rcases visited : (m.updateOne false s d).run w with ⟨e | ⟨step, s'⟩, w'⟩
    · rw [visited] at dealing
      rw [visitsFrom_error visited] at split
      obtain ⟨rfl, rest_eq⟩ : front = [] ∧ v :: back = [⟨d, w, .error e, w'⟩] := by
        cases front with
        | nil => exact ⟨rfl, split.symm⟩
        | cons u front => simp at split
      cases rest_eq
      rw [run_updateAll_error visited]
      refine ⟨s, .error e, start, dealing, rfl, .of_eq rfl, fun e' failed => ⟨rfl, ?_⟩⟩
      cases failed
      rfl
    · rw [visited] at dealing
      rw [visitsFrom_ok visited] at split spared
      have spared_rest : ∀ u ∈ m.visitsFrom s' rest w', u.SparesRecords := fun u hu =>
        spared u (List.mem_cons_of_mem _ hu)
      rw [run_updateAll_ok visited]
      cases front with
      | nil =>
        cases split
        refine ⟨s, .ok (step, s'), start, dealing, rfl, ?_, nofun⟩
        have later := writtenFor_updateAll m rest s' w' textual_rest spared_rest
        rwa [dealing.snapshot_eq] at later
      | cons u front =>
        obtain ⟨rfl, split_rest⟩ := List.cons.inj split
        obtain ⟨s₁, result, reached, dealt, outcome, later, failing⟩ :=
          ih s' w' textual_rest spared_rest split_rest
        rw [dealing.snapshot_eq] at later
        have first := dealing.reached hd (spared _ List.mem_cons_self)
        refine ⟨s₁, result, first.trans reached, dealt, outcome, later, ?_⟩
        intro e failed
        obtain ⟨last, row⟩ := failing e failed
        rw [row]
        exact ⟨last, rfl⟩

theorem opening_agrees {w₀ : World σ}
    (opened : (m.opening false).run w = (.ok (some s), w₀)) :
    s.snapshot.ignoreCase = m.ignoreCase ∧ s.reconciled = [] ∧ records w₀.store = records w.store ∧
      ∀ r, r ∈ s.snapshot.records ↔ r ∈ records w.store := by
  obtain ⟨loaded, load_eq, rfl⟩ := opening_eq_some opened
  obtain ⟨perm, same⟩ := RecordStore.load_ok load_eq
  exact ⟨rfl, rfl, same, fun r => perm.mem_iff⟩

theorem sent_of_hasRecord (n : Migration) (w : World σ)
    (recorded : HasRecord n.ignoreCase c (records w.store)) (plain : c.IsPlain) :
    ∀ v ∈ n.visits w, v.changeSet = c → v.sent = [] := by
  unfold visits
  split
  next s w₀ opened =>
    obtain ⟨policy, -, -, agrees⟩ := opening_agrees opened
    obtain ⟨r, hr, own⟩ := recorded
    have decided : s.snapshot.mustRun c = false := by
      unfold Snapshot.mustRun
      cases found : s.snapshot.find? c with
      | none =>
        rw [← policy] at own
        exact absurd own (List.find?_eq_none.mp found r ((agrees r).mpr hr))
      | some r => simp [plain.not_always, plain.not_on_change]
    exact sent_of_visitsFrom n n.changeLog.changeSets s w₀ decided
  next =>
    intro v hv
    cases hv

theorem Reached.agrees {s₁ : Selection} {w₁ : World σ} {front : List ChangeSet}
    (hc : c.identity.IsTextual)
    (nothing_noted : s.reconciled = []) (same : ∀ r, r ∈ s.snapshot.records ↔ r ∈ records w.store)
    (others : ∀ d ∈ front, ¬ d.SharesIdentity s.snapshot.ignoreCase c)
    (h : Reached s w front s₁ w₁) :
    (∀ r, Snapshot.matches? s.snapshot.ignoreCase c r = true →
        (r ∈ records w₁.store ↔ r ∈ s₁.snapshot.records)) ∧
      ∀ r, s₁.snapshot.find? c = some r → s₁.written? r.identity = none := by
  constructor
  · intro r own
    rw [h.snapshot, same r]
    exact h.written.kept c hc others r own
  · intro r found
    have textual := Snapshot.isTextual_of_find? hc found
    have own := (Snapshot.matches?_iff hc r).mp (Snapshot.matches?_of_find? found)
    rw [h.snapshot] at own
    unfold Selection.written?
    rw [Option.map_eq_none_iff, List.find?_eq_none]
    intro entry noted
    rcases h.noted entry noted with old | ⟨d, hd, same_texts⟩
    · rw [nothing_noted] at old
      cases old
    · rw [textual.same_iff]
      intro same_identity
      rw [same_identity] at same_texts
      exact others d hd (same_texts.symm.trans own)

theorem Reached.hasRecordWith_iff {s₁ s' : Selection} {w₁ : World σ} {front : List ChangeSet}
    {written : Bool} (hc : c.identity.IsTextual) (nothing_noted : s.reconciled = [])
    (same : ∀ r, r ∈ s.snapshot.records ↔ r ∈ records w.store)
    (others : ∀ d ∈ front, ¬ d.SharesIdentity s.snapshot.ignoreCase c) (h : Reached s w front s₁ w₁)
    (reconciled : s₁.reconcile w₁.store c = (.ok (written, s'), store)) :
    HasRecordWith s.snapshot.ignoreCase c c.checksum (records store) ↔
      HasRecord s.snapshot.ignoreCase c (records w.store) := by
  obtain ⟨unchanged, unwritten⟩ := h.agrees hc nothing_noted same others
  rw [← h.snapshot] at unchanged ⊢
  rw [hasRecordWith_reconcile_iff hc (fun r own => (unchanged r own).symm) unwritten reconciled]
  apply exists_congr
  intro r
  apply and_congr_left
  intro own
  rw [unchanged r own, h.snapshot, same r]

/-- Whether the store refused to record a changeset, and an update ended with that. -/
def RefusedToRecord (m : Migration) (v : Visit σ) (result : Except Failure Report) : Prop :=
  ∃ refusal store path, HistoryStore.markRan store m.now v.changeSet path =
    (.error refusal, v.after.store) ∧
    result = .error (.store refusal)

/-- A changeset that an update executed up to its commit has a record, with its checksum or that of
a later visited one of its identity, unless the store refused this record. Then the update ends with
that, and the changeset has a record with its checksum if it had any before. A recorded changeset
that is to run once is not executed by later updates. -/
theorem hasRecordWith_of_isCommitted (m : Migration) (w : World σ)
    (textual : ∀ d ∈ m.changeLog.changeSets, d.identity.IsTextual)
    (spared : ∀ v ∈ m.visits w, v.SparesRecords) {front back : List (Visit σ)} {v : Visit σ}
    (split : m.visits w = front ++ v :: back) (committed : v.isCommitted = true) :
    ((∃ u ∈ v :: back, u.changeSet.SharesIdentity m.ignoreCase v.changeSet ∧
          HasRecordWith m.ignoreCase v.changeSet u.changeSet.checksum
            (records ((m.update false).run w).2.store)) ∨
        back = [] ∧ m.RefusedToRecord v ((m.update false).run w).1 ∧
          ((∀ u ∈ front, ¬ u.changeSet.SharesIdentity m.ignoreCase v.changeSet) →
            (HasRecordWith m.ignoreCase v.changeSet v.changeSet.checksum
                (records ((m.update false).run w).2.store) ↔
              HasRecord m.ignoreCase v.changeSet (records w.store)))) ∧
      (HasRecord m.ignoreCase v.changeSet (records ((m.update false).run w).2.store) →
        v.changeSet.IsPlain → ∀ (n : Migration) (u : World σ), n.ignoreCase = m.ignoreCase →
          u.store = ((m.update false).run w).2.store →
          ∀ again ∈ n.visits u, again.changeSet = v.changeSet → again.sent = []) := by
  have hv : v ∈ m.visits w := by
    rw [split]
    simp
  have hc := textual v.changeSet (changeSet_mem_of_visits m hv)
  refine ⟨?_, fun recorded plain n u policy same => ?_⟩
  · rcases opened : (m.opening false).run w with ⟨e | _ | s, w₀⟩
    · simp [visits, opened] at split
    · simp [visits, opened] at split
    · obtain ⟨policy, nothing_noted, same_records, agrees⟩ := opening_agrees opened
      obtain ⟨visits_eq, update_eq⟩ := run_update_of_opening opened
      have spared_here := spared v hv
      rw [visits_eq] at split spared
      obtain ⟨s₁, result, reached, dealing, outcome, later, failing⟩ :=
        reached_of_visitsFrom m m.changeLog.changeSets s w₀ textual spared split
      rcases row : (m.updateAll false s m.changeLog.changeSets).run w₀ with ⟨ended, w₁⟩
      obtain ⟨log, update_eq⟩ := update_eq ended w₁ row
      rw [update_eq]
      rw [row] at later failing
      dsimp only at later ⊢
      have committed_here :
          (Visit.mk v.changeSet v.before v.outcome v.after).isCommitted = true := committed
      rw [← policy]
      rcases dealing.marked_of_isCommitted committed_here with
        ⟨step, s', store, rfl, marked⟩ |
          ⟨refusal, written, s', store, t, rfl, reconciled, sent, refused⟩
      · left
        have recorded := hasRecordWith_markRan hc marked
        rw [reached.snapshot] at recorded
        rcases later.overwritten v.changeSet hc _ recorded with held | ⟨d, hd, shared, held⟩
        · exact ⟨v, List.mem_cons_self, rfl, held⟩
        · obtain ⟨u, hu, rfl⟩ := List.mem_map.mp hd
          exact ⟨u, List.mem_cons_of_mem v hu, shared, held⟩
      · right
        obtain ⟨last, failed⟩ := failing (.store refusal) outcome
        cases failed
        refine ⟨last, ⟨refusal, _, _, refused, rfl⟩, fun others => ?_⟩
        have front_others : ∀ d ∈ front.map Visit.changeSet,
            ¬ d.SharesIdentity s.snapshot.ignoreCase v.changeSet := by
          intro d hd
          obtain ⟨u, hu, rfl⟩ := List.mem_map.mp hd
          exact others u hu
        rw [← same_records] at agrees ⊢
        rw [RecordStore.markRan_error refused, records_follow spared_here reconciled sent]
        exact reached.hasRecordWith_iff hc nothing_noted agrees front_others reconciled
  · rw [← policy, ← same] at recorded
    exact sent_of_hasRecord n u recorded plain

end Migration

end Store

instance {σ : Type} [HistoryStore σ] [DetachedStore σ] : DetachedStore (RefusingStore σ) where
  follow_eq f t :=
    congrArg (fun store => RefusingStore.mk store f.faults) (DetachedStore.follow_eq f.store t)
  view_eq f engine log := DetachedStore.view_eq f.store engine log

namespace Migration

open RecordStore (records)

def dropTable (id table : String) : ChangeSet where
  id := .text id
  author := .text "alice"
  path := .text "db/changelog.py"
  changes := [.dropTable { table := .text table, schema := .null, cascade := .bool false }]

def dropRun (changeSets : List ChangeSet) : Migration where
  changeLog := { path := .text "db/changelog.py", changeSets := changeSets }
  database := {
    name := "sqlite"
    style := .of (some .sqlite)
    engine := some ({} : EngineScript).engine }
  now := { year := 2024, month := 1, day := 2 }

/-- A world whose store refuses some of its writes. -/
def refusingWorld (faults : List (Option String)) : World (RefusingStore MemoryStore) where
  store := { store := {}, faults := faults }

/-- Another changeset with the identity of the first one, and no changes. -/
def dropNothing : ChangeSet := { dropTable "1" "orders" with changes := [] }

theorem checksum_dropNothing_ne : dropNothing.checksum ≠ (dropTable "1" "orders").checksum := by
  have payload : checksumPayload (dropTable "1" "orders").changes =
      String.ofList (Json.compactChars (.list [Json.sorted (dropContent (codes "orders"))])) := rfl
  unfold ChangeSet.checksum checksumOf
  rw [payload, sorted_dropContent]
  decide +kernel

/-- An update on a store that refuses the first record. -/
def dropRefused : World (RefusingStore MemoryStore) :=
  (((dropRun [dropTable "1" "orders"]).update false).run (refusingWorld [some "disk full"])).2

def dropTwice : World MemoryStore :=
  (((dropRun [dropTable "1" "orders", dropNothing]).update false).run ⟨{}, [], []⟩).2

/-- A history table in the migrated database, which is gone when it is dropped. -/
def sharedWorld : World (SharedStore TableStore) where
  store := {
    store := {}
    reach := fun t store =>
      if t.committed && t.statements.contains "DROP TABLE \"DATABASECHANGELOG\"" then
        { store with rows := none }
      else store }

def dropHistory : Migration := dropRun [dropTable "1" "orders", dropTable "2" "DATABASECHANGELOG"]

/-- A changeset is committed, but not recorded, and executed again by the next update; of two
changesets of one identity the record holds the checksum of the second only; and what was recorded
is lost when a later changeset drops the table of the history. -/
theorem dropTable_unrecorded :
    (∃ v ∈ (dropRun [dropTable "1" "orders"]).visits (refusingWorld [some "disk full"]),
        v.isCommitted = true ∧ v.changeSet.IsPlain ∧
        ¬ HasRecord false v.changeSet (records dropRefused.store) ∧
        ∃ again ∈ (dropRun [dropTable "1" "orders"]).visits dropRefused,
          again.changeSet = v.changeSet ∧ again.isCommitted = true) ∧
      (∃ v ∈ (dropRun [dropTable "1" "orders", dropNothing]).visits
        (⟨{}, [], []⟩ : World MemoryStore),
        v.isCommitted = true ∧
        ¬ HasRecordWith false v.changeSet v.changeSet.checksum (records dropTwice.store)) ∧
      ∃ v ∈ dropHistory.visits sharedWorld, v.isCommitted = true ∧ (∃ step, v.outcome = .ok step) ∧
        v.changeSet.IsPlain ∧
        ¬ HasRecord false v.changeSet (records
          ((dropHistory.update false).run sharedWorld).2.store) := by
  refine ⟨?_, ?_, ?_⟩
  · have commits : ((dropRun [dropTable "1" "orders"]).visits
        (refusingWorld [some "disk full"])).any Visit.isCommitted = true := by decide +kernel
    have commits_again : ((dropRun [dropTable "1" "orders"]).visits dropRefused).any
        Visit.isCommitted = true := by decide +kernel
    have unrecorded : records dropRefused.store = [] := by decide +kernel
    obtain ⟨v, hv, committed⟩ := List.any_eq_true.mp commits
    obtain ⟨again, hagain, committed_again⟩ := List.any_eq_true.mp commits_again
    have at_v : v.changeSet = dropTable "1" "orders" :=
      List.mem_singleton.mp (changeSet_mem_of_visits _ hv)
    have at_again : again.changeSet = dropTable "1" "orders" :=
      List.mem_singleton.mp (changeSet_mem_of_visits _ hagain)
    refine ⟨v, hv, committed, ?_, ?_, again, hagain, at_again.trans at_v.symm, committed_again⟩
    · rw [at_v]
      exact ⟨rfl, rfl⟩
    · rintro ⟨r, hr, -⟩
      rw [unrecorded] at hr
      cases hr
  · have commits : ((dropRun [dropTable "1" "orders", dropNothing]).visits
        (⟨{}, [], []⟩ : World MemoryStore)).any
          (fun v => v.isCommitted && !v.changeSet.changes.isEmpty) = true := by decide +kernel
    have recorded : (records dropTwice.store).map Record.checksum =
        [.text dropNothing.checksum] := by
      decide +kernel
    obtain ⟨v, hv, committed⟩ := List.any_eq_true.mp commits
    rw [Bool.and_eq_true] at committed
    have at_v : v.changeSet = dropTable "1" "orders" := by
      rcases List.mem_cons.mp (changeSet_mem_of_visits _ hv) with first | second
      · exact first
      · have changes := committed.2
        rw [List.mem_singleton.mp second] at changes
        cases changes
    refine ⟨v, hv, committed.1, ?_⟩
    rintro ⟨r, hr, -, content⟩
    have content' : r.checksum = .text dropNothing.checksum := by
      have known := List.mem_map_of_mem (f := Record.checksum) hr
      rw [recorded] at known
      exact List.mem_singleton.mp known
    rw [at_v, content'] at content
    exact checksum_dropNothing_ne (Value.text.inj content)
  · have commits : (dropHistory.visits sharedWorld).any
        (fun v => v.isCommitted && v.outcome.toBool) = true := by decide +kernel
    have lost : records ((dropHistory.update false).run sharedWorld).2.store = [] := by
      decide +kernel
    obtain ⟨v, hv, both⟩ := List.any_eq_true.mp commits
    rw [Bool.and_eq_true] at both
    refine ⟨v, hv, both.1, ?_, ?_, ?_⟩
    · cases outcome : v.outcome with
      | error e => simp [outcome, Except.toBool] at both
      | ok step => exact ⟨step, rfl⟩
    · rcases List.mem_cons.mp (changeSet_mem_of_visits _ hv) with first | second
      · rw [first]
        exact ⟨rfl, rfl⟩
      · rw [List.mem_singleton.mp second]
        exact ⟨rfl, rfl⟩
    · rintro ⟨r, hr, -⟩
      rw [lost] at hr
      cases hr

theorem hasRecordWith_of_isCommitted_drop :
    ∃ a b, (dropRun [dropTable "1" "orders", dropTable "2" "customers"]).visits
        (refusingWorld [none, some "disk full"]) = [a, b] ∧
      a.isCommitted = true ∧ b.isCommitted = true ∧
      ∃ u ∈ [a, b], u.changeSet.SharesIdentity false a.changeSet ∧
        HasRecordWith false a.changeSet u.changeSet.checksum
          (records (((dropRun [dropTable "1" "orders", dropTable "2" "customers"]).update false).run
            (refusingWorld [none, some "disk full"])).2.store) := by
  have commits : ((dropRun [dropTable "1" "orders", dropTable "2" "customers"]).visits
      (refusingWorld [none, some "disk full"])).map Visit.isCommitted = [true, true] := by
    decide +kernel
  obtain ⟨a, more, visits, committed_a, commits_more⟩ := List.map_eq_cons_iff.mp commits
  obtain ⟨b, none_left, rfl, committed_b, commits_none⟩ := List.map_eq_cons_iff.mp commits_more
  rw [List.map_eq_nil_iff.mp commits_none] at visits
  refine ⟨a, b, visits, committed_a, committed_b, ?_⟩
  have textual :
      ∀ d ∈ (dropRun [dropTable "1" "orders", dropTable "2" "customers"]).changeLog.changeSets,
        d.identity.IsTextual := by
    intro d hd
    rcases List.mem_cons.mp hd with rfl | hd
    · exact ⟨_, _, _, rfl⟩
    · rw [List.mem_singleton.mp hd]
      exact ⟨_, _, _, rfl⟩
  have split : (dropRun [dropTable "1" "orders", dropTable "2" "customers"]).visits
      (refusingWorld [none, some "disk full"]) = [] ++ a :: [b] := visits
  rcases (hasRecordWith_of_isCommitted (dropRun [dropTable "1" "orders", dropTable "2" "customers"])
    (refusingWorld [none, some "disk full"]) textual (fun v _ => v.sparesRecords_of_detached) split
    committed_a).1 with recorded | ⟨last, -⟩
  · exact recorded
  · cases last

end Migration

end SchemaMigration
