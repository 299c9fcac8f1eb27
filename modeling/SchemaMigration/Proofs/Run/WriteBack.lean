import SchemaMigration.Proofs.History.Agreement
import SchemaMigration.Proofs.Run.Dues

/-! Rows of calls on one selection. What is compared is the snapshot, which stays as it was taken,
and a selection remembers what it has written; so a checksum that had drifted is written back by the
first call that comes across it, and again only after a refusal. -/

namespace SchemaMigration

/-- A call on a selection, about one changeset. -/
inductive Evaluation
  | decide (c : ChangeSet)
  | reconcile (c : ChangeSet)
  | shouldRun (c : ChangeSet)

namespace Evaluation

def changeSet : Evaluation → ChangeSet
  | decide c | reconcile c | shouldRun c => c

def reconciled? : Evaluation → Option ChangeSet
  | decide _ => none
  | reconcile c | shouldRun c => some c

theorem reconciled?_eq_some {e : Evaluation} {c : ChangeSet} (h : e.reconciled? = some c) :
    e.changeSet = c := by
  cases e with
  | decide d => cases h
  | reconcile d => exact Option.some.inj h
  | shouldRun d => exact Option.some.inj h

section Run

variable {σ : Type} [HistoryStore σ]

def settle (s : Selection) :
    Except StoreError (Bool × Selection) × σ → Except StoreError Bool × Selection × σ
  | (.ok (answer, s'), store) => (.ok answer, s', store)
  | (.error failure, store) => (.error failure, s, store)

def run (e : Evaluation) (state : Selection × σ) : Except StoreError Bool × Selection × σ :=
  match e with
  | decide c =>
    if state.1.snapshot.isObstructed c then (.error (.misfit .lacking), state)
    else (.ok (state.1.snapshot.mustRun c), state)
  | reconcile c => settle state.1 (state.1.reconcile state.2 c)
  | shouldRun c => settle state.1 (state.1.shouldRun state.2 c)

/-- What a row of calls leaves, those that fail included. -/
def after (evaluations : List Evaluation) (state : Selection × σ) : Selection × σ :=
  evaluations.foldl (fun state e => (e.run state).2) state

theorem after_concat (evaluations : List Evaluation) (e : Evaluation) (state : Selection × σ) :
    after (evaluations ++ [e]) state = (e.run (after evaluations state)).2 :=
  List.foldl_concat _ _ _ _

end Run

def compared? (s : Snapshot) (e : Evaluation) : Option ChangeSet :=
  e.reconciled?.filter fun c => !s.isObstructed c

/-- The changesets that a row of calls compares, one after the other. -/
def compared (s : Snapshot) (evaluations : List Evaluation) : List ChangeSet :=
  evaluations.filterMap (compared? s)

theorem compared_concat (s : Snapshot) (evaluations : List Evaluation) (e : Evaluation) :
    compared s (evaluations ++ [e]) = compared s evaluations ++ (e.compared? s).toList := by
  cases known : e.compared? s with
  | none => simp [compared, known]
  | some c => simp [compared, known]

theorem isTextual_of_compared? {e : Evaluation} {changeSets : List ChangeSet}
    (textual : e.changeSet.identity.IsTextual) (textuals : ∀ c ∈ changeSets, c.identity.IsTextual)
    (s : Snapshot) : ∀ c ∈ changeSets ++ (e.compared? s).toList, c.identity.IsTextual := by
  intro c hc
  rcases List.mem_append.mp hc with before | now
  · exact textuals c before
  · have known := Option.mem_toList.mp now
    rw [← reconciled?_eq_some (Option.filter_eq_some_iff.mp known).1]
    exact textual

theorem isTextual_of_compared {s : Snapshot} {evaluations : List Evaluation}
    (textual : ∀ e ∈ evaluations, e.changeSet.identity.IsTextual) :
    ∀ c ∈ compared s evaluations, c.identity.IsTextual := by
  intro c hc
  obtain ⟨e, he, known⟩ := List.mem_filterMap.mp hc
  rw [← reconciled?_eq_some (Option.filter_eq_some_iff.mp known).1]
  exact textual e he

variable {σ : Type} [HistoryStore σ] {s s' : Selection} {c : ChangeSet} {e : Evaluation}
  {store store' : σ}
  {w : Identity × String} {failure : StoreError}

def toWrite? (s : Selection) (e : Evaluation) : Option (Identity × String) :=
  (e.compared? s.snapshot).bind fun c => (s.toReconcile? c).map fun i => (i, c.checksum)

theorem run_of_reconcile_error (h : s.reconcile store c = (.error failure, store'))
    (of : e.reconciled? = some c) : e.run (s, store) = (.error failure, s, store') := by
  cases e with
  | decide d => cases of
  | reconcile d =>
    cases of
    simp [run, h, settle]
  | shouldRun d =>
    cases of
    simp [run, Selection.shouldRun, h, settle, Except.map]

theorem run_of_reconcile_ok {written : Bool} (h : s.reconcile store c = (.ok (written, s'), store'))
    (of : e.reconciled? = some c) : (e.run (s, store)).2 = (s', store') := by
  cases e with
  | decide d => cases of
  | reconcile d =>
    cases of
    simp [run, h, settle]
  | shouldRun d =>
    cases of
    simp [run, Selection.shouldRun, h, settle, Except.map]

theorem run_idle (idle : e.toWrite? s = none) : (e.run (s, store)).2 = (s, store) := by
  cases of : e.reconciled? with
  | none =>
    cases e with
    | decide c =>
      simp only [run]
      split
      · rfl
      · rfl
    | reconcile c => cases of
    | shouldRun c => cases of
  | some c =>
    cases blocked : s.snapshot.isObstructed c with
    | true =>
      have failed : s.reconcile store c = (.error (.misfit .lacking), store) := by
        simp [Selection.reconcile, blocked]
      rw [run_of_reconcile_error failed of]
    | false =>
      have current : s.toReconcile? c = none := by
        simpa [toWrite?, compared?, of, Option.filter, blocked] using idle
      have done : s.reconcile store c = (.ok (false, s), store) := by
        simp [Selection.reconcile, blocked, current]
      rw [run_of_reconcile_ok done of]

section Due

variable (textual : e.changeSet.identity.IsTextual) (due : e.toWrite? s = some w)

include textual due

theorem toWrite?_eq_some : ∃ c, e.reconciled? = some c ∧ s.snapshot.isObstructed c = false ∧
    s.toReconcile? c = some w.1 ∧ w.1.IsTextual ∧ c.checksum = w.2 := by
  obtain ⟨c, known, written⟩ := Option.bind_eq_some_iff.mp due
  obtain ⟨of, free⟩ := Option.filter_eq_some_iff.mp known
  obtain ⟨i, due_c, rfl⟩ := Option.map_eq_some_iff.mp written
  obtain ⟨r, found, rfl, -⟩ := Selection.toReconcile?_eq_some due_c
  rw [reconciled?_eq_some of] at textual
  exact ⟨c, of, by simpa using free, due_c, Snapshot.isTextual_of_find? textual found, rfl⟩

theorem run_refused (refused : HistoryStore.updateChecksum store w.1 (.text w.2) =
    (.error failure, store')) :
    e.run (s, store) = (.error failure, s, store') := by
  obtain ⟨c, of, free, due_c, key, content⟩ := toWrite?_eq_some textual due
  have failed : s.reconcile store c = (.error failure, store') := by
    simp [Selection.reconcile, free, due_c, key.isKey, content, refused]
  exact run_of_reconcile_error failed of

theorem run_written (written : HistoryStore.updateChecksum store w.1 (.text w.2) =
    (.ok (), store')) :
    (e.run (s, store)).2 = ({ s with reconciled := w :: s.reconciled }, store') := by
  obtain ⟨c, of, free, due_c, key, content⟩ := toWrite?_eq_some textual due
  have done : s.reconcile store c =
      (.ok (true, { s with reconciled := w :: s.reconciled }), store') := by
    simp [Selection.reconcile, free, due_c, key.isKey, content, written]
  exact run_of_reconcile_ok done of

end Due

end Evaluation

structure Selection.Remembers (s : Selection) (snapshot : Snapshot)
    (changeSets : List ChangeSet) : Prop where
  snapshot_eq : s.snapshot = snapshot
  known : ∀ w ∈ s.reconciled, w ∈ snapshot.dues changeSets

namespace Selection

variable {s : Selection} {snapshot : Snapshot} {changeSets : List ChangeSet} {c : ChangeSet}

theorem Remembers.written?_eq (remembers : s.Remembers snapshot changeSets)
    (alike : snapshot.GovernsAlike (changeSets ++ [c]))
    (textual : ∀ d ∈ changeSets ++ [c], d.identity.IsTextual) {w : Identity × String}
    (due : snapshot.due? c = some w) : s.written? w.1 = some w.2 ↔ w ∈ s.reconciled := by
  obtain ⟨drifted, -⟩ := Snapshot.due?_eq_some.mp due
  obtain ⟨r, found, identity_eq, -⟩ := Snapshot.drifted?_eq_some drifted
  have key : w.1.IsTextual := by
    rw [← identity_eq]
    exact Snapshot.isTextual_of_find? (textual c (by simp)) found
  constructor
  · intro written
    obtain ⟨v, hv, content⟩ := Option.map_eq_some_iff.mp written
    have found_v := List.find?_some hv
    have same : v.1 = w.1 := key.same_iff.mp found_v
    have equal : v = w := Prod.ext same content
    rw [← equal]
    exact List.mem_of_find?_eq_some hv
  · intro known
    cases written : s.reconciled.find? fun v => v.1.same w.1 with
    | none =>
      have unlike := List.find?_eq_none.mp written w known
      exact absurd (key.same_iff.mpr rfl) unlike
    | some v =>
      have found_v := List.find?_some written
      have same : v.1 = w.1 := key.same_iff.mp found_v
      obtain ⟨d, hd, due_d⟩ :=
        Snapshot.mem_dues.mp (remembers.known v (List.mem_of_find?_eq_some written))
      have equal := alike.due_eq textual (List.mem_append_left _ hd) (by simp) due_d due same
      rw [written?, written, equal, Option.map_some]

theorem Remembers.toReconcile?_eq (remembers : s.Remembers snapshot changeSets)
    (alike : snapshot.GovernsAlike (changeSets ++ [c]))
    (textual : ∀ d ∈ changeSets ++ [c], d.identity.IsTextual) :
    (s.toReconcile? c).map (fun i => (i, c.checksum)) =
      (snapshot.due? c).filter fun w => w ∉ s.reconciled := by
  obtain ⟨rfl, -⟩ := id remembers
  cases found : s.snapshot.find? c with
  | none => simp [toReconcile?, Snapshot.due?, Snapshot.drifted?, found]
  | some r =>
    cases drifted : Snapshot.hasDrifted c r with
    | false => simp [toReconcile?, Snapshot.due?, Snapshot.drifted?, found, drifted, Option.filter]
    | true =>
      have due : s.snapshot.due? c = some (r.identity, c.checksum) := by
        simp [Snapshot.due?, Snapshot.drifted?, found, drifted, Option.filter]
      have written := remembers.written?_eq alike textual due
      by_cases known : (r.identity, c.checksum) ∈ s.reconciled
      · simp [toReconcile?, found, drifted, due, written.mpr known, known, Option.filter]
      · have unwritten : s.written? r.identity ≠ some c.checksum := fun h => known (written.mp h)
        simp [toReconcile?, found, drifted, due, unwritten, known, Option.filter]

end Selection

namespace Evaluation

def due? (s : Snapshot) (e : Evaluation) : Option (Identity × String) := (e.compared? s).bind s.due?

theorem toWrite?_eq {s : Selection} {snapshot : Snapshot} {changeSets : List ChangeSet}
    {e : Evaluation}
    (remembers : s.Remembers snapshot changeSets)
    (alike : snapshot.GovernsAlike (changeSets ++ (e.compared? snapshot).toList))
    (textual : ∀ c ∈ changeSets ++ (e.compared? snapshot).toList, c.identity.IsTextual) :
    e.toWrite? s = (e.due? snapshot).filter fun w => w ∉ s.reconciled := by
  unfold toWrite? due?
  rw [remembers.snapshot_eq]
  cases known : e.compared? snapshot with
  | none => rfl
  | some c =>
    rw [known] at alike textual
    exact remembers.toReconcile?_eq alike textual

def fresh? (s : Snapshot) (changeSets : List ChangeSet) (e : Evaluation) :
    Option (Identity × String) :=
  (e.due? s).filter fun w => w ∉ s.dues changeSets

theorem dues_fresh (s : Snapshot) (changeSets : List ChangeSet) (e : Evaluation) :
    s.dues (changeSets ++ (e.compared? s).toList) =
      s.dues changeSets ++ (e.fresh? s changeSets).toList := by
  unfold fresh? due?
  cases e.compared? s with
  | none => simp
  | some c => exact Snapshot.dues_concat

theorem refreshed_of_fresh_none {s : Snapshot} {changeSets : List ChangeSet} {e : Evaluation}
    (old : e.fresh? s changeSets = none) (r : Record) :
    s.refreshed (changeSets ++ (e.compared? s).toList) r = s.refreshed changeSets r := by
  unfold fresh? due? at old
  cases known : e.compared? s with
  | none => rw [Option.toList_none, List.append_nil]
  | some c =>
    rw [known] at old
    exact Snapshot.refreshed_concat_of_none old r

theorem refreshed_of_fresh_some {s : Snapshot} {changeSets : List ChangeSet} {e : Evaluation}
    {w : Identity × String} (alike : s.GovernsAlike (changeSets ++ (e.compared? s).toList))
    (textual : ∀ c ∈ changeSets ++ (e.compared? s).toList, c.identity.IsTextual)
    (new : e.fresh? s changeSets = some w) (r : Record) :
    s.refreshed (changeSets ++ (e.compared? s).toList) r =
      (s.refreshed changeSets r).rewritten w.1 (.text w.2) := by
  unfold fresh? due? at new
  cases known : e.compared? s with
  | none =>
    rw [known] at new
    cases new
  | some c =>
    rw [known] at alike textual new
    exact Snapshot.refreshed_concat_of_some alike textual new r

section Memory

variable {store : MemoryStore} {ignoreCase : Bool} {changeSets : List ChangeSet} {e : Evaluation}
  {state : Selection × MemoryStore} {evaluations : List Evaluation}

structure IsLeft (store : MemoryStore) (ignoreCase : Bool) (changeSets : List ChangeSet)
    (state : Selection × MemoryStore) : Prop where
  snapshot_eq : state.1.snapshot = store.snapshot ignoreCase
  remembered : state.1.reconciled = ((store.snapshot ignoreCase).dues changeSets).reverse
  updates : state.2.checksumUpdates = store.checksumUpdates ++
    ((store.snapshot ignoreCase).dues changeSets).map fun w => (w.1, .text w.2)
  records : state.2.records = store.records.map ((store.snapshot ignoreCase).refreshed changeSets)

theorem isLeft_nil :
    IsLeft store ignoreCase [] ({ snapshot := store.snapshot ignoreCase }, store) where
  snapshot_eq := rfl
  remembered := rfl
  updates := by simp [Snapshot.dues]
  records := (List.map_id store.records).symm

theorem IsLeft.remembers (left : IsLeft store ignoreCase changeSets state) :
    state.1.Remembers (store.snapshot ignoreCase) changeSets where
  snapshot_eq := left.snapshot_eq
  known w hw := by
    rw [left.remembered] at hw
    exact List.mem_reverse.mp hw

theorem IsLeft.run (left : IsLeft store ignoreCase changeSets state)
    (textual : e.changeSet.identity.IsTextual) (textuals : ∀ c ∈ changeSets, c.identity.IsTextual)
    (alike : (store.snapshot ignoreCase).GovernsAlike
      (changeSets ++ (e.compared? (store.snapshot ignoreCase)).toList)) :
    IsLeft store ignoreCase (changeSets ++ (e.compared? (store.snapshot ignoreCase)).toList)
      (e.run state).2 := by
  have textuals' := isTextual_of_compared? textual textuals (store.snapshot ignoreCase)
  have asks : e.toWrite? state.1 = e.fresh? (store.snapshot ignoreCase) changeSets := by
    rw [toWrite?_eq left.remembers alike textuals', left.remembered]
    simp only [List.mem_reverse]
    rfl
  have dues_eq := dues_fresh (store.snapshot ignoreCase) changeSets e
  obtain ⟨s, live⟩ := state
  obtain ⟨snapshot_eq, remembered, updates, records⟩ := left
  dsimp only at snapshot_eq remembered updates records asks
  cases new : e.fresh? (store.snapshot ignoreCase) changeSets with
  | none =>
    rw [new] at asks dues_eq
    rw [Option.toList_none, List.append_nil] at dues_eq
    rw [run_idle asks]
    refine ⟨snapshot_eq, by rw [dues_eq, remembered], by rw [dues_eq, updates], ?_⟩
    rw [records]
    exact List.map_congr_left fun r _ => (refreshed_of_fresh_none new r).symm
  | some w =>
    rw [new] at asks dues_eq
    rw [Option.toList_some] at dues_eq
    have written : HistoryStore.updateChecksum live w.1 (.text w.2) =
        (.ok (), live.updateChecksum w.1 (.text w.2)) := rfl
    rw [run_written textual asks written]
    refine ⟨snapshot_eq, by simp [dues_eq, remembered], ?_, ?_⟩
    · simp [MemoryStore.updateChecksum, dues_eq, updates]
    · obtain ⟨-, -, -, -, key, -⟩ := toWrite?_eq_some textual asks
      rw [MemoryStore.updateChecksum, records, List.map_map]
      apply List.map_congr_left
      intro r _
      rw [refreshed_of_fresh_some alike textuals' new, Function.comp_apply, Record.rewritten]
      simp only [key.same_iff]

theorem isLeft_after (textual : ∀ e ∈ evaluations, e.changeSet.identity.IsTextual)
    (alike : (store.snapshot ignoreCase).GovernsAlike
      (compared (store.snapshot ignoreCase) evaluations)) :
    IsLeft store ignoreCase (compared (store.snapshot ignoreCase) evaluations)
      (after evaluations ({ snapshot := store.snapshot ignoreCase }, store)) := by
  induction evaluations using List.reverseRecOn with
  | nil => exact isLeft_nil
  | append_singleton front e ih =>
    have textual_front : ∀ d ∈ front, d.changeSet.identity.IsTextual :=
      fun d hd => textual d (List.mem_append_left _ hd)
    rw [compared_concat] at alike ⊢
    rw [after_concat]
    exact (ih textual_front (alike.mono (List.subset_append_left _ _))).run (textual e (by simp))
      (isTextual_of_compared textual_front) alike

end Memory

end Evaluation

structure ChecksumRequest where
  identity : Identity
  checksum : Value
  failure? : Option StoreError

structure WatchedStore (σ : Type) where
  store : σ
  requests : List ChecksumRequest := []

namespace WatchedStore

variable {σ : Type} [HistoryStore σ]

def failure? : Except StoreError Unit → Option StoreError
  | .error e => some e
  | .ok _ => none

instance : HistoryStore (WatchedStore σ) where
  load w := ((HistoryStore.load w.store).1, { w with store := (HistoryStore.load w.store).2 })
  updateChecksum w i checksum :=
    ((HistoryStore.updateChecksum w.store i checksum).1,
      { store := (HistoryStore.updateChecksum w.store i checksum).2
        requests := w.requests ++
          [⟨i, checksum, failure? (HistoryStore.updateChecksum w.store i checksum).1⟩] })
  markRan w now c path :=
    ((HistoryStore.markRan w.store now c path).1,
      { w with store := (HistoryStore.markRan w.store now c path).2 })
  remove w c path :=
    ((HistoryStore.remove w.store c path).1,
      { w with store := (HistoryStore.remove w.store c path).2 })
  follow w t := { w with store := HistoryStore.follow w.store t }
  view w engine log := HistoryStore.view w.store engine log

def HasWritten (watched : WatchedStore σ) (w : Identity × String) : Prop :=
  ⟨w.1, .text w.2, none⟩ ∈ watched.requests

theorem hasWritten_updateChecksum {watched watched' : WatchedStore σ} {v w : Identity × String}
    {result : Except StoreError Unit}
    (asked : HistoryStore.updateChecksum watched w.1 (.text w.2) = (result, watched')) :
    watched'.HasWritten v ↔ watched.HasWritten v ∨ v = w ∧ result = .ok () := by
  obtain ⟨rfl, rfl⟩ := Prod.mk.inj asked
  obtain ⟨i, t⟩ := v
  obtain ⟨j, u⟩ := w
  cases HistoryStore.updateChecksum watched.store j (.text u) with
  | mk result store =>
    cases result with
    | error e => simp [HasWritten, failure?]
    | ok done => simp [HasWritten, failure?]

end WatchedStore

namespace Evaluation

section Watched

variable {σ : Type} [HistoryStore σ] {s : Snapshot} {changeSets : List ChangeSet} {e : Evaluation}
  {state : Selection × WatchedStore σ} {evaluations : List Evaluation}

structure IsTracked (s : Snapshot) (changeSets : List ChangeSet)
    (state : Selection × WatchedStore σ) : Prop where
  remembers : state.1.Remembers s changeSets
  written_iff : ∀ w, w ∈ state.1.reconciled ↔ state.2.HasWritten w

theorem IsTracked.run (tracked : IsTracked s changeSets state)
    (textual : e.changeSet.identity.IsTextual) (textuals : ∀ c ∈ changeSets, c.identity.IsTextual)
    (alike : s.GovernsAlike (changeSets ++ (e.compared? s).toList)) :
    IsTracked s (changeSets ++ (e.compared? s).toList) (e.run state).2 := by
  have asks := toWrite?_eq tracked.remembers alike (isTextual_of_compared? textual textuals s)
  have grown : s.dues changeSets ⊆ s.dues (changeSets ++ (e.compared? s).toList) := by
    rw [dues_fresh]
    exact List.subset_append_left _ _
  obtain ⟨selection, watched⟩ := state
  obtain ⟨⟨snapshot_eq, known⟩, written_iff⟩ := tracked
  dsimp only at snapshot_eq known written_iff asks
  cases due : e.toWrite? selection with
  | none =>
    rw [run_idle due]
    exact ⟨⟨snapshot_eq, fun w hw => grown (known w hw)⟩, written_iff⟩
  | some w =>
    rcases asked : HistoryStore.updateChecksum watched w.1 (.text w.2) with ⟨failure | ⟨⟩, watched'⟩
    · rw [run_refused textual due asked]
      refine ⟨⟨snapshot_eq, fun w hw => grown (known w hw)⟩, fun v => ?_⟩
      simp [written_iff, WatchedStore.hasWritten_updateChecksum asked]
    · rw [run_written textual due asked]
      refine ⟨⟨snapshot_eq, fun v hv => ?_⟩, fun v => ?_⟩
      · rcases List.mem_cons.mp hv with rfl | before
        · rw [due] at asks
          obtain ⟨c, hc, due_c⟩ :=
            Option.bind_eq_some_iff.mp (Option.filter_eq_some_iff.mp asks.symm).1
          exact Snapshot.mem_dues.mpr ⟨c, by simp [hc], due_c⟩
        · exact grown (known v before)
      · simp [written_iff, WatchedStore.hasWritten_updateChecksum asked, or_comm]

theorem isTracked_after (s : Snapshot) (store : σ)
    (textual : ∀ e ∈ evaluations, e.changeSet.identity.IsTextual)
    (alike : s.GovernsAlike (compared s evaluations)) :
    IsTracked s (compared s evaluations)
      (after evaluations ({ snapshot := s }, ({ store := store } : WatchedStore σ))) := by
  induction evaluations using List.reverseRecOn with
  | nil =>
    have nothing_known : ∀ w ∈ ([] : List (Identity × String)), w ∈ s.dues [] :=
      fun w hw => by cases hw
    exact ⟨⟨rfl, nothing_known⟩, fun w => by simp [after, WatchedStore.HasWritten]⟩
  | append_singleton front e ih =>
    have textual_front : ∀ d ∈ front, d.changeSet.identity.IsTextual :=
      fun d hd => textual d (List.mem_append_left _ hd)
    rw [compared_concat] at alike ⊢
    rw [after_concat]
    exact (ih textual_front (alike.mono (List.subset_append_left _ _))).run (textual e (by simp))
      (isTextual_of_compared textual_front) alike

/-- A call asks the store once for what is due and was not written yet, and passes a refusal on;
else it leaves the store alone. -/
structure AsksUntilWritten (s : Snapshot) (e : Evaluation)
    (state : Selection × WatchedStore σ) : Prop where
  asked : ∀ w, e.due? s = some w → ¬ state.2.HasWritten w →
    (e.run state).2.2 = (HistoryStore.updateChecksum state.2 w.1 (.text w.2)).2 ∧
      ∀ failure, (HistoryStore.updateChecksum state.2 w.1 (.text w.2)).1 = .error failure →
        (e.run state).1 = .error failure
  spared : (∀ w, e.due? s = some w → state.2.HasWritten w) → (e.run state).2.2 = state.2

theorem IsTracked.asksUntilWritten (tracked : IsTracked s changeSets state)
    (textual : e.changeSet.identity.IsTextual) (textuals : ∀ c ∈ changeSets, c.identity.IsTextual)
    (alike : s.GovernsAlike (changeSets ++ (e.compared? s).toList)) :
    AsksUntilWritten s e state := by
  have asks := toWrite?_eq tracked.remembers alike (isTextual_of_compared? textual textuals s)
  obtain ⟨selection, watched⟩ := state
  obtain ⟨-, written_iff⟩ := tracked
  dsimp only at written_iff asks
  constructor
  · intro w due unwritten
    have to_write : e.toWrite? selection = some w := by
      rw [asks, due, Option.filter_some, if_pos (by simpa [written_iff] using unwritten)]
    rcases asked : HistoryStore.updateChecksum watched w.1 (.text w.2) with ⟨failure | ⟨⟩, watched'⟩
    · rw [run_refused textual to_write asked]
      exact ⟨rfl, fun _ same => congrArg Except.error (Except.error.inj same)⟩
    · rw [run_written textual to_write asked]
      exact ⟨rfl, fun _ refused => by cases refused⟩
  · intro written
    have idle : e.toWrite? selection = none := by
      rw [asks, Option.filter_eq_none_iff]
      intro w due
      simpa [written_iff] using written w due
    rw [run_idle idle]

end Watched

/-- What a row of calls leaves of a store in memory. Each checksum that had drifted was written
once, in the order in which the calls came across the records, to the records of the very identity;
nothing else has changed. -/
structure WritesBack (store : MemoryStore) (ignoreCase : Bool) (evaluations : List Evaluation)
    (left : MemoryStore) : Prop where
  updates : left.checksumUpdates = store.checksumUpdates ++
    ((store.snapshot ignoreCase).dues (compared (store.snapshot ignoreCase) evaluations)).map
      fun w => (w.1, .text w.2)
  once : (((store.snapshot ignoreCase).dues
    (compared (store.snapshot ignoreCase) evaluations)).map Prod.fst).Nodup
  records : left.records =
    store.records.map ((store.snapshot ignoreCase).refreshed
      (compared (store.snapshot ignoreCase) evaluations))
  governing : ∀ c ∈ compared (store.snapshot ignoreCase) evaluations,
    (left.snapshot ignoreCase).find? c =
      ((store.snapshot ignoreCase).find? c).map fun r => { r with checksum := .text c.checksum }

theorem IsLeft.writesBack {store : MemoryStore} {ignoreCase : Bool} {evaluations : List Evaluation}
    {state : Selection × MemoryStore} (textual : ∀ e ∈ evaluations, e.changeSet.identity.IsTextual)
    (alike : (store.snapshot ignoreCase).GovernsAlike
      (compared (store.snapshot ignoreCase) evaluations))
    (left : IsLeft store ignoreCase (compared (store.snapshot ignoreCase) evaluations) state) :
    WritesBack store ignoreCase evaluations state.2 where
  updates := left.updates
  once := Snapshot.nodup_dues alike (isTextual_of_compared textual)
  records := left.records
  governing c hc := by
    have renewed : state.2.snapshot ignoreCase = (store.snapshot ignoreCase).renewed
        (compared (store.snapshot ignoreCase) evaluations) := by
      rw [MemoryStore.snapshot, left.records]
      rfl
    rw [renewed, Snapshot.find?_renewed]
    cases found : (store.snapshot ignoreCase).find? c with
    | none => rfl
    | some r =>
      exact congrArg some (alike.refreshed_of_governs (isTextual_of_compared textual) hc found)

/-- Checksums that have drifted are written back once, and a write that is refused is made again by
the next call on its record. -/
theorem writesBack_after (store : MemoryStore) (ignoreCase : Bool) (evaluations : List Evaluation)
    (textual : ∀ e ∈ evaluations, e.changeSet.identity.IsTextual)
    (alike : (store.snapshot ignoreCase).GovernsAlike
      (compared (store.snapshot ignoreCase) evaluations)) :
    WritesBack store ignoreCase evaluations
        (after evaluations ({ snapshot := store.snapshot ignoreCase }, store)).2 ∧
      ∀ (σ : Type) [HistoryStore σ] (any : σ) (front rest : List Evaluation) (e : Evaluation),
        evaluations = front ++ e :: rest →
          AsksUntilWritten (store.snapshot ignoreCase) e (after front
            ({ snapshot := store.snapshot ignoreCase }, ({ store := any } : WatchedStore σ))) := by
  refine ⟨(isLeft_after textual alike).writesBack textual alike, ?_⟩
  rintro σ _ any front rest e rfl
  have split_eq : front ++ e :: rest = (front ++ [e]) ++ rest := by simp
  have textual_front : ∀ d ∈ front, d.changeSet.identity.IsTextual :=
    fun d hd => textual d (List.mem_append_left _ hd)
  have alike_e : (store.snapshot ignoreCase).GovernsAlike
    (compared (store.snapshot ignoreCase) front ++
      (e.compared? (store.snapshot ignoreCase)).toList) := by
    rw [split_eq, compared, List.filterMap_append] at alike
    rw [← compared_concat]
    exact alike.mono (List.subset_append_left _ _)
  have tracked := isTracked_after (store.snapshot ignoreCase) any textual_front
    (alike_e.mono (List.subset_append_left _ _))
  exact tracked.asksUntilWritten (textual e (by simp)) (isTextual_of_compared textual_front) alike_e

open HistoryEdit (emptySet isTextual_emptySet)

def emptyRecord (id : String) (checksum : Value) (order : Int) : Record where
  id := .text id
  author := .text "alice"
  path := .text "db/changelog.py"
  checksum := checksum
  order := .int order

def driftedStore : MemoryStore where
  records := [emptyRecord "1" .null 1, emptyRecord "2" (.text "old") 2, emptyRecord "3" .null 3]

def crossedRow : List Evaluation :=
  [shouldRun (emptySet "2"), decide (emptySet "3"), reconcile (emptySet "1"),
    shouldRun (emptySet "2")]

theorem writesBack_after_crossedRow :
    (∀ e ∈ crossedRow, e.changeSet.identity.IsTextual) ∧
      (driftedStore.snapshot true).GovernsAlike (compared (driftedStore.snapshot true) crossedRow) ∧
      WritesBack driftedStore true crossedRow
        (after crossedRow ({ snapshot := driftedStore.snapshot true }, driftedStore)).2 := by
  have textual : ∀ e ∈ crossedRow, e.changeSet.identity.IsTextual := by
    simp [crossedRow, changeSet, isTextual_emptySet]
  have bare : ∀ e ∈ crossedRow, e.changeSet.changes = [] := by
    simp [crossedRow, changeSet, emptySet]
  have alike : (driftedStore.snapshot true).GovernsAlike
      (compared (driftedStore.snapshot true) crossedRow) := by
    intro c hc d hd _ _ _
    have bare_of : ∀ c ∈ compared (driftedStore.snapshot true) crossedRow, c.changes = [] := by
      intro c hc
      obtain ⟨e, he, known⟩ := List.mem_filterMap.mp hc
      rw [← reconciled?_eq_some (Option.filter_eq_some_iff.mp known).1]
      exact bare e he
    rw [ChangeSet.checksum, ChangeSet.checksum, bare_of c hc, bare_of d hd]
  exact ⟨textual, alike, (writesBack_after driftedStore true crossedRow textual alike).1⟩

def doubledStore : MemoryStore where
  records := [emptyRecord "1" (.text (emptySet "1").checksum) 1, emptyRecord "1" .null 2]

def commentedSet : ChangeSet := { emptySet "1" with comments := .text "again" }

def lockedState : Selection × WatchedStore (RefusingStore MemoryStore) :=
  ({ snapshot := driftedStore.snapshot true },
    { store := { store := driftedStore, faults := [some "database is locked"] } })

/-- A second record of an identity is not written if the first one is current; and what was refused
for one changeset is not written again for it, if another one of the record came in between. -/
theorem doubledStore_not_written :
    ((doubledStore.snapshot false).find? (emptySet "1") =
        some (emptyRecord "1" (.text (emptySet "1").checksum) 1) ∧
      ∃ r ∈ (after [shouldRun (emptySet "1")]
          ({ snapshot := doubledStore.snapshot false }, doubledStore)).2.records,
        r.identity = (emptySet "1").identity ∧ r.checksum ≠ .text (emptySet "1").checksum) ∧
    (∃ failure, ((shouldRun (emptySet "1")).run lockedState).1 = .error failure) ∧
      ((shouldRun (emptySet "1")).run
        (after [shouldRun (emptySet "1"), shouldRun commentedSet] lockedState)).2.2 =
          (after [shouldRun (emptySet "1"), shouldRun commentedSet] lockedState).2 := by
  have found : (doubledStore.snapshot false).find? (emptySet "1") =
      some (emptyRecord "1" (.text (emptySet "1").checksum) 1) := rfl
  refine ⟨⟨found, ?_⟩, ⟨_, rfl⟩, ?_⟩
  · have idle : toWrite? { snapshot := doubledStore.snapshot false } (shouldRun (emptySet "1")) =
        none := by
      simp [toWrite?, compared?, reconciled?, Selection.toReconcile?, found,
        Snapshot.hasDrifted, emptyRecord, Option.filter]
    refine ⟨emptyRecord "1" .null 2, ?_, rfl, ?_⟩
    · rw [← List.nil_append [shouldRun (emptySet "1")], after_concat]
      rw [after, List.foldl_nil, run_idle idle]
      exact List.mem_cons_of_mem _ List.mem_cons_self
    · intro h
      cases h
  · have left : (after [shouldRun (emptySet "1"), shouldRun commentedSet] lockedState).1 =
        { snapshot := driftedStore.snapshot true
          reconciled := [((emptySet "1").identity, (emptySet "1").checksum)] } := rfl
    have governing : (driftedStore.snapshot true).find? (emptySet "1") =
      some (emptyRecord "1" .null 1) := rfl
    have own : (emptyRecord "1" .null 1).identity = (emptySet "1").identity := rfl
    have itself : (emptySet "1").identity.same (emptySet "1").identity = true :=
      (isTextual_emptySet "1").same_iff.mpr rfl
    have idle : toWrite? (after [shouldRun (emptySet "1"), shouldRun commentedSet] lockedState).1
        (shouldRun (emptySet "1")) = none := by
      rw [left]
      simp [toWrite?, Selection.toReconcile?, Selection.written?, compared?, reconciled?,
        governing, own, itself, Option.filter]
    exact congrArg Prod.snd (run_idle idle)

end Evaluation

end SchemaMigration
