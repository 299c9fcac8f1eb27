import SchemaMigration.Migration

namespace SchemaMigration

inductive StoreCall
  | updateChecksum (i : Identity) (checksum : Value)
  | markRan (now : Timestamp) (c : ChangeSet) (path : Value)
  | remove (c : ChangeSet) (path : Value)

def StoreCall.marked? : StoreCall → Option ChangeSet
  | markRan _ c _ => some c
  | _ => none

structure JournalStore (σ : Type) where
  store : σ
  calls : List StoreCall := []

variable {σ : Type}

namespace JournalStore

def enter (j : JournalStore σ) (call : StoreCall) (write : σ → Except StoreError Unit × σ) :
    Except StoreError Unit × JournalStore σ :=
  ((write j.store).1, ⟨(write j.store).2, j.calls ++ [call]⟩)

instance [HistoryStore σ] : HistoryStore (JournalStore σ) where
  load j := ((HistoryStore.load j.store).1, { j with store := (HistoryStore.load j.store).2 })
  updateChecksum j i checksum :=
    j.enter (.updateChecksum i checksum) fun s => HistoryStore.updateChecksum s i checksum
  markRan j now c path := j.enter (.markRan now c path) fun s => HistoryStore.markRan s now c path
  remove j c path := j.enter (.remove c path) fun s => HistoryStore.remove s c path
  follow j t := { j with store := HistoryStore.follow j.store t }
  view j engine log := HistoryStore.view j.store engine log

end JournalStore

/-- A world whose store keeps a journal from now on, behind the calls of before. -/
def World.journaled (w : World σ) (calls : List StoreCall) : World (JournalStore σ) where
  store := ⟨w.store, calls⟩
  transactions := w.transactions
  log := w.log

@[simp] theorem World.view_journaled [HistoryStore σ] (db : Database) (w : World σ)
    (calls : List StoreCall) :
    (w.journaled calls).view db = w.view db := by
  unfold World.view
  cases db.engine with
  | none => rfl
  | some engine => rfl

namespace Action

variable {α β : Type}

/-- An action and its counterpart on a store with a journal. They do the same, and the journal grows
by calls that belong to the result. -/
def Journals (told : α → List StoreCall → Prop) (x : Action σ α)
    (y : Action (JournalStore σ) α) : Prop :=
  ∀ w calls, ∃ made, y.run (w.journaled calls) =
    ((x.run w).1, (x.run w).2.journaled (calls ++ made)) ∧
    ∀ a, (x.run w).1 = .ok a → told a made

def IsCallFree (x : Action σ α) (y : Action (JournalStore σ) α) : Prop :=
  Journals (fun _ made => made = []) x y

variable {told own : α → List StoreCall → Prop} {x : Action σ α} {y : Action (JournalStore σ) α}

theorem Journals.mono (h : Journals own x y) (le : ∀ a made, own a made → told a made) :
    Journals told x y := by
  intro w calls
  obtain ⟨made, same, belongs⟩ := h w calls
  exact ⟨made, same, fun a returned => le a made (belongs a returned)⟩

theorem Journals.bind {f : α → Action σ β} {g : α → Action (JournalStore σ) β}
    {told : β → List StoreCall → Prop} (hx : Journals own x y)
    (hf : ∀ a made, own a made → Journals (fun b more => told b (made ++ more)) (f a) (g a)) :
    Journals told (x >>= f) (y >>= g) := by
  intro w calls
  obtain ⟨made, same, belongs⟩ := hx w calls
  rw [run_bind, run_bind, same]
  rcases ended : x.run w with ⟨e | a, w'⟩
  · exact ⟨made, rfl, nofun⟩
  · rw [ended] at belongs
    obtain ⟨more, same_rest, belongs_rest⟩ := hf a made (belongs a rfl) w' (calls ++ made)
    rw [List.append_assoc] at same_rest
    exact ⟨made ++ more, same_rest, belongs_rest⟩

theorem IsCallFree.bind {f : α → Action σ β} {g : α → Action (JournalStore σ) β}
    {told : β → List StoreCall → Prop} (hx : IsCallFree x y) (hf : ∀ a, Journals told (f a) (g a)) :
    Journals told (x >>= f) (y >>= g) := by
  refine Journals.bind hx ?_
  rintro a _ rfl
  exact hf a

theorem journals_of_same
    (same : ∀ w calls, y.run (w.journaled calls) = ((x.run w).1, (x.run w).2.journaled calls))
    (belongs : ∀ w a, (x.run w).1 = .ok a → told a []) : Journals told x y :=
  fun w calls => ⟨[], by rw [List.append_nil, same], belongs w⟩

theorem journals_pure {a : α} (h : told a []) : Journals told (pure a : Action σ α) (pure a) :=
  journals_of_same (fun _ _ => rfl) fun _ _ returned => Except.ok.inj returned ▸ h

theorem Journals.map {f : α → β} {told : β → List StoreCall → Prop} (hx : Journals own x y)
    (belongs : ∀ a made, own a made → told (f a) made) :
    Journals told (x >>= fun a => pure (f a)) (y >>= fun a => pure (f a)) :=
  hx.bind fun a made ended => journals_pure (by rw [List.append_nil]; exact belongs a made ended)

theorem journals_fail (e : Failure) : Journals told (fail e : Action σ α) (fail e) :=
  journals_of_same (fun _ _ => rfl) nofun

theorem journals_ofExcept (result : Except Failure α) :
    Journals (fun a made => result = .ok a ∧ made = []) (ofExcept result : Action σ α)
      (ofExcept result) :=
  journals_of_same (fun _ _ => rfl) fun _ _ returned => ⟨returned, rfl⟩

theorem isCallFree_writeLog (lines : List LogLine) :
    IsCallFree (writeLog lines : Action σ Unit) (writeLog lines) :=
  journals_of_same (fun _ _ => rfl) fun _ _ _ => rfl

theorem journals_onStore {operation : σ → Except StoreError α × σ}
    {journaled : JournalStore σ → Except StoreError α × JournalStore σ}
    (same : ∀ store calls, ∃ made,
      journaled ⟨store, calls⟩ = ((operation store).1, ⟨(operation store).2, calls ++ made⟩) ∧
        ∀ a, (operation store).1 = .ok a → told a made) :
    Journals told (onStore operation) (onStore journaled) := by
  intro w calls
  obtain ⟨made, ran, belongs⟩ := same w.store calls
  refine ⟨made, ?_, fun a returned => belongs a ?_⟩
  · rw [run_onStore, run_onStore, World.journaled, ran]
    rfl
  · rw [run_onStore] at returned
    cases result : (operation w.store).1 with
    | error e =>
      rw [result] at returned
      cases returned
    | ok b =>
      rw [result] at returned
      cases returned
      rfl

section Store

variable [HistoryStore σ]

theorem isCallFree_view (db : Database) :
    IsCallFree (observe (World.view db) : Action σ _) (observe (World.view db)) :=
  journals_of_same (fun w calls => by rw [run_observe, run_observe, World.view_journaled])
    fun _ _ _ => rfl

theorem isCallFree_record (t : Transaction) : IsCallFree (record t : Action σ Unit) (record t) :=
  journals_of_same (fun _ _ => rfl) fun _ _ _ => rfl

end Store

end Action

theorem Selection.reconcile_journaled [HistoryStore σ] (s : Selection) (store : σ)
    (calls : List StoreCall)
    (c : ChangeSet) :
    ∃ made, s.reconcile (⟨store, calls⟩ : JournalStore σ) c =
        ((s.reconcile store c).1, ⟨(s.reconcile store c).2, calls ++ made⟩) ∧
      made.filterMap StoreCall.marked? = [] := by
  unfold Selection.reconcile
  cases s.snapshot.isObstructed c with
  | true => exact ⟨[], by simp, rfl⟩
  | false =>
    cases s.toReconcile? c with
    | none => exact ⟨[], by simp, rfl⟩
    | some i =>
      simp only [Bool.false_eq_true, if_false]
      cases i.isKey with
      | false => exact ⟨[], by simp, rfl⟩
      | true =>
        have entered : HistoryStore.updateChecksum (⟨store, calls⟩ : JournalStore σ) i
          (.text c.checksum) =
            ((HistoryStore.updateChecksum store i (.text c.checksum)).1,
              ⟨(HistoryStore.updateChecksum store i (.text c.checksum)).2,
                calls ++ [.updateChecksum i (.text c.checksum)]⟩) := rfl
        refine ⟨[.updateChecksum i (.text c.checksum)], ?_, rfl⟩
        rw [entered]
        rcases HistoryStore.updateChecksum store i (.text c.checksum) with ⟨e | _, store'⟩
        · rfl
        · rfl

namespace Migration

open SchemaMigration.Action

variable [HistoryStore σ]

theorem isCallFree_pass (m : Migration) (guard : Option Guard) :
    IsCallFree (m.pass guard : Action σ Passage) (m.pass guard) := by
  cases guard with
  | none => exact journals_pure rfl
  | some g =>
    refine (isCallFree_view m.database).bind fun seen => ?_
    refine (isCallFree_writeLog _).bind fun _ => ?_
    exact (journals_ofExcept _).mono fun _ _ belongs => belongs.2

theorem isCallFree_execute (m : Migration) (c : ChangeSet) (sql : List String) :
    IsCallFree (m.execute c sql : Action σ Unit) (m.execute c sql) := by
  refine (isCallFree_view m.database).bind fun seen => ?_
  obtain ⟨database, log⟩ := seen
  dsimp only
  cases database.engine with
  | none => exact journals_fail _
  | some engine =>
    dsimp only
    rcases engine.transact log sql with ⟨t, _ | ⟨statement, fault⟩⟩
    · exact (isCallFree_record t).bind fun _ => journals_pure rfl
    · refine (isCallFree_record t).bind fun _ => ?_
      exact (isCallFree_writeLog _).bind fun _ => journals_fail _

theorem journals_markRan (m : Migration) (c : ChangeSet) (path : Value) :
    Journals (fun _ made => made = [.markRan m.now c path]) (m.markRan c path : Action σ Unit)
      (m.markRan c path) :=
  journals_onStore fun _ _ => ⟨[.markRan m.now c path], rfl, fun _ _ => rfl⟩

theorem isCallFree_select (m : Migration) : IsCallFree (m.select : Action σ Selection) m.select :=
  journals_of_same (fun _ _ => rfl) fun _ _ _ => rfl

theorem journals_reconcile (s : Selection) (c : ChangeSet) :
    Journals (fun _ made => made.filterMap StoreCall.marked? = [])
      (reconcile s c : Action σ Selection)
      (reconcile s c) := by
  have written : Journals (fun _ made => made.filterMap StoreCall.marked? = [])
      (onStore fun store : σ => s.reconcile store c) (onStore fun store => s.reconcile store c) :=
    journals_onStore fun store calls => by
      obtain ⟨made, same, unmarked⟩ := s.reconcile_journaled store calls c
      exact ⟨made, same, fun _ _ => unmarked⟩
  exact written.map fun _ _ unmarked => unmarked

end Migration

end SchemaMigration
