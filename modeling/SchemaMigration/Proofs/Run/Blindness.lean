import SchemaMigration.Migration

namespace SchemaMigration

variable {σ α β : Type}

structure World.Alike (w v : World σ) : Prop where
  store : w.store = v.store
  transactions : w.transactions = v.transactions

namespace World.Alike

variable {w v u : World σ}

theorem symm (h : w.Alike v) : v.Alike w := ⟨h.store.symm, h.transactions.symm⟩

theorem trans (h : w.Alike v) (k : v.Alike u) : w.Alike u :=
  ⟨h.store.trans k.store, h.transactions.trans k.transactions⟩

theorem with_log (w : World σ) (log : List LogLine) : w.Alike { w with log := log } := ⟨rfl, rfl⟩

end World.Alike

namespace Action

def IsBlind (x : Action σ α) : Prop :=
  ∀ w v : World σ, w.Alike v → (x.run w).1 = (x.run v).1 ∧ (x.run w).2.Alike (x.run v).2

theorem isBlind_pure (a : α) : IsBlind (pure a : Action σ α) := fun _ _ alike => ⟨rfl, alike⟩

theorem isBlind_fail (e : Failure) : IsBlind (fail e : Action σ α) := fun _ _ alike => ⟨rfl, alike⟩

theorem isBlind_ofExcept (result : Except Failure α) : IsBlind (ofExcept result : Action σ α) :=
  fun _ _ alike => ⟨rfl, alike⟩

theorem isBlind_writeLog (lines : List LogLine) : IsBlind (writeLog lines : Action σ Unit) :=
  fun _ _ alike => ⟨rfl, alike.store, alike.transactions⟩

theorem isBlind_onStore (operation : σ → Except StoreError α × σ) :
    IsBlind (onStore operation) := by
  intro w v alike
  rw [run_onStore, run_onStore, alike.store]
  exact ⟨rfl, rfl, alike.transactions⟩

theorem isBlind_observe {f : World σ → α} (h : ∀ w v, w.Alike v → f w = f v) :
    IsBlind (observe f) :=
  fun w v alike => ⟨congrArg Except.ok (h w v alike), alike⟩

theorem isBlind_record [HistoryStore σ] (t : Transaction) : IsBlind (record t : Action σ Unit) := by
  intro w v alike
  rw [run_record, run_record, alike.store, alike.transactions]
  exact ⟨rfl, rfl, rfl⟩

theorem isBlind_bind {x : Action σ α} {f : α → Action σ β} (hx : IsBlind x)
    (hf : ∀ a, IsBlind (f a)) :
    IsBlind (x >>= f) := by
  intro w v alike
  obtain ⟨same, alike'⟩ := hx w v alike
  rw [run_bind, run_bind]
  generalize x.run w = ended at same alike' ⊢
  generalize x.run v = ended' at same alike' ⊢
  obtain ⟨result, w'⟩ := ended
  obtain ⟨result', v'⟩ := ended'
  cases same
  cases result with
  | error e => exact ⟨rfl, alike'⟩
  | ok a => exact hf a w' v' alike'

end Action

namespace Migration

open SchemaMigration.Action

variable [HistoryStore σ]

theorem isBlind_view (db : Database) : IsBlind (observe (World.view db) : Action σ _) := by
  apply isBlind_observe
  intro w v alike
  unfold World.view
  rw [alike.store, alike.transactions]

theorem isBlind_pass (m : Migration) (guard : Option Guard) :
    IsBlind (m.pass guard : Action σ Passage) := by
  cases guard with
  | none => exact isBlind_pure _
  | some g =>
    apply isBlind_bind (isBlind_view m.database)
    intro seen
    exact isBlind_bind (isBlind_writeLog _) fun _ => isBlind_ofExcept _

theorem isBlind_execute (m : Migration) (c : ChangeSet) (sql : List String) :
    IsBlind (m.execute c sql : Action σ Unit) := by
  apply isBlind_bind (isBlind_view m.database)
  rintro ⟨database, log⟩
  dsimp only
  cases database.engine with
  | none => exact isBlind_fail _
  | some engine =>
    apply isBlind_bind (isBlind_record _)
    intro _
    cases (engine.transact log sql).2 with
    | none => exact isBlind_pure _
    | some failed => exact isBlind_bind (isBlind_writeLog _) fun _ => isBlind_fail _

theorem isBlind_applyOne (m : Migration) (path : Value) (c : ChangeSet) :
    IsBlind (m.applyOne false path c : Action σ Step) := by
  apply isBlind_bind (isBlind_pass m c.guard)
  intro passage
  cases passage with
  | skip => exact isBlind_pure _
  | markRan => exact isBlind_bind (isBlind_onStore _) fun _ => isBlind_pure _
  | proceed =>
    apply isBlind_bind (isBlind_ofExcept _)
    intro sql
    apply isBlind_bind (isBlind_execute m c sql)
    intro _
    apply isBlind_bind (isBlind_onStore _)
    intro _
    apply isBlind_bind (isBlind_ofExcept _)
    intro texts
    exact isBlind_bind (isBlind_writeLog _) fun _ => isBlind_pure _

theorem isBlind_updateOne (m : Migration) (s : Selection) (c : ChangeSet) :
    IsBlind (m.updateOne false s c : Action σ (Step × Selection)) := by
  have reconciles : IsBlind (reconcile s c : Action σ Selection) :=
    isBlind_bind (isBlind_onStore _) fun _ => isBlind_pure _
  apply isBlind_bind reconciles
  intro s'
  dsimp only
  by_cases obstructed : s'.snapshot.isObstructed c
  · rw [if_pos obstructed]
    exact isBlind_fail _
  · rw [if_neg obstructed]
    cases s'.snapshot.mustRun c with
    | false => exact isBlind_pure _
    | true => exact isBlind_bind (isBlind_applyOne m _ c) fun _ => isBlind_pure _

end Migration

end SchemaMigration
