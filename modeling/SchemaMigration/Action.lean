import SchemaMigration.Change.Error
import SchemaMigration.History.Store
import SchemaMigration.Precondition.Evaluation

namespace SchemaMigration

inductive Failure
  | change (e : ChangeError)
  | store (e : StoreError)
  | guard (result : CheckResult)
  | migration (key detail : String) (statement : Option String)
  | noEngine (key : String)
  | engine (fault : EngineFault)
  | negativeCount (count : Int)

def Failure.message : Failure → String
  | .change e => e.message
  | .store e => e.message
  | .guard result => result.message
  | .migration key detail statement =>
    let sql := statement.getD ""
    "Migration failed for changeset " ++ key ++ ": " ++ detail ++
      if sql == "" then "" else "\n  SQL: " ++ sql
  | .noEngine key => "Cannot execute " ++ key ++ ": database has no engine"
  | .engine fault => fault.message
  | .negativeCount count => "count must be non-negative, got " ++ toString count

structure World (σ : Type) where
  store : σ
  transactions : List Transaction := []
  log : List LogLine := []

def World.view {σ : Type} [HistoryStore σ] (db : Database) (w : World σ) :
    Database × List Transaction :=
  match db.engine with
  | none => (db, w.transactions)
  | some engine =>
    let (engine, log) := HistoryStore.view w.store engine w.transactions
    ({ db with engine := some engine }, log)

@[simp] theorem World.view_memory (db : Database) (w : World MemoryStore) :
    w.view db = (db, w.transactions) := by
  cases db with
  | mk name style schema engine => cases engine <;> rfl

def Action (σ α : Type) : Type := World σ → Except Failure α × World σ

namespace Action

variable {σ α β : Type}

def run (x : Action σ α) (w : World σ) : Except Failure α × World σ := x w

instance : Monad (Action σ) where
  pure a := fun w => (.ok a, w)
  bind x f := fun w =>
    match x w with
    | (.ok a, w) => f a w
    | (.error e, w) => (.error e, w)

@[simp] theorem run_pure (a : α) (w : World σ) : (pure a : Action σ α).run w = (.ok a, w) := rfl

theorem run_bind (x : Action σ α) (f : α → Action σ β) (w : World σ) :
    (x >>= f).run w =
      match x.run w with
      | (.ok a, w) => (f a).run w
      | (.error e, w) => (.error e, w) := rfl

instance : LawfulMonad (Action σ) :=
  LawfulMonad.mk' (Action σ)
    (by
      intro α x
      funext w
      show (match x w with | (.ok a, w) => (Except.ok a, w) | (.error e, w) => (.error e, w)) = x w
      rcases x w with ⟨r | r, w⟩ <;> rfl)
    (fun _ _ => rfl)
    (by
      intro α β γ x f g
      funext w
      show (match (match x w with | (.ok a, w) => f a w | (.error e, w) => (.error e, w)) with
        | (.ok b, w) => g b w
        | (.error e, w) => (.error e, w)) =
        (match x w with
        | (.ok a, w) => (match f a w with | (.ok b, w) => g b w | (.error e, w) => (.error e, w))
        | (.error e, w) => (.error e, w))
      rcases x w with ⟨r | r, w⟩ <;> rfl)

def fail (e : Failure) : Action σ α := fun w => (.error e, w)

def ofExcept (result : Except Failure α) : Action σ α := fun w => (result, w)

def observe (f : World σ → α) : Action σ α := fun w => (.ok (f w), w)

def onStore (operation : σ → Except StoreError α × σ) : Action σ α := fun w =>
  let (result, store) := operation w.store
  (result.mapError Failure.store, { w with store := store })

def writeLog (lines : List LogLine) : Action σ Unit := fun w =>
  (.ok (), { w with log := w.log ++ lines })

def info (text : String) : Action σ Unit := writeLog [⟨.info, text⟩]

def record [HistoryStore σ] (t : Transaction) : Action σ Unit := fun w =>
  (.ok (), { w with
    store := HistoryStore.follow w.store t
    transactions := w.transactions ++ [t] })

@[simp] theorem run_fail (e : Failure) (w : World σ) :
    (fail e : Action σ α).run w = (.error e, w) := rfl

@[simp] theorem run_ofExcept (result : Except Failure α) (w : World σ) :
    (ofExcept result).run w = (result, w) := rfl

@[simp] theorem run_observe (f : World σ → α) (w : World σ) :
    (observe f).run w = (.ok (f w), w) := rfl

@[simp] theorem run_onStore (operation : σ → Except StoreError α × σ) (w : World σ) :
    (onStore operation).run w =
      ((operation w.store).1.mapError Failure.store, { w with store := (operation w.store).2 }) :=
  rfl

@[simp] theorem run_writeLog (lines : List LogLine) (w : World σ) :
    (writeLog lines).run w = (.ok (), { w with log := w.log ++ lines }) := rfl

@[simp] theorem run_record [HistoryStore σ] (t : Transaction) (w : World σ) :
    (record t).run w = (.ok (), { w with
      store := HistoryStore.follow w.store t
      transactions := w.transactions ++ [t] }) := rfl

end Action

end SchemaMigration
