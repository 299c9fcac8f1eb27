import SchemaMigration.Migration

namespace SchemaMigration

theorem exists_of_bind_eq_ok {ε α β : Type} {x : Except ε α} {f : α → Except ε β} {b : β}
    (h : x >>= f = .ok b) : ∃ a, x = .ok a ∧ f a = .ok b := by
  cases x with
  | error e => cases h
  | ok a => exact ⟨a, rfl, h⟩

theorem bind_eq_ok_iff {ε α β : Type} {x : Except ε α} {f : α → Except ε β} {b : β} :
    (x >>= f) = .ok b ↔ ∃ a, x = .ok a ∧ f a = .ok b := by
  refine ⟨exists_of_bind_eq_ok, ?_⟩
  rintro ⟨a, rfl, done⟩
  exact done

theorem pure_eq_ok_iff {ε α : Type} {a b : α} : (pure a : Except ε α) = .ok b ↔ b = a :=
  ⟨fun done => (Except.ok.inj done).symm, fun same => congrArg Except.ok same.symm⟩

theorem exists_eq_ok_of_isSome {ε α : Type} {x : Except ε α}
    (some_result : x.toOption.isSome = true) :
    ∃ a, x = .ok a := by
  cases x with
  | error e => cases some_result
  | ok a => exact ⟨a, rfl⟩

namespace Change

theorem part_eq_ok {α : Type} {result : Except Misfit α} {a : α} (h : part result = .ok a) :
    result = .ok a := by
  cases result with
  | error f => cases h
  | ok b =>
    cases h
    rfl

theorem columns_of_validateColumns {change : String} {items : List ColumnItem}
    (valid : validateColumns change items = .ok ()) :
    ∃ columns, items.mapM ColumnItem.column? = .ok columns := by
  induction items with
  | nil => exact ⟨[], rfl⟩
  | cons item rest ih =>
    obtain ⟨column, first, valid⟩ := exists_of_bind_eq_ok valid
    obtain ⟨-, -, valid_rest⟩ := exists_of_bind_eq_ok valid
    obtain ⟨columns, others⟩ := ih valid_rest
    refine ⟨column :: columns, ?_⟩
    rw [List.mapM_cons, part_eq_ok first, others]
    rfl

theorem columns_of_requireColumns {change : String} {columns : Columns}
    (valid : requireColumns change columns = .ok ()) : ∃ all, columns.all = .ok all := by
  unfold requireColumns at valid
  split at valid
  next => cases valid
  next =>
    obtain ⟨items, declared, valid_items⟩ := exists_of_bind_eq_ok valid
    unfold Columns.all
    rw [part_eq_ok declared]
    exact columns_of_validateColumns valid_items

theorem confirmation_of_validate {db : Database} {change : Change}
    (valid : change.validate db = .ok ()) :
    ∃ text, change.confirmation = .ok text := by
  cases change with
  | addColumn c =>
    obtain ⟨-, -, valid_columns⟩ := exists_of_bind_eq_ok valid
    obtain ⟨columns, all⟩ := columns_of_requireColumns valid_columns
    simp only [confirmation, all]
    exact ⟨_, rfl⟩
  | createTable c => exact ⟨_, rfl⟩
  | dropTable c => exact ⟨_, rfl⟩
  | renameTable c => exact ⟨_, rfl⟩
  | dropColumn c => exact ⟨_, rfl⟩
  | renameColumn c => exact ⟨_, rfl⟩
  | createIndex c => exact ⟨_, rfl⟩
  | dropIndex c => exact ⟨_, rfl⟩
  | sql text => exact ⟨_, rfl⟩

theorem confirmations_of_allStatements {db : Database} {registry : Registry} {changes : List Change}
    {statements : List Statement} (compiled : allStatements db registry changes = .ok statements) :
    ∃ texts, confirmations changes = .ok texts := by
  induction changes generalizing statements with
  | nil => exact ⟨[], rfl⟩
  | cons change rest ih =>
    obtain ⟨s, first, compiled⟩ := exists_of_bind_eq_ok compiled
    obtain ⟨more, compiled_rest, -⟩ := exists_of_bind_eq_ok compiled
    obtain ⟨_, valid, -⟩ := exists_of_bind_eq_ok first
    obtain ⟨text, confirmed⟩ := confirmation_of_validate valid
    obtain ⟨texts, confirmed_rest⟩ := ih compiled_rest
    unfold confirmations
    rw [confirmed, confirmed_rest]
    exact ⟨_, rfl⟩

end Change

theorem Migration.confirmations_of_render {m : Migration} {c : ChangeSet} {sql : List String}
    (rendered : m.render c.changes = .ok sql) : ∃ texts, c.confirmations = .ok texts := by
  unfold render at rendered
  split at rendered
  next => cases rendered
  next compiled => exact Change.confirmations_of_allStatements compiled

end SchemaMigration
