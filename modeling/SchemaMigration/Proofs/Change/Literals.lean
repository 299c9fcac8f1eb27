import SchemaMigration.Proofs.Change.GivenNames
import SchemaMigration.Proofs.Text.Lead

/-! Literals of texts. The default of a column is stored as a literal, and a remark is written as
one. By the rules of the standard such a literal is one token of SQL for the very text, whatever the
text contains; where a backslash takes the next character along, it is so exactly for the texts
whose backslashes all stand before characters that leave them in place. -/

namespace SchemaMigration

namespace Text.Quotation

/-- Texts in SQL by the standard, where the quote is doubled and nothing else has a meaning of its
own. -/
def standard : Quotation where
  opening := '\''
  closing := '\''

/-- Texts in SQL where a backslash takes the next character along. -/
def backslashed (meaning : Char → List Char) : Quotation where
  opening := '\''
  closing := '\''
  lead? := some '\\'
  meaning

end Text.Quotation

open Change (warehouse)
open Text.Quotation (standard backslashed)

theorem toList_textLiteral (s : String) :
    (Database.textLiteral s).toList = standard.write s.toList := by
  have image_eq : (fun c => if c == '\'' then ['\'', '\''] else [c]) = standard.image := by
    funext c
    by_cases quote : c = '\'' <;> simp [Text.Quotation.image, standard, quote]
  rw [Database.textLiteral, String.toList_ofList, Text.replaceChar, image_eq]
  rfl

/-- Whether a text is a literal by the standard for another: one token, which ends where the literal
ends, whatever follows but one more quote. -/
def IsLiteral (literal s : String) : Prop := standard.Reads literal.toList s.toList

theorem isLiteral_textLiteral (s : String) : IsLiteral (Database.textLiteral s) s := by
  rw [IsLiteral, toList_textLiteral]
  exact Text.Quotation.reads_write nofun

theorem trimmed?_textLiteral (s : String) :
    Text.trimmed? (Database.textLiteral s) = some (Database.textLiteral s) := by
  have starts : ∀ c ∈ (standard.write s.toList).head?, Text.isBlank c = false := by
    simp [Text.Quotation.write, standard, Text.isBlank]
  have ends : ∀ c ∈ (standard.write s.toList).getLast?, Text.isBlank c = false := by
    simp [Text.Quotation.write, standard, Text.isBlank, List.getLast?_cons]
  have unchanged : Text.trim (Database.textLiteral s) = Database.textLiteral s := by
    rw [Text.trim, toList_textLiteral, Text.trimChars_eq_self starts ends, ← toList_textLiteral,
      String.ofList_toList]
  have not_empty : (Database.textLiteral s).isEmpty = false := by
    simp [Database.textLiteral]
  rw [Text.trimmed?, unchanged, not_empty]
  rfl

theorem textLiteral_append_inj {s t rest rest' : String} (ends : rest.toList.head? ≠ some '\'')
    (ends' : rest'.toList.head? ≠ some '\'')
    (same : Database.textLiteral s ++ rest = Database.textLiteral t ++ rest') :
    s = t ∧ rest = rest' := by
  have same_chars := congrArg String.toList same
  rw [String.toList_append, String.toList_append] at same_chars
  obtain ⟨same_text, same_rest⟩ :=
    (isLiteral_textLiteral s).append_inj (isLiteral_textLiteral t) ends ends' same_chars
  exact ⟨String.toList_inj.mp same_text, String.toList_inj.mp same_rest⟩

def Column.HasTextDefault (c : Column) (v : String) : Prop :=
  c.default? = .text v ∧ c.computedDefault = .null

theorem Column.HasTextDefault.defaultText_eq {c : Column} {v : String}
    (declared : c.HasTextDefault v) (db : Database) :
    c.defaultText db = .ok (some (Database.textLiteral v)) := by
  obtain ⟨value, no_expression⟩ := declared
  rw [Column.defaultText, no_expression, value]
  exact congrArg Except.ok (trimmed?_textLiteral v)

theorem Column.HasTextDefault.sqlDefault_eq {c : Column} {v : String}
    (declared : c.HasTextDefault v) (db : Database) :
    c.sqlDefault db = some (Database.textLiteral v) := by
  rw [Column.sqlDefault, declared.defaultText_eq]
  rfl

section Names

variable {m n : Name} (textual : n.IsTextOrNull)
include textual

theorem same_iff_of_isTextOrNull : m.same n = true ↔ m = n := by
  rcases textual with rfl | ⟨s, rfl⟩
  · cases m <;> simp [Value.same, Value.orderOfNumbers?, Value.number?]
  · cases m <;> simp [Value.same, Value.orderOfNumbers?, Value.number?]

theorem isTextOrNull_same_iff : n.same m = true ↔ n = m := by
  rcases textual with rfl | ⟨s, rfl⟩
  · cases m <;> simp [Value.same, Value.orderOfNumbers?, Value.number?]
  · cases m <;> simp [Value.same, Value.orderOfNumbers?, Value.number?]

end Names

namespace TableDefinition

variable {m n k : Name}

theorem at?_cons (textual : n.IsTextOrNull) (w : Value) (pairs : List (Name × Value)) :
    at? n ((k, w) :: pairs) = if k = n then some w else at? n pairs := by
  by_cases same : k = n
  · simp [at?, same, (same_iff_of_isTextOrNull textual).mpr]
  · simp [at?, same, same_iff_of_isTextOrNull textual]

theorem at?_putAt (textual : n.IsTextOrNull) (v : Value) (pairs : List (Name × Value)) :
    at? n (putAt m v pairs) = if m = n then some v else at? n pairs := by
  induction pairs with
  | nil => exact at?_cons textual v []
  | cons p rest ih =>
    obtain ⟨k, w⟩ := p
    rw [putAt]
    split
    next replaced =>
      have same : k = n ↔ m = n := by
        constructor
        · rintro rfl
          exact ((isTextOrNull_same_iff textual).mp replaced).symm
        · rintro rfl
          exact (same_iff_of_isTextOrNull textual).mp replaced
      rw [at?_cons textual, at?_cons textual]
      by_cases m_eq : m = n <;> simp [same, m_eq]
    next kept =>
      have apart : ¬ (k = n ∧ m = n) := by
        rintro ⟨rfl, rfl⟩
        exact kept ((same_iff_of_isTextOrNull textual).mpr rfl)
      rw [at?_cons textual, at?_cons textual, ih]
      by_cases k_eq : k = n
      · rw [if_pos k_eq, if_pos k_eq, if_neg fun m_eq => apart ⟨k_eq, m_eq⟩]
      · rw [if_neg k_eq, if_neg k_eq]

end TableDefinition

namespace Change

variable {db : Database} {registry : Registry} {columns : List Column} {c : Column} {n : Name}

theorem defaults_of_defineColumn {t t' : TableDefinition} (defined : defineColumn db t c = .ok t') :
    t'.defaults = match c.sqlDefault db with
      | none => t.defaults
      | some d => TableDefinition.putAt c.name (.text d) t.defaults := by
  obtain ⟨type, default?, constraints, -, written, -, rfl⟩ := exists_of_defineColumn defined
  rw [TableDefinition.foldl_addConstraint, sqlDefault_of_defaultText written]
  cases default? <;> cases c.isKey <;> rfl

theorem defaultAt_of_defineColumn {t t' : TableDefinition} (textual : n.IsTextOrNull)
    (defined : defineColumn db t c = .ok t') : TableDefinition.at? n t'.defaults =
      if c.name = n then ((c.sqlDefault db).map Value.text).or (TableDefinition.at? n t.defaults)
      else TableDefinition.at? n t.defaults := by
  rw [defaults_of_defineColumn defined]
  cases c.sqlDefault db with
  | none => simp
  | some d => simp [TableDefinition.at?_putAt textual]

theorem defaultAt_of_foldlM {before after : List Column} {t t' : TableDefinition} {d : String}
    (textual : c.name.IsTextOrNull) (written : c.sqlDefault db = some d)
    (last : ∀ c' ∈ after, c'.name = c.name → c'.sqlDefault db = none)
    (defined : (before ++ c :: after).foldlM (defineColumn db) t = .ok t') :
    TableDefinition.at? c.name t'.defaults = some (.text d) := by
  rw [List.foldlM_append] at defined
  obtain ⟨t₁, -, defined⟩ := exists_of_bind_eq_ok defined
  obtain ⟨t₂, defined_c, defined_after⟩ := exists_of_bind_eq_ok defined
  refine foldlM_defineColumn_induction (P := fun u => TableDefinition.at? c.name u.defaults =
    some (.text d)) ?_ ?_
    defined_after
  · rw [defaultAt_of_defineColumn textual defined_c, if_pos rfl, written]
    rfl
  · intro c' hc' u u' stored defined_c'
    rw [defaultAt_of_defineColumn textual defined_c', stored]
    split
    next same => rw [last c' hc' same]; rfl
    next => rfl

end Change

namespace Rendering

variable {db : Database} {schema table column : Name} {s : String} {sql : List String}

theorem commentOnTable_eq_ok_iff : commentOnTable schema table (.text s) db = .ok sql ↔
    ∃ place, db.qualifyName schema table = .ok place ∧
      sql = ["COMMENT ON TABLE " ++ place ++ " IS " ++ Database.textLiteral s] := by
  have written : literal (.text s) = .ok (Database.textLiteral s) := rfl
  simp only [commentOnTable, bind_eq_ok_iff, qualified, part_eq_ok_iff, written, pure_eq_ok_iff,
    Except.ok.injEq, exists_eq_left']

theorem commentOnColumn_eq_ok_iff : commentOnColumn schema table column (.text s) db = .ok sql ↔
    ∃ place, db.qualifyName schema table = .ok place ∧ (∃ t, column = .text t) ∧
      sql = ["COMMENT ON COLUMN " ++ place ++ "." ++ db.quote column.display ++ " IS " ++
        Database.textLiteral s] := by
  have written : literal (.text s) = .ok (Database.textLiteral s) := rfl
  simp only [commentOnColumn, bind_eq_ok_iff, qualified, part_eq_ok_iff, quoted_eq_ok_iff, written,
    pure_eq_ok_iff, Except.ok.injEq, exists_eq_left', and_assoc, exists_and_left, exists_eq_left]

theorem alterTableComment_eq_ok_iff : alterTableComment schema table (.text s) db = .ok sql ↔
    ∃ place, db.qualifyName schema table = .ok place ∧
      sql = ["ALTER TABLE " ++ place ++ " COMMENT = " ++ Database.textLiteral s] := by
  have written : literal (.text s) = .ok (Database.textLiteral s) := rfl
  simp only [alterTableComment, bind_eq_ok_iff, qualified, part_eq_ok_iff, written, pure_eq_ok_iff,
    Except.ok.injEq, exists_eq_left']

end Rendering

theorem Database.name_of_dialect? {db : Database} {d : Dialect} (found : db.dialect? = some d) :
    db.name = d.name := by
  have first : Dialect.all.find? (fun e => e.name == db.name) = some d := found
  have same := List.find?_some first
  exact (beq_iff_eq.mp same).symm

namespace Registry

variable {db : Database} {st : Statement}

theorem generate_of_find? {r : Registry} {g : Generator} (own : r.find? st.kind db.name = some g) :
    r.generate db st = g db st := by
  rw [generate, get?, own]

theorem generate_bundled_of_isRemark
    (comments : db.dialect? = some .postgresql ∨ db.dialect? = some .oracle)
    (remark : st.isRemark = true) : bundled.generate db st = render db st := by
  refine generate_of_find? ?_
  have name : db.name = "postgresql" ∨ db.name = "oracle" :=
    comments.imp Database.name_of_dialect? Database.name_of_dialect?
  cases st with
  | tableRemarks => rcases name with h | h <;> rw [h] <;> rfl
  | columnRemarks => rcases name with h | h <;> rw [h] <;> rfl
  | _ => cases remark

theorem generate_bundled_of_mysql (alters : db.dialect? = some .mysql ∨ db.dialect? = some .mariadb)
    (schema table : Name) (remarks : Value) : bundled.generate db
    (.tableRemarks schema table remarks) =
      Rendering.alterTableComment schema table remarks db := by
  have name : db.name = "mysql" ∨ db.name = "mariadb" :=
    alters.imp Database.name_of_dialect? Database.name_of_dialect?
  refine generate_of_find? (g := renderAsAlteration) ?_
  rcases name with h | h <;> rw [h] <;> rfl

end Registry

namespace Change

variable {db : Database} {registry : Registry} {v s : String}

theorem mem_statements_of_declared {change : Change} {statements : List Statement} {st : Statement}
    (compiled : change.statements db registry = .ok statements)
    (declared : st ∈ change.declaredRemarks db)
    (supported : registry.supports db st = true) : st ∈ statements := by
  obtain ⟨main, -, compiled_by⟩ := statements_eq_append_filter compiled
  obtain rfl := Except.ok.inj (compiled.symm.trans (compiled_by registry))
  exact List.mem_append_right main (List.mem_filter.mpr ⟨declared, supported⟩)

theorem mem_remarksOnColumns {schema table : Name} {columns : List Column} {c : Column}
    (hc : c ∈ columns)
    (declared : c.remarks = .text v) (trimmed : Text.trimmed? v = some s) :
    .columnRemarks schema table c.name (.text s) ∈ remarksOnColumns schema table columns := by
  refine List.mem_filterMap.mpr ⟨c, hc, ?_⟩
  rw [declared, Value.remark?, trimmed]
  rfl

end Change

/-- Whether the default of a column that declares a text is kept as a literal in the statements that
changes are compiled to. Of the columns of a new table that have one name, the last one with a
default decides. -/
structure StoresDefault (db : Database) (registry : Registry) (v literal : String) : Prop where
  compiled : ∀ c : Column, c.HasTextDefault v → c.defaultText db = .ok (some literal)
  newTable : ∀ (create : CreateTable) (before after : List Column) (c : Column)
    (statements : List Statement),
    create.columns.all = .ok (before ++ c :: after) → c.HasTextDefault v → c.name.IsTextOrNull →
    (∀ c' ∈ after, c'.name = c.name → c'.sqlDefault db = none) →
    (Change.createTable create).statements db registry = .ok statements →
    ∃ t remarks, statements = .createTable t :: remarks ∧
      TableDefinition.at? c.name t.defaults = some (.text literal)
  addition : ∀ (add : AddColumn) (columns : List Column) (j : Nat) (c : Column)
    (statements : List Statement),
    add.columns.all = .ok columns → columns[j]? = some c → c.HasTextDefault v →
    (Change.addColumn add).statements db registry = .ok statements →
    ∃ a, statements[j]? = some (.addColumn a) ∧ a.default? = .text literal

/-- Whether a change declares a text as the remark on something, and a statement sets another one
there. -/
inductive SetsRemark (db : Database) (v s : String) : Change → Statement → Prop
  | onTable {create : CreateTable} (declared : create.remarks = .text v) :
    SetsRemark db v s (.createTable create)
      (.tableRemarks ((Change.createTable create).resolvedSchema db) create.table (.text s))
  | onNewColumn {create : CreateTable} {columns : List Column} {c : Column}
    (all : create.columns.all = .ok columns)
    (hc : c ∈ columns) (declared : c.remarks = .text v) :
    SetsRemark db v s (.createTable create)
      (.columnRemarks ((Change.createTable create).resolvedSchema db) create.table c.name (.text s))
  | onAddedColumn {add : AddColumn} {columns : List Column} {c : Column}
    (all : add.columns.all = .ok columns)
    (hc : c ∈ columns) (declared : c.remarks = .text v) :
    SetsRemark db v s (.addColumn add)
      (.columnRemarks ((Change.addColumn add).resolvedSchema db) add.table c.name (.text s))

/-- Whether a remark is written with a literal at the end, behind the object that it is on. -/
structure EndsComment (db : Database) (s literal : String) : Prop where
  onTable : ∀ (schema table : Name) (sql : List String),
    Registry.render db (.tableRemarks schema table (.text s)) = .ok sql ↔
      ∃ place, db.qualifyName schema table = .ok place ∧
        sql = ["COMMENT ON TABLE " ++ place ++ " IS " ++ literal]
  onColumn : ∀ (schema table column : Name) (sql : List String),
    Registry.render db (.columnRemarks schema table column (.text s)) = .ok sql ↔
      ∃ place, db.qualifyName schema table = .ok place ∧ (∃ t, column = .text t) ∧
        sql = ["COMMENT ON COLUMN " ++ place ++ "." ++ db.quote column.display ++ " IS " ++ literal]

theorem storesDefault_textLiteral (db : Database) (registry : Registry) (v : String) :
    StoresDefault db registry v (Database.textLiteral v) where
  compiled c declared := declared.defaultText_eq db
  newTable create before after c statements all declared textual last compiled := by
    obtain ⟨columns, t, tablespace, all', -, defined, -, compiled_by⟩ :=
      Change.exists_of_statements_createTable compiled
    obtain rfl := Except.ok.inj (all.symm.trans all')
    obtain rfl := Except.ok.inj (compiled.symm.trans (compiled_by registry))
    have stored := Change.defaultAt_of_foldlM textual (declared.sqlDefault_eq db) last defined
    exact ⟨_, _, rfl, stored⟩
  addition add columns j c statements all at_j declared compiled := by
    refine ⟨_, Change.getElem?_statements_addColumn all compiled at_j, ?_⟩
    rw [Column.addition, declared.sqlDefault_eq]
    rfl

theorem SetsRemark.mem_declaredRemarks {db : Database} {v s : String} {change : Change}
    {st : Statement}
    (trimmed : Text.trimmed? v = some s) (sets : SetsRemark db v s change st) :
    st ∈ change.declaredRemarks db := by
  cases sets with
  | onTable declared =>
    refine List.mem_append_left _ ?_
    rw [declared, Value.remark?, trimmed]
    exact List.mem_singleton.mpr rfl
  | onNewColumn all hc declared =>
    refine List.mem_append_right _ ?_
    rw [all]
    exact Change.mem_remarksOnColumns hc declared trimmed
  | onAddedColumn all hc declared =>
    rw [Change.declaredRemarks, all]
    exact Change.mem_remarksOnColumns hc declared trimmed

theorem endsComment_textLiteral (db : Database) (s : String) :
    EndsComment db s (Database.textLiteral s) where
  onTable _ _ _ := Rendering.commentOnTable_eq_ok_iff
  onColumn _ _ _ _ := Rendering.commentOnColumn_eq_ok_iff

/-- Texts survive as literals. Whatever the database, a text that is the default of a column is
stored as one literal for it, blanks and all. A remark is set as the trimmed text, wherever the
registry can render it, and written as one literal for that. -/
theorem literals_read_back (db : Database) (registry : Registry) (v : String) :
    (∃ literal, StoresDefault db registry v literal ∧ IsLiteral literal v) ∧
    (∀ s, Text.trimmed? v = some s →
      (∀ change st statements, SetsRemark db v s change st →
        change.statements db registry = .ok statements →
        registry.supports db st = true → st ∈ statements) ∧
      ∃ literal, EndsComment db s literal ∧ IsLiteral literal s) ∧
    (db.dialect? = some .postgresql ∨ db.dialect? = some .oracle →
      ∀ st : Statement, st.isRemark = true → Registry.bundled.generate db st =
        Registry.render db st) := by
  refine ⟨⟨_, storesDefault_textLiteral db registry v, isLiteral_textLiteral v⟩,
    fun s trimmed => ⟨?_, ?_⟩, ?_⟩
  · exact fun change st statements sets compiled =>
      Change.mem_statements_of_declared compiled (sets.mem_declaredRemarks trimmed)
  · exact ⟨_, endsComment_textLiteral db s, isLiteral_textLiteral s⟩
  · exact fun comments st => Registry.generate_bundled_of_isRemark comments

def noticeBoard : CreateTable where
  table := .text "notices"
  schema := .ofDeclared none
  remarks := .text " what's on "
  columns := .of [{ name := .text "title", type := .text "CLOB", default? := .text " it's '' " }]

theorem literals_read_back_noticeBoard :
    ∃ t remark stored written,
      (Change.createTable noticeBoard).statements (warehouse .oracle) .bundled =
        .ok [.createTable t, remark] ∧
      TableDefinition.at? (.text "title") t.defaults = some (.text stored) ∧
        IsLiteral stored " it's '' " ∧
      Registry.bundled.generate (warehouse .oracle) remark =
        .ok ["COMMENT ON TABLE notices IS " ++ written] ∧
      IsLiteral written "what's on" := by
  have compiled : (Change.createTable noticeBoard).statements (warehouse .oracle) .bundled =
    .ok [.createTable _, _] := rfl
  obtain ⟨⟨stored, stores, stored_literal⟩, -, -⟩ :=
    literals_read_back (warehouse .oracle) .bundled " it's '' "
  obtain ⟨-, trimmed_remark, comments⟩ :=
    literals_read_back (warehouse .oracle) .bundled " what's on "
  obtain ⟨-, written, ends, written_literal⟩ := trimmed_remark "what's on" (by decide +kernel)
  obtain ⟨t, remarks, statements_eq, default_eq⟩ :=
    stores.newTable noticeBoard [] [] _ _ rfl ⟨rfl, rfl⟩ (.inr ⟨_, rfl⟩) nofun compiled
  obtain ⟨t_eq, -⟩ := List.cons.inj statements_eq
  cases t_eq
  refine ⟨_, _, stored, written, compiled, default_eq, stored_literal, ?_, written_literal⟩
  rw [comments (.inr rfl) _ rfl]
  exact (ends.onTable _ _ _).mpr ⟨"notices", by decide +kernel, rfl⟩

/-- Whether a reader takes two backslashes for one, and a backslash and any other character for one
character at most, unless it leaves both. -/
structure TakesBackslashes (meaning : Char → List Char) : Prop where
  doubled : meaning '\\' = ['\\']
  modest : ∀ d, (meaning d).length ≤ 1 ∨ meaning d = ['\\', d]

/-- Whether every backslash in a text stands before a character that leaves it in place, and before
no quote. -/
def KeepsBackslashes (meaning : Char → List Char) (v : String) : Prop :=
  ∀ before after, v.toList = before ++ '\\' :: after → ∃ d rest, after = d :: rest ∧ d ≠ '\'' ∧
    meaning d = ['\\', d]

theorem keepsLeads_backslashed {meaning : Char → List Char} {v : String} :
    (backslashed meaning).KeepsLeads v.toList ↔ KeepsBackslashes meaning v := by
  constructor
  · exact fun keeps before after split => keeps before '\\' after split rfl
  · intro keeps before l after split lead
    cases lead
    exact keeps before after split

section

variable {meaning : Char → List Char} (takes : TakesBackslashes meaning) {v : String}
include takes

theorem TakesBackslashes.isFaithful : (backslashed meaning).IsFaithful := by
  intro l lead
  cases lead
  exact ⟨(by decide : '\\' ≠ '\''), takes.doubled⟩

theorem TakesBackslashes.isModest : (backslashed meaning).IsModest := by
  intro l d lead
  cases lead
  exact takes.modest d

theorem lex_textLiteral_eq_iff :
    (backslashed meaning).lex (Database.textLiteral v).toList = some (v.toList, []) ↔
      KeepsBackslashes meaning v := by
  rw [toList_textLiteral, ← keepsLeads_backslashed]
  exact Text.Quotation.lex_write_plain_eq_iff takes.isFaithful takes.isModest

theorem reads_textLiteral (keeps : KeepsBackslashes meaning v) :
    (backslashed meaning).Reads (Database.textLiteral v).toList v.toList := by
  rw [toList_textLiteral]
  exact Text.Quotation.reads_write_plain takes.isFaithful (keepsLeads_backslashed.mpr keeps)

/-- On databases of MySQL a text survives as a literal exactly if its backslashes all stand before
characters that leave them in place. The literal is the one that is stored for a default and written
for the remark on a table. -/
theorem lex_literal_eq_iff {db : Database}
    (alters : db.dialect? = some .mysql ∨ db.dialect? = some .mariadb)
    (registry : Registry) (v : String) :
    StoresDefault db registry v (db.literal (.text v)) ∧
    (∀ (schema table : Name) (sql : List String),
      Registry.bundled.generate db (.tableRemarks schema table (.text v)) = .ok sql ↔
        ∃ place, db.qualifyName schema table = .ok place ∧
          sql = ["ALTER TABLE " ++ place ++ " COMMENT = " ++ db.literal (.text v)]) ∧
    ((backslashed meaning).lex (db.literal (.text v)).toList = some (v.toList, []) ↔
      KeepsBackslashes meaning v) ∧
    (KeepsBackslashes meaning v → (backslashed meaning).Reads (db.literal (.text v)).toList
      v.toList) := by
  have written : db.literal (.text v) = Database.textLiteral v := rfl
  rw [written]
  refine ⟨storesDefault_textLiteral db registry v, fun schema table sql => ?_,
    lex_textLiteral_eq_iff takes, reads_textLiteral takes⟩
  rw [Registry.generate_bundled_of_mysql alters]
  exact Rendering.alterTableComment_eq_ok_iff

end

/-- What MySQL takes a backslash and the next character for. -/
def backslashMeaning : Char → List Char
  | '0' => ['\x00']
  | 'b' => ['\x08']
  | 'n' => ['\n']
  | 'r' => ['\r']
  | 't' => ['\t']
  | 'Z' => ['\x1a']
  | '%' => ['\\', '%']
  | '_' => ['\\', '_']
  | c => [c]

theorem takesBackslashes_backslashMeaning : TakesBackslashes backslashMeaning where
  doubled := rfl
  modest d := by
    unfold backslashMeaning
    split <;> simp

theorem lex_literal_eq_iff_percent :
    KeepsBackslashes backslashMeaning "it's 5\\%" ∧
    Registry.bundled.generate (warehouse .mysql)
      (.tableRemarks .null (.text "prices") (.text "it's 5\\%")) =
      .ok ["ALTER TABLE prices COMMENT = " ++ (warehouse .mysql).literal (.text "it's 5\\%")] ∧
    (backslashed backslashMeaning).Reads ((warehouse .mysql).literal (.text "it's 5\\%")).toList
      "it's 5\\%".toList := by
  have alters : (warehouse .mysql).dialect? = some .mysql ∨
    (warehouse .mysql).dialect? = some .mariadb := .inl rfl
  obtain ⟨-, remark, survives, reads⟩ :=
    lex_literal_eq_iff takesBackslashes_backslashMeaning alters .bundled "it's 5\\%"
  have keeps : KeepsBackslashes backslashMeaning "it's 5\\%" := survives.mp (by decide +kernel)
  exact ⟨keeps, (remark _ _ _).mpr ⟨"prices", by decide +kernel, rfl⟩, reads keeps⟩

/-- A backslash at the end takes the closing quote along, and the text runs on into what follows. -/
theorem runs_on_of_trailing_backslash :
    (warehouse .mysql).literal (.text "C:\\") = "'C:\\'" ∧
    (backslashed backslashMeaning).lex ((warehouse .mysql).literal (.text "C:\\")).toList = none ∧
    (backslashed backslashMeaning).lex ((warehouse .mysql).literal (.text "C:\\") ++
      ", note TEXT DEFAULT 'x'").toList =
      some ("C:', note TEXT DEFAULT ".toList, "x'".toList) := by
  decide +kernel

end SchemaMigration
