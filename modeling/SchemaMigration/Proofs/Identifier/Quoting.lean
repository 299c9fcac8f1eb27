import SchemaMigration.Database
import SchemaMigration.Proofs.Text.Quotation

/-! Names are told apart by how they are written. A bare name ends where the characters of words
end, one in quotes ends with them, and neither goes on with a point; so the schema and the name can
be read from a qualified name, whatever they contain. -/

namespace SchemaMigration.Identifier

def isNameChar (c : Char) : Bool := isWordChar c || c == '\n'

namespace Style

def quotation (style : Style) : Text.Quotation where
  opening := style.opening
  closing := style.closing
  lead? := if style.doublesPercent then some '%' else none

def readName (style : Style) : List Char → Option (List Char × List Char)
  | [] => none
  | c :: rest =>
    if c = style.opening then style.quotation.read rest
    else some ((c :: rest).takeWhile isNameChar, (c :: rest).dropWhile isNameChar)

structure IsSound (style : Style) : Prop where
  opens : isNameChar style.opening = false
  percents : style.closing ≠ '%'
  points : style.closing ≠ '.'
  blanks : style.closing ≠ ' '

theorem isSound_of (kind : Option Dialect) : (Style.of kind).IsSound := by
  rcases kind with _ | d
  · exact ⟨by decide, by decide, by decide, by decide⟩
  · cases d <;> exact ⟨by decide, by decide, by decide, by decide⟩

theorem splitsSchema_of {kind : Option Dialect} (other : kind ≠ some .mssql) :
    (Style.of kind).splitsSchema = false := by
  rcases kind with _ | d
  · rfl
  · cases d
    case mssql => exact absurd rfl other
    all_goals rfl

def EndsName (style : Style) (following : List Char) : Prop :=
  ∀ c ∈ following.head?, c ≠ style.closing ∧ isNameChar c = false

variable {style : Style} {name name' following following' : List Char}

theorem lead?_quotation {c : Char} : style.quotation.lead? = some c ↔
    c = '%' ∧ style.doublesPercent = true := by
  cases doubles : style.doublesPercent <;> simp [quotation, doubles, eq_comm]

theorem escapeChar_eq_image : style.escapeChar = style.quotation.image := by
  funext c
  have closing_eq : style.quotation.closing = style.closing := rfl
  simp only [escapeChar, Text.Quotation.image, lead?_quotation, closing_eq, beq_iff_eq,
    Bool.and_eq_true]
  by_cases closes : c = style.closing
  · rw [if_pos closes, if_pos (.inl closes)]
  · by_cases leads : c = '%' ∧ style.doublesPercent = true
    · rw [if_neg closes, if_pos leads, if_pos (.inr leads), leads.1]
    · rw [if_neg closes, if_neg leads, if_neg (not_or.mpr ⟨closes, leads⟩)]

theorem inQuotes_eq_write : style.inQuotes name = style.quotation.write name := by
  rw [inQuotes, escapeChar_eq_image]
  rfl

theorem isFaithful_quotation (sound : style.IsSound) : style.quotation.IsFaithful := by
  intro l lead
  obtain ⟨rfl, -⟩ := lead?_quotation.mp lead
  exact ⟨sound.percents.symm, rfl⟩

theorem isNameChar_of_isWord (word : isWord name = true) : ∀ c ∈ name, isNameChar c = true := by
  have plain {c : Char} (plain : isWordChar c = true) : isNameChar c = true :=
    Bool.or_eq_true_iff.mpr (.inl plain)
  induction name using isWord.induct with
  | case1 => exact nofun
  | case2 c => exact List.forall_mem_singleton.mpr (plain word)
  | case3 c => exact List.forall_mem_cons.mpr ⟨plain word, List.forall_mem_singleton.mpr rfl⟩
  | case4 c rest several no_break ih =>
    rw [isWord.eq_4 _ _ several no_break, Bool.and_eq_true] at word
    exact List.forall_mem_cons.mpr ⟨plain word.1, ih word.2⟩

theorem isWord_of_bare (bare : style.needsQuotes name = false) : isWord name = true := by
  cases name with
  | nil => cases bare
  | cons c rest =>
    simp only [needsQuotes, Bool.or_eq_false_iff, Bool.not_eq_false'] at bare
    exact bare.1.2

theorem readName_bare (sound : style.IsSound) (bare : style.needsQuotes name = false)
    (ends : style.EndsName following) : style.readName
    (name ++ following) = some (name, following) := by
  have inside : ∀ c ∈ name, isNameChar c = true := isNameChar_of_isWord (isWord_of_bare bare)
  have outside : following.takeWhile isNameChar = [] ∧
      following.dropWhile isNameChar = following := by
    cases following with
    | nil => exact ⟨rfl, rfl⟩
    | cons c rest =>
      have stops := (ends c rfl).2
      exact ⟨List.takeWhile_cons_of_neg (by simp [stops]),
        List.dropWhile_cons_of_neg (by simp [stops])⟩
  cases name with
  | nil => cases bare
  | cons c rest =>
    have not_open : c ≠ style.opening := by
      rintro rfl
      exact Bool.noConfusion (sound.opens.symm.trans (inside _ List.mem_cons_self))
    rw [List.cons_append, readName, if_neg not_open, ← List.cons_append,
      List.takeWhile_append_of_pos inside,
      List.dropWhile_append_of_pos inside, outside.1, outside.2, List.append_nil]

theorem readName_inQuotes (sound : style.IsSound) (ends : style.EndsName following) :
    style.readName (style.inQuotes name ++ following) = some (name, following) := by
  have opens : style.quotation.opening = style.opening := rfl
  rw [inQuotes_eq_write, Text.Quotation.write, List.cons_append, List.append_assoc,
    readName, if_pos opens]
  exact Text.Quotation.read_flatMap_image (isFaithful_quotation sound) fun closes =>
    (ends _ closes).1 rfl

theorem readName_quoteChars (sound : style.IsSound) (ends : style.EndsName following) :
    style.readName (style.quoteChars name ++ following) = some (name, following) := by
  rw [quoteChars]
  split
  next => exact readName_inQuotes sound ends
  next bare => exact readName_bare sound (Bool.not_eq_true _ ▸ bare) ends

theorem quoteChars_append_inj (sound : style.IsSound) (ends : style.EndsName following)
    (ends' : style.EndsName following')
    (same : style.quoteChars name ++ following = style.quoteChars name' ++ following') :
    name = name' ∧ following = following' := by
  have read : style.readName (style.quoteChars name ++ following) = _ :=
    readName_quoteChars sound ends
  rw [same, readName_quoteChars sound ends'] at read
  obtain ⟨same_name, same_rest⟩ := Prod.mk.inj (Option.some.inj read)
  exact ⟨same_name.symm, same_rest.symm⟩

theorem endsName_empty : style.EndsName "".toList := by simp [EndsName]

theorem endsName_point (sound : style.IsSound) (rest : List Char) :
    style.EndsName ('.' :: rest) := by
  rintro c ⟨⟩
  exact ⟨sound.points.symm, rfl⟩

theorem endsName_space (sound : style.IsSound) (space : following.head? = some ' ') :
    style.EndsName following := by
  intro c first
  obtain rfl := Option.some.inj (space.symm.trans first)
  exact ⟨sound.blanks.symm, rfl⟩

end Style

end SchemaMigration.Identifier

namespace SchemaMigration.Database

open Identifier (Style)

variable {db : Database} {schema schema' : Option String} {name name' rest rest' : String}

theorem toList_quote : (db.quote name).toList = db.style.quoteChars name.toList :=
  String.toList_ofList

theorem toList_qualify (whole : db.style.splitsSchema = false) : (db.qualify schema name).toList =
    match schema.filter (· ≠ "") with
    | some s => db.style.quoteChars s.toList ++ '.' :: db.style.quoteChars name.toList
    | none => db.style.quoteChars name.toList := by
  have quoted (s : String) : (db.style.quoteSchema s).toList = db.style.quoteChars s.toList := by
    rw [Style.quoteSchema, String.toList_ofList, Style.quoteSchemaChars, whole]
    rfl
  cases schema with
  | none => exact toList_quote
  | some s =>
    by_cases empty : s = ""
    · simp [qualify, empty, toList_quote, Option.filter]
    · simp [qualify, empty, quoted, toList_quote, Option.filter]

theorem quote_append_inj (sound : db.style.IsSound) (ends : db.style.EndsName rest.toList)
    (ends' : db.style.EndsName rest'.toList)
    (same : db.quote name ++ rest = db.quote name' ++ rest') :
    name = name' ∧ rest = rest' := by
  have same_chars := congrArg String.toList same
  rw [String.toList_append, String.toList_append, toList_quote, toList_quote] at same_chars
  obtain ⟨same_name, same_rest⟩ := Style.quoteChars_append_inj sound ends ends' same_chars
  exact ⟨String.toList_inj.mp same_name, String.toList_inj.mp same_rest⟩

theorem qualify_append_inj (sound : db.style.IsSound) (whole : db.style.splitsSchema = false)
    (ends : db.style.EndsName rest.toList) (ends' : db.style.EndsName rest'.toList)
    (no_point : rest.toList.head? ≠ some '.') (no_point' : rest'.toList.head? ≠ some '.')
    (same : db.qualify schema name ++ rest = db.qualify schema' name' ++ rest') :
    schema.filter (· ≠ "") = schema'.filter (· ≠ "") ∧ name = name' ∧ rest = rest' := by
  have inner (s : List Char) : db.style.EndsName ('.' :: s) := Style.endsName_point sound s
  have same_chars := congrArg String.toList same
  rw [String.toList_append, String.toList_append, toList_qualify whole, toList_qualify whole]
    at same_chars
  cases given : schema.filter (· ≠ "") <;> cases given' : schema'.filter (· ≠ "") <;>
    simp only [given, given', List.append_assoc, List.cons_append] at same_chars
  case none.none =>
    obtain ⟨same_name, same_rest⟩ := Style.quoteChars_append_inj sound ends ends' same_chars
    exact ⟨rfl, String.toList_inj.mp same_name, String.toList_inj.mp same_rest⟩
  case none.some s' =>
    obtain ⟨-, point⟩ := Style.quoteChars_append_inj sound ends (inner _) same_chars
    exact absurd (congrArg List.head? point) no_point
  case some.none s =>
    obtain ⟨-, point⟩ := Style.quoteChars_append_inj sound (inner _) ends' same_chars
    exact absurd (congrArg List.head? point.symm) no_point'
  case some.some s s' =>
    obtain ⟨same_schema, same_tail⟩ :=
      Style.quoteChars_append_inj sound (inner _) (inner _) same_chars
    obtain ⟨same_name, same_rest⟩ :=
      Style.quoteChars_append_inj sound ends ends' (List.cons.inj same_tail).2
    exact ⟨congrArg some (String.toList_inj.mp same_schema), String.toList_inj.mp same_name,
      String.toList_inj.mp same_rest⟩

theorem quote_inj (sound : db.style.IsSound) (same : db.quote name = db.quote name') :
    name = name' :=
  (quote_append_inj sound Style.endsName_empty Style.endsName_empty (congrArg (· ++ "") same)).1

theorem qualify_inj (sound : db.style.IsSound) (whole : db.style.splitsSchema = false)
    (same : db.qualify schema name = db.qualify schema' name') :
    schema.filter (· ≠ "") = schema'.filter (· ≠ "") ∧ name = name' := by
  obtain ⟨same_schema, same_name, -⟩ :=
    qualify_append_inj sound whole Style.endsName_empty Style.endsName_empty
    (by simp) (by simp) (congrArg (· ++ "") same)
  exact ⟨same_schema, same_name⟩

theorem qualify_congr (whole : db.style.splitsSchema = false)
    (same : schema.filter (· ≠ "") = schema'.filter (· ≠ "")) :
    db.qualify schema name = db.qualify schema' name := by
  rw [← String.toList_inj, toList_qualify whole, toList_qualify whole, same]

/-- Names in schemas are told apart. Outside SQL Server, which takes the names of schemas apart, two
of them are written alike only if both the schemas and the names are the same; the empty schema is
none. -/
theorem qualify_eq_iff {kind : Option Dialect} (style : db.style = .of kind)
    (other : kind ≠ some .mssql)
    (schema schema' : Option String) (name name' : String) :
    db.qualify schema name = db.qualify schema' name' ↔
      schema.filter (· ≠ "") = schema'.filter (· ≠ "") ∧ name = name' := by
  have sound : db.style.IsSound := style ▸ Style.isSound_of kind
  have whole : db.style.splitsSchema = false := style ▸ Style.splitsSchema_of other
  constructor
  · exact qualify_inj sound whole
  · rintro ⟨same_schema, rfl⟩
    exact qualify_congr whole same_schema

theorem qualify_eq_iff_points : (generic "h2" .null none).style = .of none ∧
    (generic "h2" .null none).qualify (some "a.b") "c" ≠ (generic "h2" .null none).qualify
    (some "a") "b.c" := by
  have style : (generic "h2" .null none).style = .of none := rfl
  refine ⟨style, fun same => ?_⟩
  obtain ⟨-, same_name⟩ := (qualify_eq_iff style nofun _ _ _ _).mp same
  exact absurd same_name (by decide)

end SchemaMigration.Database
