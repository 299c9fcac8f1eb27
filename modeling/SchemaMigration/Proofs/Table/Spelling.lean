import SchemaMigration.Proofs.ColumnType.Parts

namespace SchemaMigration.ColumnType

structure Spelling where
  before : List Char := []
  word : List Char
  gap : List Char := []
  parameters : List Char := []
  after : List Char := []
  letters : ∀ c ∈ word, c.isAlpha = true
  some_letter : word ≠ []
  enclosed : parameters = [] ∨ isParameters parameters = true
  blank_before : ∀ c ∈ before, Text.isBlank c = true
  blank_gap : ∀ c ∈ gap, Text.isBlank c = true
  blank_after : ∀ c ∈ after, Text.isBlank c = true

namespace Spelling

def text (s : Spelling) : String :=
  String.ofList (s.before ++ s.word ++ s.gap ++ s.parameters ++ s.after)

def base (s : Spelling) : String := String.ofList (s.word.map Char.toUpper)

def unspaced (s : Spelling) : String := String.ofList (s.parameters.filter (· != ' '))

end Spelling

variable {c : Char}

theorem toNat_of_isAlpha (letter : c.isAlpha = true) :
    (65 ≤ c.toNat ∧ c.toNat ≤ 90) ∨ (97 ≤ c.toNat ∧ c.toNat ≤ 122) := by
  change (decide (65 ≤ c.val ∧ c.val ≤ 90) || (decide (97 ≤ c.val) && decide (c.val ≤ 122))) =
    true at letter
  simpa [UInt32.le_iff_toNat_le] using letter

theorem isBaseStart_of_isAlpha (letter : c.isAlpha = true) : isBaseStart c = true := by
  have range := toNat_of_isAlpha letter
  simp only [isBaseStart, Bool.or_eq_true, Bool.and_eq_true, decide_eq_true_eq, Char.le_def,
    UInt32.le_iff_toNat_le]
  exact Or.inl (range.symm)

theorem upperChar_of_isAlpha (letter : c.isAlpha = true) : Text.upperChar c = [c.toUpper] := by
  have range := toNat_of_isAlpha letter
  exact if_pos (by omega)

theorem isBase_of_letters {word : List Char} (letters : ∀ c ∈ word, c.isAlpha = true)
    (some_letter : word ≠ []) :
    IsBase word := by
  obtain ⟨c, rest, rfl⟩ := List.exists_cons_of_ne_nil some_letter
  refine ⟨⟨c, rfl, isBaseStart_of_isAlpha (letters c List.mem_cons_self)⟩, fun d hd =>
    isBaseChar_of_isBaseStart (isBaseStart_of_isAlpha (letters d hd)), fun last => ?_⟩
  have letter := letters ' ' (List.mem_of_mem_getLast? last)
  cases letter

theorem declares_text (s : Spelling) : Declares s.text.toList s.word s.parameters :=
  ⟨isBase_of_letters s.letters s.some_letter, s.enclosed, s.before, s.gap, s.after,
    s.blank_before, s.blank_gap, s.blank_after, by simp [Spelling.text]⟩

theorem split_text (s : Spelling) : split s.text = (s.base, s.unspaced) := by
  have upper : Text.upper (String.ofList s.word) = s.base := by
    unfold Text.upper Spelling.base
    rw [String.toList_ofList, List.flatMap_def, List.map_congr_left fun c hc =>
      upperChar_of_isAlpha (s.letters c hc), ← List.flatMap_def, ← List.map_eq_flatMap]
  rw [split_of_declares (declares_text s), upper, Spelling.unspaced]

theorem unspaced_eq_empty_iff {s : Spelling} : s.unspaced = "" ↔ s.parameters = [] := by
  obtain none | ⟨rest, starts⟩ := eq_nil_or_cons_of_areParameters s.enclosed
  · simp [Spelling.unspaced, none]
  · simp [Spelling.unspaced, starts]

def wholeNumbers : List String := ["TINYINT", "SMALLINT", "INT", "INTEGER", "BIGINT"]

namespace Mapping

variable {m : Mapping} {s : Spelling} {stored : String}

theorem resolve_of_generated (found : m.generated.lookup s.base = some stored) :
    m.resolve s.text true = stored := by
  unfold resolve
  rw [split_text]
  simp [found]

theorem resolve_of_types (absent : m.generated.lookup s.base = none)
    (found : m.types.lookup s.base = some stored)
    (bare : '(' ∉ stored.toList) : m.resolve s.text true = stored ++ s.unspaced := by
  unfold resolve
  rw [split_text]
  cases written : s.unspaced != "" with
  | true => simp [absent, found, bare, written]
  | false =>
    have nothing : s.unspaced = "" := by simpa using written
    simp [absent, found, nothing]

theorem resolve_sqlite (whole : s.base ∈ wholeNumbers) :
    (Mapping.of (some .sqlite)).resolve s.text true = "INTEGER" ++ if s.base = "TINYINT" then
      s.unspaced else "" := by
  simp only [wholeNumbers, List.mem_cons, List.not_mem_nil, or_false] at whole
  rcases whole with base | base | base | base | base
  · rw [if_pos base]
    exact resolve_of_types (by rw [base]; decide) (by rw [base]; decide) (by decide)
  all_goals
    rw [if_neg (by rw [base]; decide)]
    exact resolve_of_generated (by rw [base]; decide)

theorem resolve_postgresql_tinyint (base : s.base = "TINYINT") :
    (Mapping.of (some .postgresql)).resolve s.text true = "SMALLINT" ++ s.unspaced :=
  resolve_of_types (by rw [base]; decide) (by rw [base]; decide) (by decide)

theorem resolve_postgresql (whole : s.base ∈ wholeNumbers) (base : s.base ≠ "TINYINT") :
    (Mapping.of (some .postgresql)).resolve s.text true ∈
    ["SMALLSERIAL", "SERIAL", "BIGSERIAL"] := by
  have mapped : ∃ serial ∈ ["SMALLSERIAL", "SERIAL", "BIGSERIAL"],
      (Mapping.of (some .postgresql)).generated.lookup s.base = some serial := by
    simp only [wholeNumbers, List.mem_cons, List.not_mem_nil, or_false, base, false_or] at whole
    rcases whole with base | base | base | base <;> rw [base] <;> decide
  obtain ⟨serial, is_serial, found⟩ := mapped
  rwa [resolve_of_generated found]

end Mapping

end SchemaMigration.ColumnType
