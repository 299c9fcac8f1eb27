import SchemaMigration.Text.CaseTable
import SchemaMigration.Text.ClassTable

namespace SchemaMigration.Text

def mapCase (table : CaseTable) (ascii : Char → Char) (c : Char) : List Char :=
  if c.toNat < 0x80 then [ascii c] else table.apply c

def upperChar (c : Char) : List Char := mapCase upperTable Char.toUpper c

def lowerChar (c : Char) : List Char := mapCase lowerTable Char.toLower c

def foldChar (c : Char) : List Char := mapCase foldTable Char.toLower c

def isCased (c : Char) : Bool := inIntervals casedIntervals c.toNat

def isCaseIgnorable (c : Char) : Bool := inIntervals caseIgnorableIntervals c.toNat

def meetsCased (s : List Char) : Bool :=
  match s.dropWhile isCaseIgnorable with
  | [] => false
  | c :: _ => isCased c

/-- Lower case from a position on, `before` being the text before it in reverse. A capital sigma
that ends a word becomes the final sigma. -/
def lowerFrom (before : List Char) : List Char → List Char
  | [] => []
  | c :: rest =>
    let image :=
      if c == 'Σ' then (if meetsCased before && !meetsCased rest then ['ς'] else ['σ'])
      else lowerChar c
    image ++ lowerFrom (c :: before) rest

def upper (s : String) : String := String.ofList (s.toList.flatMap upperChar)

def lower (s : String) : String := String.ofList (lowerFrom [] s.toList)

def fold (s : String) : String := String.ofList (s.toList.flatMap foldChar)

theorem CaseTable.apply_ne_nil {t : CaseTable} (h : ∀ e ∈ t.expansions, e.2 ≠ []) (c : Char) :
    t.apply c ≠ [] := by
  dsimp only [CaseTable.apply]
  split
  next n image found =>
    have := h _ (List.mem_of_find?_eq_some found)
    simpa using this
  next =>
    split
    · simp
    · simp

theorem foldTable_expansions : ∀ e ∈ foldTable.expansions, e.2 ≠ [] := by decide

theorem foldChar_ne_nil (c : Char) : foldChar c ≠ [] := by
  unfold foldChar mapCase
  split
  · simp
  · exact CaseTable.apply_ne_nil foldTable_expansions c

@[simp] theorem fold_eq_empty_iff (s : String) : fold s = "" ↔ s = "" := by
  constructor
  · intro h
    have none_left : s.toList.flatMap foldChar = [] := by simpa [fold] using h
    rw [List.flatMap_eq_nil_iff] at none_left
    cases letters : s.toList with
    | nil => simpa using letters
    | cons c rest =>
      have := none_left c (by simp [letters])
      exact absurd this (foldChar_ne_nil c)
  · rintro rfl
    rfl

end SchemaMigration.Text
