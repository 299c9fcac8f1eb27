import Mathlib.Data.List.TakeWhile
import SchemaMigration.Text.Blank

namespace SchemaMigration.Text

variable {p : Char → Bool} {before before' s t after : List Char}

theorem exists_ends (p : Char → Bool) (s : List Char) :
    ∃ before after, (∀ c ∈ before, p c = true) ∧ (∀ c ∈ after, p c = true) ∧
      s = before ++ ((s.dropWhile p).reverse.dropWhile p).reverse ++ after := by
  refine ⟨s.takeWhile p, ((s.dropWhile p).reverse.takeWhile p).reverse,
    fun c => List.mem_takeWhile_imp,
    fun c hc => List.mem_takeWhile_imp (List.mem_reverse.mp hc), ?_⟩
  rw [List.append_assoc, ← List.reverse_append, List.takeWhile_append_dropWhile,
    List.reverse_reverse, List.takeWhile_append_dropWhile]

theorem dropWhile_ends (kind_before : ∀ c ∈ before, p c = true)
    (kind_after : ∀ c ∈ after, p c = true)
    (starts : ∃ c ∈ s.head?, p c = false) (ends : ∀ c ∈ s.getLast?, p c = false) :
    (((before ++ s ++ after).dropWhile p).reverse.dropWhile p).reverse = s := by
  obtain ⟨c, first, other⟩ := starts
  obtain ⟨rest, rfl⟩ := List.head?_eq_some_iff.mp first
  have start : (before ++ (c :: rest) ++ after).dropWhile p = (c :: rest) ++ after := by
    rw [List.append_assoc, List.dropWhile_append_of_pos kind_before, List.cons_append,
      List.dropWhile_cons_of_neg (by simp [other])]
  have stop : (c :: rest).reverse.dropWhile p = (c :: rest).reverse := by
    obtain ⟨front, last, whole⟩ :=
      List.exists_cons_of_ne_nil (List.reverse_ne_nil_iff.mpr (List.cons_ne_nil c rest))
    have last_eq : (c :: rest).getLast? = some front := by
      rw [← List.head?_reverse, whole, List.head?_cons]
    rw [whole, List.dropWhile_cons_of_neg (by simp [ends front last_eq])]
  rw [start, List.reverse_append, List.dropWhile_append_of_pos (by simpa using kind_after), stop,
    List.reverse_reverse]

def AreBlank (s : List Char) : Prop := ∀ c ∈ s, isBlank c = true

theorem takeWhile_isBlank (blank : AreBlank before) (starts : ∃ c ∈ s.head?, isBlank c = false) :
    (before ++ s).takeWhile isBlank = before := by
  obtain ⟨c, first, other⟩ := starts
  obtain ⟨rest, rfl⟩ := List.head?_eq_some_iff.mp first
  rw [List.takeWhile_append_of_pos blank, List.takeWhile_cons_of_neg (by simp [other]),
    List.append_nil]

theorem append_inj_of_areBlank (blank : AreBlank before) (blank' : AreBlank before')
    (starts : ∃ c ∈ s.head?, isBlank c = false) (starts' : ∃ c ∈ t.head?, isBlank c = false)
    (same : before ++ s = before' ++ t) : before = before' ∧ s = t := by
  have before_eq : before = before' := by
    rw [← takeWhile_isBlank blank starts, same, takeWhile_isBlank blank' starts']
  exact ⟨before_eq, List.append_cancel_left (before_eq ▸ same)⟩

/-- Whether a text is another one without the blanks around it. -/
structure IsTrimming (s trimmed : List Char) : Prop where
  padded : ∃ before after, AreBlank before ∧ AreBlank after ∧ s = before ++ trimmed ++ after
  starts : ∀ c ∈ trimmed.head?, isBlank c = false
  ends : ∀ c ∈ trimmed.getLast?, isBlank c = false

theorem isTrimming_trimChars (s : List Char) : IsTrimming s (trimChars s) :=
  ⟨exists_ends isBlank s, head?_trimChars, getLast?_trimChars⟩

theorem trimChars_padded (blank_before : AreBlank before) (blank_after : AreBlank after)
    (starts : ∃ c ∈ s.head?, isBlank c = false) (ends : ∀ c ∈ s.getLast?, isBlank c = false) :
    trimChars (before ++ s ++ after) = s :=
  dropWhile_ends blank_before blank_after starts ends

end SchemaMigration.Text
