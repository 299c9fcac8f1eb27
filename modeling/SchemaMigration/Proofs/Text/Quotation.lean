
namespace SchemaMigration.Text

structure Quotation where
  opening : Char
  closing : Char
  lead? : Option Char := none
  meaning : Char → List Char := fun c => [c]

namespace Quotation

variable (q : Quotation)

def read : List Char → Option (List Char × List Char)
  | [] => none
  | [c] => if c = q.closing then some ([], []) else none
  | c :: d :: rest =>
    if c = q.closing then
      if d = q.closing then (read rest).map (Prod.map (c :: ·) id) else some ([], d :: rest)
    else if q.lead? = some c then (read rest).map (Prod.map (q.meaning d ++ ·) id)
    else (read (d :: rest)).map (Prod.map (c :: ·) id)

/-- The text in quotes that a text starts with, and what is left behind it. -/
def lex : List Char → Option (List Char × List Char)
  | [] => none
  | c :: rest => if c = q.opening then q.read rest else none

/-- Whether what is written is read as a text, and ends where its writing ends, whatever follows but
one more closing quote. -/
def Reads (written s : List Char) : Prop :=
  ∀ following : List Char, following.head? ≠ some q.closing →
    q.lex (written ++ following) = some (s, following)

def image (c : Char) : List Char := if c = q.closing ∨ q.lead? = some c then [c, c] else [c]

def write (s : List Char) : List Char := q.opening :: (s.flatMap q.image ++ [q.closing])

def IsFaithful : Prop := ∀ l, q.lead? = some l → l ≠ q.closing ∧ q.meaning l = [l]

section Steps

variable {q} {c d : Char} {rest following : List Char}

theorem read_closing (ends : following.head? ≠ some q.closing) :
    q.read (q.closing :: following) = some ([], following) := by
  cases following with
  | nil => rw [read, if_pos rfl]
  | cons d rest =>
    have other : d ≠ q.closing := fun same => ends (congrArg some same)
    rw [read, if_pos rfl, if_neg other]

theorem read_doubled :
    q.read (q.closing :: q.closing :: rest) = (q.read rest).map (Prod.map (q.closing :: ·) id) := by
  rw [read, if_pos rfl, if_pos rfl]

theorem read_lead (lead : q.lead? = some c) (open_still : c ≠ q.closing) :
    q.read (c :: d :: rest) = (q.read rest).map (Prod.map (q.meaning d ++ ·) id) := by
  rw [read, if_neg open_still, if_pos lead]

theorem read_plain (open_still : c ≠ q.closing) (no_lead : q.lead? ≠ some c) :
    q.read (c :: rest) = (q.read rest).map (Prod.map (c :: ·) id) := by
  cases rest with
  | nil => exact if_neg open_still
  | cons d rest => rw [read, if_neg open_still, if_neg no_lead]

theorem read_image (faithful : q.IsFaithful) :
    q.read (q.image c ++ rest) = (q.read rest).map (Prod.map (c :: ·) id) := by
  unfold image
  by_cases closes : c = q.closing
  · rw [if_pos (.inl closes), closes]
    exact read_doubled
  · by_cases lead : q.lead? = some c
    · rw [if_pos (.inr lead)]
      have step : q.read (c :: c :: rest) = _ := read_lead lead closes
      rwa [(faithful c lead).2] at step
    · rw [if_neg (not_or.mpr ⟨closes, lead⟩)]
      exact read_plain closes lead

end Steps

variable {q} {s t : List Char}

theorem read_flatMap_image (faithful : q.IsFaithful) {following : List Char}
    (ends : following.head? ≠ some q.closing) :
    q.read (s.flatMap q.image ++ q.closing :: following) = some (s, following) := by
  induction s with
  | nil => exact read_closing ends
  | cons c s ih =>
    rw [List.flatMap_cons, List.append_assoc, read_image faithful, ih]
    rfl

theorem reads_write (faithful : q.IsFaithful) : q.Reads (q.write s) s := by
  intro following ends
  rw [write, List.cons_append, List.append_assoc, lex, if_pos rfl]
  exact read_flatMap_image faithful ends

theorem Reads.append_inj {written written' following following' : List Char}
    (reads : q.Reads written s)
    (reads' : q.Reads written' t) (ends : following.head? ≠ some q.closing)
    (ends' : following'.head? ≠ some q.closing)
    (same : written ++ following = written' ++ following') : s = t ∧ following = following' := by
  have read := reads following ends
  rw [same, reads' following' ends'] at read
  obtain ⟨same_text, same_rest⟩ := Prod.mk.inj (Option.some.inj read)
  exact ⟨same_text.symm, same_rest.symm⟩

end Quotation

end SchemaMigration.Text
