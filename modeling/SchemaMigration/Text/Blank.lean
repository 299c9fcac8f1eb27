
namespace SchemaMigration.Text

def isBlank (c : Char) : Bool :=
  let n := c.toNat
  (0x09 ≤ n && n ≤ 0x0D) || (0x1C ≤ n && n ≤ 0x20) || n == 0x85 || n == 0xA0 || n == 0x1680 ||
    (0x2000 ≤ n && n ≤ 0x200A) || n == 0x2028 || n == 0x2029 || n == 0x202F || n == 0x205F ||
    n == 0x3000

def trimStart (s : List Char) : List Char := s.dropWhile isBlank

def trimEnd (s : List Char) : List Char := (s.reverse.dropWhile isBlank).reverse

def trimChars (s : List Char) : List Char := trimEnd (trimStart s)

theorem dropWhile_head {p : Char → Bool} {s : List Char} {c : Char} {rest : List Char}
    (h : s.dropWhile p = c :: rest) : p c = false := by
  induction s with
  | nil => simp at h
  | cons d s ih =>
    rw [List.dropWhile_cons] at h
    split at h
    · exact ih h
    · next hd => cases h; simpa using hd

theorem trimStart_eq_self {s : List Char} (h : ∀ c ∈ s.head?, isBlank c = false) :
    trimStart s = s := by
  cases s with
  | nil => rfl
  | cons c rest => simp [trimStart, h c (by simp)]

theorem trimEnd_eq_self {s : List Char} (h : ∀ c ∈ s.getLast?, isBlank c = false) :
    trimEnd s = s := by
  rw [trimEnd, show s.reverse.dropWhile isBlank = s.reverse
    from trimStart_eq_self (by simpa using h), List.reverse_reverse]

theorem head?_trimChars {s : List Char} : ∀ c ∈ (trimChars s).head?, isBlank c = false := by
  intro c hc
  cases hs : trimStart s with
  | nil => simp [trimChars, trimEnd, hs] at hc
  | cons d rest =>
    have hd : isBlank d = false := dropWhile_head hs
    have : (trimChars s).head? = some d := by
      rw [trimChars, hs, trimEnd, List.head?_reverse, List.reverse_cons, List.dropWhile_append]
      split
      · simp [hd]
      · simp
    rw [this] at hc
    cases hc
    exact hd

theorem getLast?_trimChars {s : List Char} : ∀ c ∈ (trimChars s).getLast?, isBlank c = false := by
  intro c hc
  rw [trimChars, trimEnd, List.getLast?_reverse] at hc
  cases hr : (trimStart s).reverse.dropWhile isBlank with
  | nil => simp [hr] at hc
  | cons d rest =>
    rw [hr] at hc
    cases hc
    exact dropWhile_head hr

theorem trimChars_eq_self {s : List Char} (hs : ∀ c ∈ s.head?, isBlank c = false)
    (he : ∀ c ∈ s.getLast?, isBlank c = false) : trimChars s = s := by
  rw [trimChars, trimStart_eq_self hs, trimEnd_eq_self he]

@[simp] theorem trimChars_trimChars (s : List Char) : trimChars (trimChars s) = trimChars s :=
  trimChars_eq_self head?_trimChars getLast?_trimChars

def trim (s : String) : String := String.ofList (trimChars s.toList)

@[simp] theorem trim_trim (s : String) : trim (trim s) = trim s := by simp [trim]

def trimmed? (s : String) : Option String :=
  if (trim s).isEmpty then none else some (trim s)

def nonBlank? (s : Option String) : Option String := s.bind trimmed?

@[simp] theorem nonBlank?_none : nonBlank? none = none := rfl

@[simp] theorem nonBlank?_nonBlank? (s : Option String) :
    nonBlank? (nonBlank? s) = nonBlank? s := by
  cases s with
  | none => rfl
  | some s =>
    simp only [nonBlank?, Option.bind_some, trimmed?]
    split
    · rfl
    · next h => simp only [Option.bind_some, trimmed?, trim_trim, if_neg h]

end SchemaMigration.Text
