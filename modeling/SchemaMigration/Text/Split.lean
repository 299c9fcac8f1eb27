
namespace SchemaMigration.Text

def splitOn (separator : Char) : List Char → List (List Char)
  | [] => [[]]
  | c :: rest =>
    match splitOn separator rest with
    | [] => [[c]]
    | part :: parts => if c == separator then [] :: part :: parts else (c :: part) :: parts

def joinOn (separator : Char) : List (List Char) → List Char
  | [] => []
  | [part] => part
  | part :: rest => part ++ separator :: joinOn separator rest

theorem splitOn_ne_nil (separator : Char) (s : List Char) : splitOn separator s ≠ [] := by
  cases s with
  | nil => simp [splitOn]
  | cons c rest =>
    rw [splitOn]
    split
    · simp
    · split <;> simp

section Parts

variable {separator c : Char} {s part : List Char} {parts : List (List Char)}

@[simp] theorem splitOn_separator :
    splitOn separator (separator :: s) = [] :: splitOn separator s := by
  rw [splitOn]
  split
  next none_left => exact absurd none_left (splitOn_ne_nil separator s)
  next first rest found => rw [if_pos (beq_self_eq_true separator), found]

theorem splitOn_cons (other : c ≠ separator) :
    splitOn separator (c :: s) = (splitOn separator s).modifyHead (c :: ·) := by
  rw [splitOn]
  split
  next none_left => exact absurd none_left (splitOn_ne_nil separator s)
  next first rest found => rw [if_neg (mt eq_of_beq other), found, List.modifyHead_cons]

theorem joinOn_cons (some_part : parts ≠ []) :
    joinOn separator (part :: parts) = part ++ separator :: joinOn separator parts := by
  cases parts with
  | nil => exact absurd rfl some_part
  | cons first rest => rfl

theorem joinOn_modifyHead (some_part : parts ≠ []) :
    joinOn separator (parts.modifyHead (c :: ·)) = c :: joinOn separator parts := by
  cases parts with
  | nil => exact absurd rfl some_part
  | cons first rest => cases rest <;> rfl

@[simp] theorem joinOn_splitOn (separator : Char) (s : List Char) :
    joinOn separator (splitOn separator s) = s := by
  induction s with
  | nil => rfl
  | cons c rest ih =>
    have some_part := splitOn_ne_nil separator rest
    by_cases same : c = separator
    · rw [same, splitOn_separator, joinOn_cons some_part, ih, List.nil_append]
    · rw [splitOn_cons same, joinOn_modifyHead some_part, ih]

theorem splitOn_append (s t : List Char) :
    splitOn separator (s ++ separator :: t) = splitOn separator s ++ splitOn separator t := by
  induction s with
  | nil => exact splitOn_separator
  | cons c s ih =>
    rw [List.cons_append]
    by_cases same : c = separator
    · subst same
      rw [splitOn_separator, splitOn_separator, ih, List.cons_append]
    · obtain ⟨first, rest, found⟩ := List.exists_cons_of_ne_nil (splitOn_ne_nil separator s)
      rw [splitOn_cons same, splitOn_cons same, ih, found, List.cons_append, List.modifyHead_cons,
        List.modifyHead_cons, List.cons_append]

theorem splitOn_of_notMem (plain : separator ∉ s) : splitOn separator s = [s] := by
  induction s with
  | nil => rfl
  | cons c s ih =>
    obtain ⟨other, plain⟩ := List.ne_and_not_mem_of_not_mem_cons plain
    rw [splitOn_cons other.symm, ih plain, List.modifyHead_cons]

theorem splitOn_joinOn (some_part : parts ≠ []) (plain : ∀ part ∈ parts, separator ∉ part) :
    splitOn separator (joinOn separator parts) = parts := by
  fun_induction joinOn separator parts with
  | case1 => exact absurd rfl some_part
  | case2 part => exact splitOn_of_notMem (plain part List.mem_cons_self)
  | case3 part rest more ih =>
    rw [splitOn_append, splitOn_of_notMem (plain part List.mem_cons_self),
      ih more fun p hp => plain p (.tail _ hp), List.singleton_append]

theorem notMem_of_mem_splitOn (found : part ∈ splitOn separator s) : separator ∉ part := by
  induction s generalizing part with
  | nil =>
    rw [List.mem_singleton.mp found]
    exact List.not_mem_nil
  | cons c s ih =>
    by_cases same : c = separator
    · subst same
      rw [splitOn_separator] at found
      rcases List.mem_cons.mp found with rfl | found
      · exact List.not_mem_nil
      · exact ih found
    · obtain ⟨first, rest, split_eq⟩ := List.exists_cons_of_ne_nil (splitOn_ne_nil separator s)
      rw [splitOn_cons same, split_eq, List.modifyHead_cons] at found
      rw [split_eq] at ih
      rcases List.mem_cons.mp found with rfl | found
      · exact List.not_mem_cons_of_ne_of_not_mem (Ne.symm same) (ih List.mem_cons_self)
      · exact ih (List.mem_cons_of_mem _ found)

theorem mem_joinOn (found : c ∈ joinOn separator parts) :
    c = separator ∨ ∃ part ∈ parts, c ∈ part := by
  fun_induction joinOn separator parts with
  | case1 => cases found
  | case2 part => exact .inr ⟨part, List.mem_cons_self, found⟩
  | case3 part rest more ih =>
    rcases List.mem_append.mp found with in_part | found
    · exact .inr ⟨part, List.mem_cons_self, in_part⟩
    · rcases List.mem_cons.mp found with same | in_rest
      · exact .inl same
      · exact (ih in_rest).imp_right fun ⟨p, hp, in_p⟩ => ⟨p, List.mem_cons_of_mem _ hp, in_p⟩

theorem mem_joinOn_of_mem (found : part ∈ parts) (there : c ∈ part) :
    c ∈ joinOn separator parts := by
  fun_induction joinOn separator parts with
  | case1 => cases found
  | case2 only => exact List.mem_singleton.mp found ▸ there
  | case3 first rest more ih =>
    rcases List.mem_cons.mp found with rfl | in_rest
    · exact List.mem_append_left _ there
    · exact List.mem_append_right _ (List.mem_cons_of_mem _ (ih in_rest))

theorem mem_of_mem_splitOn (found : part ∈ splitOn separator s) (there : c ∈ part) : c ∈ s := by
  rw [← joinOn_splitOn separator s]
  exact mem_joinOn_of_mem found there

end Parts

def contains (part : List Char) : List Char → Bool
  | [] => part.isEmpty
  | c :: rest => part.isPrefixOf (c :: rest) || contains part rest

def replaceChar (target : Char) (image : List Char) (s : List Char) : List Char :=
  s.flatMap fun c => if c == target then image else [c]

def join (separator : String) (parts : List String) : String := separator.intercalate parts

end SchemaMigration.Text
