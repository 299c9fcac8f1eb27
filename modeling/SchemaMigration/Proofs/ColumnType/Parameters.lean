import SchemaMigration.Proofs.ColumnType.Resolution

/-! The tokens of parameters. Types that a table knows lose the spaces in their parameters. Nothing
else is lost, and the parameters say the same as before unless a space alone keeps two words
apart. -/

namespace SchemaMigration.ColumnType

def isMark (c : Char) : Bool := c == ',' || c == '(' || c == ')'

def isWordChar (c : Char) : Bool := c != ' ' && !isMark c

def startsWord (s : List Char) : Bool := s.head?.any isWordChar

/-- The marks of a text and its words, which are the longest runs of other characters than
spaces. -/
def tokens : List Char → List (List Char)
  | [] => []
  | c :: rest =>
    if c = ' ' then tokens rest
    else if isWordChar c && startsWord rest then (tokens rest).modifyHead (c :: ·)
    else [c] :: tokens rest

/-- Whether two words of a text always have a mark between them. -/
def IsMarked (s : List Char) : Prop :=
  ∀ before c spaces d after, s = before ++ c :: (spaces ++ d :: after) → spaces ≠ [] →
    (∀ x ∈ spaces, x = ' ') →
    ¬(isWordChar c = true ∧ isWordChar d = true)

def unspaced (s : List Char) : List Char := s.filter (· != ' ')

variable {c : Char} {s rest : List Char}

section Unspaced

@[simp] theorem unspaced_unspaced : unspaced (unspaced s) = unspaced s := by
  simp [unspaced, List.filter_filter]

@[simp] theorem unspaced_space : unspaced (' ' :: s) = unspaced s := rfl

theorem unspaced_cons (other : c ≠ ' ') : unspaced (c :: s) = c :: unspaced s :=
  List.filter_cons_of_pos (bne_iff_ne.mpr other)

theorem ne_space_of_isWordChar (word : isWordChar c = true) : c ≠ ' ' := by
  rintro rfl
  cases word

theorem startsWord_iff : startsWord s = true ↔ ∃ d rest, s = d :: rest ∧ isWordChar d = true := by
  cases s <;> simp [startsWord]

theorem startsWord_unspaced (starts : startsWord s = true) : startsWord (unspaced s) = true := by
  obtain ⟨d, rest, rfl, word⟩ := startsWord_iff.mp starts
  rw [unspaced_cons (ne_space_of_isWordChar word)]
  exact word

theorem startsWord_unspaced_iff : startsWord (unspaced s) = true ↔
    ∃ spaces d after, s = spaces ++ d :: after ∧ (∀ x ∈ spaces, x = ' ') ∧ isWordChar d = true := by
  constructor
  · intro starts
    induction s with
    | nil => cases starts
    | cons c rest ih =>
      by_cases space : c = ' '
      · obtain ⟨spaces, d, after, rfl, all_spaces, word⟩ :=
          ih (by rwa [space, unspaced_space] at starts)
        exact ⟨c :: spaces, d, after, rfl, List.forall_mem_cons.mpr ⟨space, all_spaces⟩, word⟩
      · rw [unspaced_cons space] at starts
        exact ⟨[], c, rest, rfl, nofun, starts⟩
  · rintro ⟨spaces, d, after, rfl, all_spaces, word⟩
    have nothing : unspaced spaces = [] := List.filter_eq_nil_iff.mpr fun x hx => by
      simp [all_spaces x hx]
    rw [unspaced, List.filter_append, ← unspaced, nothing, List.nil_append]
    exact startsWord_unspaced word

end Unspaced

section Tokens

@[simp] theorem tokens_space : tokens (' ' :: s) = tokens s := rfl

theorem tokens_inside (word : isWordChar c = true) (starts : startsWord s = true) :
    tokens (c :: s) = (tokens s).modifyHead (c :: ·) := by
  rw [tokens, if_neg (ne_space_of_isWordChar word), word, starts]
  rfl

theorem tokens_last (other : c ≠ ' ') (last : ¬(isWordChar c = true ∧ startsWord s = true)) :
    tokens (c :: s) = [c] :: tokens s := by
  rw [tokens, if_neg other, if_neg (by simpa using last)]

theorem flatten_tokens : (tokens s).flatten = unspaced s := by
  induction s with
  | nil => rfl
  | cons c rest ih =>
    by_cases space : c = ' '
    · rw [space, tokens_space, unspaced_space, ih]
    · rw [unspaced_cons space, ← ih]
      by_cases inside : isWordChar c = true ∧ startsWord rest = true
      · rw [tokens_inside inside.1 inside.2]
        cases rest_tokens : tokens rest with
        | nil =>
          have starts := startsWord_unspaced inside.2
          rw [← ih, rest_tokens] at starts
          cases starts
        | cons word more => rfl
      · rw [tokens_last space inside, List.flatten_cons, List.singleton_append]

theorem length_tokens_unspaced_le : (tokens (unspaced s)).length ≤ (tokens s).length := by
  induction s with
  | nil => exact Nat.le_refl _
  | cons c rest ih =>
    by_cases space : c = ' '
    · rwa [space, unspaced_space]
    · rw [unspaced_cons space]
      by_cases inside : isWordChar c = true ∧ startsWord rest = true
      · rw [tokens_inside inside.1 inside.2, tokens_inside inside.1 (startsWord_unspaced inside.2),
          List.length_modifyHead, List.length_modifyHead]
        exact ih
      · rw [tokens_last space inside, List.length_cons]
        by_cases joined : isWordChar c = true ∧ startsWord (unspaced rest) = true
        · rw [tokens_inside joined.1 joined.2, List.length_modifyHead]
          exact Nat.le_succ_of_le ih
        · rw [tokens_last space joined, List.length_cons]
          exact Nat.succ_le_succ ih

theorem modifyHead_cons_inj {xs ys : List (List Char)} :
    xs.modifyHead (c :: ·) = ys.modifyHead (c :: ·) ↔ xs = ys := by
  cases xs <;> cases ys <;> simp

end Tokens

def Resumes (s : List Char) : Prop := startsWord s = false ∧ startsWord (unspaced s) = true

theorem resumes_iff : Resumes s ↔
    ∃ spaces d after, s = spaces ++ d :: after ∧ spaces ≠ [] ∧ (∀ x ∈ spaces, x = ' ') ∧
      isWordChar d = true := by
  rw [Resumes, startsWord_unspaced_iff]
  constructor
  · rintro ⟨no_word, spaces, d, after, rfl, all_spaces, word⟩
    refine ⟨spaces, d, after, rfl, ?_, all_spaces, word⟩
    rintro rfl
    exact absurd (no_word.symm.trans word) Bool.false_ne_true
  · rintro ⟨spaces, d, after, rfl, some_space, all_spaces, word⟩
    obtain ⟨x, more, rfl⟩ := List.exists_cons_of_ne_nil some_space
    refine ⟨?_, _, d, after, rfl, all_spaces, word⟩
    rw [all_spaces x List.mem_cons_self]
    rfl

theorem isMarked_cons_iff : IsMarked (c :: rest) ↔ ¬(isWordChar c = true ∧ Resumes rest) ∧
    IsMarked rest := by
  rw [resumes_iff]
  constructor
  · refine fun marked => ⟨?_, fun before c' spaces d after text =>
      marked (c :: before) c' spaces d after (by simp [text])⟩
    rintro ⟨word, spaces, d, after, text, some_space, all_spaces, next_word⟩
    exact marked [] c spaces d after (by simp [text]) some_space all_spaces ⟨word, next_word⟩
  · rintro ⟨no_gap, marked⟩ before c' spaces d after text some_space all_spaces words
    cases before with
    | nil =>
      obtain ⟨rfl, rest_eq⟩ := List.cons.inj text
      exact no_gap ⟨words.1, spaces, d, after, rest_eq, some_space, all_spaces, words.2⟩
    | cons b before =>
      obtain ⟨-, rest_eq⟩ := List.cons.inj text
      exact marked before c' spaces d after rest_eq some_space all_spaces words

theorem tokens_unspaced_ne (word : isWordChar c = true) (resumes : Resumes rest) :
    tokens (c :: unspaced rest) ≠ tokens (c :: rest) := by
  obtain ⟨no_word, joined⟩ := resumes
  have last : ¬(isWordChar c = true ∧ startsWord rest = true) := fun inside =>
    Bool.false_ne_true (no_word.symm.trans inside.2)
  have fewer := length_tokens_unspaced_le (s := rest)
  intro same
  have lengths := congrArg List.length same
  rw [tokens_inside word joined, tokens_last (ne_space_of_isWordChar word) last,
    List.length_modifyHead, List.length_cons] at lengths
  omega

theorem tokens_unspaced_eq_iff : tokens (unspaced s) = tokens s ↔ IsMarked s := by
  induction s with
  | nil => exact ⟨fun _ before c spaces d after text => by simp at text, fun _ => rfl⟩
  | cons c rest ih =>
    rw [isMarked_cons_iff, ← ih]
    by_cases space : c = ' '
    · have no_word : isWordChar c = false := space ▸ rfl
      simp [space, isWordChar]
    · rw [unspaced_cons space]
      by_cases gap : isWordChar c = true ∧ Resumes rest
      · exact iff_of_false (tokens_unspaced_ne gap.1 gap.2) fun both => both.1 gap
      · rw [and_iff_right gap]
        by_cases inside : isWordChar c = true ∧ startsWord rest = true
        · rw [tokens_inside inside.1 inside.2,
            tokens_inside inside.1 (startsWord_unspaced inside.2), modifyHead_cons_inj]
        · have still_last : ¬(isWordChar c = true ∧ startsWord (unspaced rest) = true) :=
            fun joined =>
            gap ⟨joined.1, by simpa [joined.1] using inside, joined.2⟩
          rw [tokens_last space inside, tokens_last space still_last, List.cons_inj_right]

namespace Mapping

variable {m : Mapping} {declared stored : String} {base parameters : List Char}

theorem resolve_of_declares (declares : Declares declared.toList base parameters)
    (known : m.types.lookup (Text.upper (String.ofList base)) = some stored)
    (bare : '(' ∉ stored.toList) :
    m.resolve declared false = stored ++ String.ofList (unspaced parameters) := by
  have split_eq := split_of_declares declares
  rw [resolve_of_known (by rw [split_eq]; exact known), if_neg bare, split_eq, unspaced]

/-- Where a table knows the base of a declared type, and leads it to a type without parentheses of
its own, the declared parameters are kept behind that without their spaces. They have the same
tokens as before exactly if their words always have a mark between them. -/
theorem keeps_tokens_iff (dialect : Option Dialect)
    (declares : Declares declared.toList base parameters)
    (some_parameters : parameters ≠ [])
    (known : (of dialect).types.lookup (Text.upper (String.ofList base)) = some stored)
    (bare : '(' ∉ stored.toList) :
    (of dialect).resolve declared false = stored ++ String.ofList (unspaced parameters) ∧
    isParameters (unspaced parameters) = true ∧
    (tokens (unspaced parameters)).flatten = (tokens parameters).flatten ∧
    ((∃ kept, (of dialect).resolve declared false = stored ++ String.ofList kept ∧
      tokens kept = tokens parameters) ↔
      IsMarked parameters) := by
  have resolved := resolve_of_declares declares known bare
  refine ⟨resolved, isParameters_unspaced (declares.enclosed.resolve_left some_parameters), ?_, ?_⟩
  · rw [flatten_tokens, flatten_tokens, unspaced_unspaced]
  · rw [← tokens_unspaced_eq_iff]
    refine ⟨?_, fun same => ⟨_, resolved, same⟩⟩
    rintro ⟨kept, kept_eq, same⟩
    rw [resolved] at kept_eq
    rwa [String.ofList_inj.mp ((String.append_right_inj stored).mp kept_eq)]

theorem keeps_tokens_iff_scale :
    Declares "\tdecimal ( 10 , 2 )".toList "decimal".toList "( 10 , 2 )".toList ∧
    "( 10 , 2 )".toList ≠ [] ∧
    (of (some .postgresql)).types.lookup (Text.upper (String.ofList "decimal".toList)) =
      some "DECIMAL" ∧
    '(' ∉ "DECIMAL".toList ∧ (of (some .postgresql)).resolve "\tdecimal ( 10 , 2 )" false =
      "DECIMAL(10,2)" ∧
    IsMarked "( 10 , 2 )".toList := by
  have declares : Declares "\tdecimal ( 10 , 2 )".toList "decimal".toList "( 10 , 2 )".toList :=
    parts?_eq_some_iff.mp (by decide +kernel)
  have known : (of (some .postgresql)).types.lookup (Text.upper (String.ofList "decimal".toList)) =
      some "DECIMAL" := by
    decide +kernel
  have bare : '(' ∉ "DECIMAL".toList := by decide
  have resolved : (of (some .postgresql)).resolve "\tdecimal ( 10 , 2 )" false =
    "DECIMAL(10,2)" := by decide +kernel
  obtain ⟨-, -, -, keeps⟩ := keeps_tokens_iff (some .postgresql) declares (by decide) known bare
  have same : tokens "(10,2)".toList = tokens "( 10 , 2 )".toList := by decide +kernel
  exact ⟨declares, by decide, known, bare, resolved, keeps.mp ⟨"(10,2)".toList, resolved, same⟩⟩

/-- The unit of a length is glued to the number that it stands behind. -/
theorem tokens_lost_in_length :
    Declares "VARCHAR(30 CHAR)".toList "VARCHAR".toList "(30 CHAR)".toList ∧
    (of (some .oracle)).types.lookup (Text.upper (String.ofList "VARCHAR".toList)) =
      some "VARCHAR2" ∧
    (of (some .oracle)).resolve "VARCHAR(30 CHAR)" false = "VARCHAR2(30CHAR)" ∧
    ¬∃ kept, (of (some .oracle)).resolve "VARCHAR(30 CHAR)" false = "VARCHAR2" ++
      String.ofList kept ∧
      tokens kept = tokens "(30 CHAR)".toList := by
  have resolved : (of (some .oracle)).resolve "VARCHAR(30 CHAR)" false = "VARCHAR2" ++
      String.ofList "(30CHAR)".toList := by
    decide +kernel
  refine ⟨parts?_eq_some_iff.mp (by decide +kernel), by decide +kernel, resolved, ?_⟩
  rintro ⟨kept, kept_eq, same⟩
  rw [resolved, String.append_right_inj, String.ofList_inj] at kept_eq
  have different : tokens "(30CHAR)".toList ≠ tokens "(30 CHAR)".toList := by decide +kernel
  exact different (kept_eq ▸ same)

end Mapping

end SchemaMigration.ColumnType
