import SchemaMigration.ColumnType
import SchemaMigration.Proofs.Text.Trimming

namespace SchemaMigration.ColumnType

structure IsBase (base : List Char) : Prop where
  starts : ∃ c ∈ base.head?, isBaseStart c = true
  chars : ∀ c ∈ base, isBaseChar c = true
  ends : base.getLast? ≠ some ' '

def AreParameters (s : List Char) : Prop := s = [] ∨ isParameters s = true

/-- Whether a text declares a type by its base and its parameters. -/
structure Declares (declared base parameters : List Char) : Prop where
  is_base : IsBase base
  enclosed : AreParameters parameters
  padded : ∃ before gap after, Text.AreBlank before ∧ Text.AreBlank gap ∧ Text.AreBlank after ∧
    declared = before ++ (base ++ gap ++ parameters) ++ after

variable {c : Char} {s declared base gap parameters : List Char}

theorem isBaseChar_of_isBlank (blank : Text.isBlank c = true) : isBaseChar c = (c == ' ') := by
  have other : (isBaseStart c || ('0' ≤ c && c ≤ '9')) = false := by
    simp only [Text.isBlank, Bool.or_eq_true, Bool.and_eq_true, decide_eq_true_eq, beq_iff_eq]
      at blank
    simp only [isBaseStart, Bool.or_eq_false_iff, Bool.and_eq_false_iff, decide_eq_false_iff_not,
      beq_eq_false_iff_ne,
      ne_eq, Char.le_def, UInt32.le_iff_toNat_le, ← Char.toNat_inj, Char.toNat_val]
    simp only [Char.reduceToNat]
    omega
  rw [isBaseChar, other, Bool.false_or]

theorem isBaseChar_of_isBaseStart (start : isBaseStart c = true) : isBaseChar c = true := by
  simp [isBaseChar, start]

theorem isBlank_of_isBaseStart (start : isBaseStart c = true) : Text.isBlank c = false := by
  rw [← Bool.not_eq_true]
  intro blank
  have space : (c == ' ') = true :=
    (isBaseChar_of_isBlank blank).symm.trans (isBaseChar_of_isBaseStart start)
  rw [beq_iff_eq.mp space] at start
  cases start

theorem isParameters_iff :
    isParameters s = true ↔ ∃ rest, s = '(' :: rest ∧ rest.getLast? = some ')' ∧ '\n' ∉ rest := by
  unfold isParameters
  split <;> simp_all

theorem eq_nil_or_cons_of_areParameters (enclosed : AreParameters s) :
    s = [] ∨ ∃ rest, s = '(' :: rest :=
  enclosed.imp_right fun h =>
    let ⟨rest, starts, _⟩ := isParameters_iff.mp h
    ⟨rest, starts⟩

theorem isBlank_getLast?_of_isParameters (enclosed : isParameters parameters = true)
    (front : List Char) :
    ∀ d ∈ (front ++ parameters).getLast?, Text.isBlank d = false := by
  obtain ⟨inner, rfl, stops, -⟩ := isParameters_iff.mp enclosed
  simp [List.getLast?_append, List.getLast?_cons, stops, Text.isBlank]

theorem takeWhile_isBaseChar (blank : Text.AreBlank gap) (enclosed : AreParameters parameters) :
    (gap ++ parameters).takeWhile isBaseChar = gap.takeWhile (· == ' ') := by
  induction gap with
  | nil =>
    obtain rfl | ⟨rest, rfl⟩ := eq_nil_or_cons_of_areParameters enclosed <;> rfl
  | cons g rest ih =>
    obtain ⟨first, others⟩ := List.forall_mem_cons.mp blank
    rw [List.cons_append, List.takeWhile_cons, List.takeWhile_cons,
      isBaseChar_of_isBlank first, ih others]

theorem dropWhile_isBaseChar (blank : Text.AreBlank gap) (enclosed : AreParameters parameters) :
    (gap ++ parameters).dropWhile isBaseChar = gap.dropWhile (· == ' ') ++ parameters := by
  induction gap with
  | nil =>
    obtain rfl | ⟨rest, rfl⟩ := eq_nil_or_cons_of_areParameters enclosed <;> rfl
  | cons g rest ih =>
    obtain ⟨first, others⟩ := List.forall_mem_cons.mp blank
    rw [List.cons_append, List.dropWhile_cons, List.dropWhile_cons,
      isBaseChar_of_isBlank first, ih others]
    split <;> rfl

theorem IsBase.isBlank_getLast? (is_base : IsBase base) :
    ∀ c ∈ base.getLast?, Text.isBlank c = false := by
  intro c last
  rw [← Bool.not_eq_true]
  intro blank
  have space :=
    (isBaseChar_of_isBlank blank).symm.trans (is_base.chars c (List.mem_of_mem_getLast? last))
  rw [beq_iff_eq.mp space] at last
  exact is_base.ends last

theorem IsBase.unpadded (is_base : IsBase base) :
    ((base ++ gap.takeWhile (· == ' ')).reverse.dropWhile (· == ' ')).reverse = base := by
  have spaces : ∀ d ∈ (gap.takeWhile (· == ' ')).reverse, (d == ' ') = true := fun d hd =>
    List.mem_takeWhile_imp (p := (· == ' ')) (List.mem_reverse.mp hd)
  have no_space : ∀ h : 0 < base.reverse.length, ¬(base.reverse[0] == ' ') = true :=
    fun h space => by
    refine is_base.ends ?_
    rw [← List.head?_reverse, List.head?_eq_getElem?, List.getElem?_eq_getElem h,
      beq_iff_eq.mp space]
  rw [List.reverse_append, List.dropWhile_append_of_pos spaces,
    List.dropWhile_eq_self_iff.mpr no_space, List.reverse_reverse]

theorem parts?_of_trimChars (core : Text.trimChars declared = base ++ (gap ++ parameters))
    (is_base : IsBase base)
    (blank : Text.AreBlank gap) (enclosed : AreParameters parameters) :
    parts? declared = some (base, parameters) := by
  have written : (Text.trimChars declared).takeWhile isBaseChar = base ++
      gap.takeWhile (· == ' ') := by
    rw [core, List.takeWhile_append_of_pos is_base.chars, takeWhile_isBaseChar blank enclosed]
  have remaining : ((Text.trimChars declared).dropWhile isBaseChar).dropWhile Text.isBlank =
      parameters := by
    rw [core, List.dropWhile_append_of_pos is_base.chars, dropWhile_isBaseChar blank enclosed,
      List.dropWhile_append_of_pos fun d hd => blank d ((List.dropWhile_sublist _).subset hd)]
    obtain rfl | ⟨rest, rfl⟩ := eq_nil_or_cons_of_areParameters enclosed <;> rfl
  have accepted : (parameters.isEmpty || isParameters parameters) = true := by
    rcases enclosed with rfl | enclosed
    · rfl
    · rw [enclosed, Bool.or_true]
  obtain ⟨c, first, starts⟩ := is_base.starts
  obtain ⟨rest, rfl⟩ := List.head?_eq_some_iff.mp first
  unfold parts?
  dsimp only
  rw [written, remaining, is_base.unpadded, core]
  simp [starts, accepted]

theorem trimChars_append (is_base : IsBase base) (enclosed : AreParameters parameters) :
    Text.trimChars (base ++ parameters) = base ++ parameters := by
  obtain ⟨c, first, start⟩ := is_base.starts
  refine Text.trimChars_eq_self ?_ ?_
  · rw [List.head?_append, Option.mem_def.mp first]
    exact fun d hd => Option.some.inj hd ▸ isBlank_of_isBaseStart start
  · rcases enclosed with rfl | enclosed
    · rw [List.append_nil]
      exact is_base.isBlank_getLast?
    · exact isBlank_getLast?_of_isParameters enclosed base

theorem Declares.exists_trimChars (declares : Declares declared base parameters) :
    ∃ gap, Text.AreBlank gap ∧ Text.trimChars declared = base ++ (gap ++ parameters) := by
  obtain ⟨is_base, enclosed, before, gap, after, blank_before, blank_gap, blank_after, rfl⟩ :=
    declares
  obtain ⟨c, first, starts⟩ := is_base.starts
  obtain ⟨rest, rfl⟩ := List.head?_eq_some_iff.mp first
  have not_blank : ∀ tail, ∃ d ∈ ((c :: rest) ++ tail).head?, Text.isBlank d = false := fun tail =>
    ⟨c, rfl, isBlank_of_isBaseStart starts⟩
  rcases enclosed with rfl | enclosed
  · have blank_behind : Text.AreBlank (gap ++ after) :=
      List.forall_mem_append.mpr ⟨blank_gap, blank_after⟩
    have ends : ∀ d ∈ ((c :: rest) ++ []).getLast?, Text.isBlank d = false := by
      rw [List.append_nil]
      exact is_base.isBlank_getLast?
    refine ⟨[], nofun, ?_⟩
    have trimmed := Text.trimChars_padded blank_before blank_behind (not_blank []) ends
    simpa using trimmed
  · have ends := isBlank_getLast?_of_isParameters enclosed (c :: rest ++ gap)
    refine ⟨gap, blank_gap, ?_⟩
    have trimmed := Text.trimChars_padded blank_before blank_after (not_blank (gap ++ parameters))
      (by simpa using ends)
    simpa using trimmed

theorem isBase_of_starts {rest : List Char} (start : isBaseStart c = true)
    (chars : ∀ d ∈ c :: rest, isBaseChar d = true) :
    IsBase ((c :: rest).reverse.dropWhile (· == ' ')).reverse := by
  have no_space : (c == ' ') = false := by
    rw [beq_eq_false_iff_ne]
    rintro rfl
    cases start
  refine ⟨⟨c, ?_, start⟩, fun d hd => ?_, fun last => ?_⟩
  · rw [List.head?_reverse, List.reverse_cons, List.dropWhile_append]
    split
    · simp [no_space]
    · simp
  · exact chars d (List.mem_reverse.mp ((List.dropWhile_sublist _).subset (List.mem_reverse.mp hd)))
  · rw [List.getLast?_reverse] at last
    obtain ⟨tail, dropped⟩ := List.head?_eq_some_iff.mp last
    have other := Text.dropWhile_head dropped
    cases other

theorem exists_spaces (s : List Char) :
    ∃ spaces, Text.AreBlank spaces ∧ s = (s.reverse.dropWhile (· == ' ')).reverse ++ spaces := by
  refine ⟨(s.reverse.takeWhile (· == ' ')).reverse, fun d there => ?_, ?_⟩
  · have space := List.mem_takeWhile_imp (p := (· == ' ')) (List.mem_reverse.mp there)
    rw [beq_iff_eq.mp space]
    rfl
  · rw [← List.reverse_append, List.takeWhile_append_dropWhile, List.reverse_reverse]

theorem exists_gap (s : List Char) : ∃ gap, Text.AreBlank gap ∧
    s = ((s.takeWhile isBaseChar).reverse.dropWhile (· == ' ')).reverse ++ gap ++
      (s.dropWhile isBaseChar).dropWhile Text.isBlank := by
  obtain ⟨spaces, blank_spaces, written⟩ := exists_spaces (s.takeWhile isBaseChar)
  refine ⟨spaces ++ (s.dropWhile isBaseChar).takeWhile Text.isBlank,
    List.forall_mem_append.mpr ⟨blank_spaces, fun d => List.mem_takeWhile_imp⟩, ?_⟩
  rw [← List.append_assoc, ← written, List.append_assoc, List.takeWhile_append_dropWhile,
    List.takeWhile_append_dropWhile]

theorem declares_of_parts? (found : parts? declared = some (base, parameters)) :
    Declares declared base parameters := by
  unfold parts? at found
  dsimp only at found
  split at found
  next => cases found
  next c rest core =>
    split at found
    next accepted =>
      rw [core] at found accepted
      obtain ⟨start, enclosed⟩ := Bool.and_eq_true_iff.mp accepted
      obtain ⟨base_eq, parameters_eq⟩ := Prod.mk.inj (Option.some.inj found)
      obtain ⟨gap, blank_gap, whole⟩ := exists_gap (c :: rest)
      obtain ⟨before, after, blank_before, blank_after, padded⟩ :=
        (Text.isTrimming_trimChars declared).padded
      rw [base_eq, parameters_eq] at whole
      rw [core, whole] at padded
      refine ⟨?_, ?_, before, gap, after, blank_before, blank_gap, blank_after, padded⟩
      · have starts :=
          List.takeWhile_cons_of_pos (p := isBaseChar) (l := rest) (isBaseChar_of_isBaseStart start)
        rw [← base_eq, starts]
        exact isBase_of_starts start fun d hd => List.mem_takeWhile_imp (starts ▸ hd)
      · rw [← parameters_eq]
        simpa [AreParameters] using enclosed
    next => cases found

theorem parts?_eq_some_iff : parts? declared = some (base, parameters) ↔
    Declares declared base parameters := by
  refine ⟨declares_of_parts?, fun declares => ?_⟩
  obtain ⟨gap, blank, core⟩ := declares.exists_trimChars
  exact parts?_of_trimChars core declares.is_base blank declares.enclosed

theorem split_of_declares {declared : String}
    (declares : Declares declared.toList base parameters) :
    split declared = (Text.upper (String.ofList base),
      String.ofList (parameters.filter (· != ' '))) := by
  rw [split, parts?_eq_some_iff.mpr declares]

end SchemaMigration.ColumnType
