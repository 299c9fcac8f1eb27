import SchemaMigration.Proofs.ColumnType.Parts
import SchemaMigration.Proofs.Text.Pattern

/-! The grammar of declared types. A text can be read as a type in one way only, but for the blanks
at its end, which may stand behind the base as well as around the whole if there are no parentheses.

The pattern of types takes as few characters as possible for the base, which may have spaces inside;
so the first way to match it leaves the spaces behind the base to the blanks there. There is one
exactly where a text can be read as a type, and then it keeps what is read. Types are split by what
is kept. -/

namespace SchemaMigration.ColumnType

open Text (Match Pattern)
open Text.Pattern (Fits fits_group_iff fits_seq_iff isAscending_fewest maybe mem_ways_iff most stop)

def enclose : Option (List Char) → List Char
  | none => []
  | some inside => '(' :: (inside ++ [')'])

/-- A way to read a text as a type: blanks, its base, more blanks, perhaps parentheses on one line,
and blanks. -/
@[ext] structure Reading (declared : List Char) where
  before : List Char
  base : List Char
  gap : List Char
  inside? : Option (List Char)
  after : List Char
  blank_before : Text.AreBlank before
  is_base : IsBase base
  blank_gap : Text.AreBlank gap
  one_line : ∀ inside ∈ inside?, '\n' ∉ inside
  blank_after : Text.AreBlank after
  whole : declared = before ++ base ++ gap ++ enclose inside? ++ after

namespace Reading

variable {declared : List Char}

def parameters (r : Reading declared) : List Char := enclose r.inside?

/-- Whether two readings are one, but for where blanks at the end belong that have no parentheses
before them. -/
structure IsLike (r r' : Reading declared) : Prop where
  before_eq : r.before = r'.before
  base_eq : r.base = r'.base
  inside?_eq : r.inside? = r'.inside?
  blanks_eq : r.gap ++ r.after = r'.gap ++ r'.after

/-- Whether blanks at the end that have no parentheses before them are all counted as blanks around
the type. -/
def IsSettled (r : Reading declared) : Prop := r.inside? = none → r.gap = []

end Reading

variable {s declared base parameters : List Char} {inside? inside'? : Option (List Char)}
  {r r' : Reading declared}

theorem enclose_inj : enclose inside? = enclose inside'? ↔ inside? = inside'? := by
  cases inside? <;> cases inside'? <;> simp [enclose]

theorem areParameters_iff : AreParameters s ↔ ∃ inside?, s = enclose inside? ∧ ∀ inside ∈ inside?,
    '\n' ∉ inside := by
  rw [AreParameters, isParameters_iff]
  constructor
  · rintro (rfl | ⟨rest, rfl, stops, one_line⟩)
    · exact ⟨none, rfl, by simp⟩
    · obtain ⟨inside, rfl⟩ := List.getLast?_eq_some_iff.mp stops
      exact ⟨some inside, rfl, by simpa using one_line⟩
  · rintro ⟨_ | inside, rfl, one_line⟩
    · exact .inl rfl
    · exact .inr ⟨inside ++ [')'], rfl, by simp, by simpa using one_line⟩

theorem isBlank_head?_enclose (some_inside : inside? ≠ none) (behind : List Char) :
    ∃ c ∈ (enclose inside? ++ behind).head?, Text.isBlank c = false := by
  obtain ⟨inside, rfl⟩ := Option.ne_none_iff_exists'.mp some_inside
  exact ⟨'(', rfl, rfl⟩

theorem Reading.declares (r : Reading declared) : Declares declared r.base r.parameters := by
  refine ⟨r.is_base, areParameters_iff.mpr ⟨r.inside?, rfl, r.one_line⟩, r.before, r.gap, r.after,
    r.blank_before, r.blank_gap, r.blank_after, ?_⟩
  simpa [parameters] using r.whole

theorem Declares.exists_reading (declares : Declares declared base parameters) :
    ∃ r : Reading declared, r.base = base ∧ r.parameters = parameters := by
  obtain ⟨is_base, enclosed, before, gap, after, blank_before, blank_gap, blank_after, whole⟩ :=
    declares
  obtain ⟨inside?, rfl, one_line⟩ := areParameters_iff.mp enclosed
  exact ⟨⟨before, base, gap, inside?, after, blank_before, is_base, blank_gap, one_line,
      blank_after, by
    simpa using whole⟩, rfl, rfl⟩

theorem Reading.parts?_eq (r : Reading declared) : parts? declared = some (r.base, r.parameters) :=
  parts?_eq_some_iff.mpr r.declares

theorem parts?_eq_none_iff : parts? declared = none ↔ IsEmpty (Reading declared) := by
  constructor
  · intro none_found
    refine ⟨fun r => ?_⟩
    rw [r.parts?_eq] at none_found
    cases none_found
  · intro no_reading
    refine Option.eq_none_iff_forall_ne_some.mpr fun found parts => ?_
    obtain ⟨r, -⟩ := (parts?_eq_some_iff.mp parts).exists_reading
    exact no_reading.false r

theorem Reading.whole_eq (r : Reading declared) :
    declared = r.before ++ (r.base ++ (r.gap ++ (enclose r.inside? ++ r.after))) := by
  simpa using r.whole

theorem Reading.isBlank_head?_base (r : Reading declared) (behind : List Char) :
    ∃ c ∈ (r.base ++ behind).head?, Text.isBlank c = false := by
  obtain ⟨c, first, start⟩ := r.is_base.starts
  exact ⟨c, by rw [List.head?_append, Option.mem_def.mp first]; rfl, isBlank_of_isBaseStart start⟩

namespace Reading

theorem parts_eq (r r' : Reading declared) : r.base = r'.base ∧ r.inside? = r'.inside? := by
  have parts := r.parts?_eq.symm.trans r'.parts?_eq
  obtain ⟨base_eq, parameters_eq⟩ := Prod.mk.inj (Option.some.inj parts)
  exact ⟨base_eq, enclose_inj.mp parameters_eq⟩

theorem before_eq (r r' : Reading declared) : r.before = r'.before ∧
    r.gap ++ (enclose r.inside? ++ r.after) = r'.gap ++ (enclose r.inside? ++ r'.after) := by
  have whole := r.whole_eq.symm.trans r'.whole_eq
  obtain ⟨before_eq, behind⟩ :=
    Text.append_inj_of_areBlank r.blank_before r'.blank_before (r.isBlank_head?_base _)
    (r'.isBlank_head?_base _) whole
  obtain ⟨base_eq, inside?_eq⟩ := parts_eq r r'
  rw [base_eq, List.append_cancel_left_eq, ← inside?_eq] at behind
  exact ⟨before_eq, behind⟩

theorem gap_eq (r r' : Reading declared) (some_inside : r.inside? ≠ none) :
    r.gap = r'.gap ∧ r.after = r'.after := by
  obtain ⟨-, behind⟩ := before_eq r r'
  obtain ⟨gap_eq, after_eq⟩ :=
    Text.append_inj_of_areBlank r.blank_gap r'.blank_gap (isBlank_head?_enclose some_inside _)
    (isBlank_head?_enclose some_inside _) behind
  exact ⟨gap_eq, List.append_cancel_left after_eq⟩

theorem isLike (r r' : Reading declared) : r.IsLike r' := by
  obtain ⟨base_eq, inside?_eq⟩ := parts_eq r r'
  obtain ⟨before_eq, behind⟩ := before_eq r r'
  refine ⟨before_eq, base_eq, inside?_eq, ?_⟩
  by_cases none_inside : r.inside? = none
  · rwa [none_inside, enclose, List.nil_append, List.nil_append] at behind
  · obtain ⟨gap_eq, after_eq⟩ := gap_eq r r' none_inside
    rw [gap_eq, after_eq]

theorem eq_of_isSettled (settled : r.IsSettled) (settled' : r'.IsSettled) : r = r' := by
  have like := r.isLike r'
  suffices blanks : r.gap = r'.gap ∧ r.after = r'.after from
    Reading.ext like.before_eq like.base_eq blanks.1 like.inside?_eq blanks.2
  by_cases none_inside : r.inside? = none
  · have gap_eq : r.gap = [] := settled none_inside
    have gap_eq' : r'.gap = [] := settled' (like.inside?_eq ▸ none_inside)
    have blanks := like.blanks_eq
    rw [gap_eq, gap_eq'] at blanks ⊢
    exact ⟨rfl, blanks⟩
  · exact gap_eq r r' none_inside

theorem exists_isSettled (r : Reading declared) :
    ∃ settled : Reading declared, settled.IsSettled := by
  by_cases none_inside : r.inside? = none
  · have whole : declared = r.before ++ r.base ++ [] ++ enclose none ++ (r.gap ++ r.after) := by
      simpa [none_inside, enclose] using r.whole
    exact ⟨⟨r.before, r.base, [], none, r.gap ++ r.after, r.blank_before, r.is_base, nofun, nofun,
      List.forall_mem_append.mpr ⟨r.blank_gap, r.blank_after⟩, whole⟩, fun _ => rfl⟩
  · exact ⟨r, fun none_there => absurd none_there none_inside⟩

theorem existsUnique_isSettled (r : Reading declared) :
    ∃! settled : Reading declared, settled.IsSettled := by
  obtain ⟨settled, is_settled⟩ := r.exists_isSettled
  exact ⟨settled, is_settled, fun other other_settled => eq_of_isSettled other_settled is_settled⟩

end Reading

def basePattern : Pattern := .group 1 (.seq (.one isBaseStart) (.fewest isBaseChar))

def parametersPattern : Pattern :=
  .group 2 (.seq (.one (· == '(')) (.seq (.most (· != '\n')) (.one (· == ')'))))

def tailPattern : Pattern :=
  .seq (.most Text.isBlank) (.seq (.maybe parametersPattern) (.seq (.most Text.isBlank) .stop))

def typePattern : Pattern := .seq (.most Text.isBlank) (.seq basePattern tailPattern)

def keptParameters (inside? : Option (List Char)) : List (Nat × List Char) :=
  (inside?.map fun inside => (2, enclose (some inside))).toList

/-- What is kept of a type that is read. -/
def Reading.groups {declared : List Char} (r : Reading declared) : List (Nat × List Char) :=
  (1, r.base) :: keptParameters r.inside?

structure IsSpacedBase (s : List Char) : Prop where
  starts : ∃ c ∈ s.head?, isBaseStart c = true
  chars : ∀ c ∈ s, isBaseChar c = true

variable {w rest : List Char} {groups : List (Nat × List Char)}

theorem IsBase.isSpacedBase (is_base : IsBase s) : IsSpacedBase s := ⟨is_base.starts, is_base.chars⟩

theorem IsSpacedBase.exists_base (spaced : IsSpacedBase w) :
    ∃ base spaces, IsBase base ∧ Text.AreBlank spaces ∧ w = base ++ spaces := by
  obtain ⟨⟨c, first, start⟩, chars⟩ := spaced
  obtain ⟨rest, rfl⟩ := List.head?_eq_some_iff.mp first
  obtain ⟨spaces, blank, split⟩ := exists_spaces (c :: rest)
  exact ⟨_, spaces, isBase_of_starts start chars, blank, split⟩

theorem fits_basePattern_iff : basePattern.Fits ⟨w, rest, groups⟩ ↔
    IsSpacedBase w ∧ groups = [(1, w)] := by
  constructor
  · intro fits
    obtain ⟨_, inner, rfl⟩ := fits_group_iff.mp fits
    obtain ⟨_, others, _, _, ⟨⟨c, rfl, start⟩, rfl⟩, ⟨chars, rfl⟩, rfl, rfl⟩ :=
      fits_seq_iff.mp inner
    exact ⟨⟨⟨c, rfl, start⟩, List.forall_mem_cons.mpr ⟨isBaseChar_of_isBaseStart start, chars⟩⟩,
      rfl⟩
  · rintro ⟨⟨⟨c, first, start⟩, chars⟩, rfl⟩
    obtain ⟨others, rfl⟩ := List.head?_eq_some_iff.mp first
    exact .group (.seq (.one start) (.fewest (List.forall_mem_cons.mp chars).2))

theorem isAscending_basePattern : basePattern.IsAscending := isAscending_fewest.one_seq.group

theorem fits_parametersPattern_iff : parametersPattern.Fits ⟨w, rest, groups⟩ ↔
    ∃ inside, '\n' ∉ inside ∧ w = enclose (some inside) ∧ groups = [(2, w)] := by
  have all_inside (inside : List Char) : (∀ c ∈ inside, (c != '\n') = true) ↔ '\n' ∉ inside := by
    simp [List.forall_mem_ne']
  constructor
  · intro fits
    obtain ⟨_, inner, rfl⟩ := fits_group_iff.mp fits
    obtain ⟨_, _, _, _, ⟨⟨c, rfl, opens⟩, rfl⟩, behind, rfl, rfl⟩ := fits_seq_iff.mp inner
    obtain ⟨inside, _, _, _, ⟨one_line, rfl⟩, ⟨⟨d, rfl, closes⟩, rfl⟩, rfl, rfl⟩ :=
      fits_seq_iff.mp behind
    rw [beq_iff_eq.mp opens, beq_iff_eq.mp closes]
    exact ⟨inside, (all_inside inside).mp one_line, rfl, rfl⟩
  · rintro ⟨inside, one_line, rfl, rfl⟩
    exact .group (.seq (.one rfl) (.seq (.most ((all_inside inside).mpr one_line)) (.one rfl)))

theorem fits_maybe_parametersPattern_iff : (maybe parametersPattern).Fits ⟨w, rest, groups⟩ ↔
    ∃ inside?, (∀ inside ∈ inside?, '\n' ∉ inside) ∧ w = enclose inside? ∧
      groups = keptParameters inside? := by
  rw [Fits, fits_parametersPattern_iff]
  constructor
  · rintro (⟨inside, one_line, rfl, rfl⟩ | ⟨rfl, rfl⟩)
    · exact ⟨some inside, by simpa using one_line, rfl, rfl⟩
    · exact ⟨none, by simp, rfl, rfl⟩
  · rintro ⟨_ | inside, one_line, rfl, rfl⟩
    · exact .inr ⟨rfl, rfl⟩
    · exact .inl ⟨inside, one_line inside rfl, rfl, rfl⟩

theorem fits_tailPattern_iff : tailPattern.Fits ⟨w, rest, groups⟩ ↔
    ∃ gap inside? after, Text.AreBlank gap ∧ (∀ inside ∈ inside?, '\n' ∉ inside) ∧
      Text.AreBlank after ∧
      (rest = [] ∨ rest = ['\n']) ∧ w = gap ++ (enclose inside? ++ after) ∧
      groups = keptParameters inside? := by
  constructor
  · intro fits
    obtain ⟨gap, _, _, _, ⟨blank_gap, rfl⟩, behind, rfl, rfl⟩ := fits_seq_iff.mp fits
    obtain ⟨_, _, _, _, enclosed, last, rfl, rfl⟩ := fits_seq_iff.mp behind
    obtain ⟨after, _, _, _, ⟨blank_after, rfl⟩, ⟨ended, rfl, rfl⟩, rfl, rfl⟩ := fits_seq_iff.mp last
    obtain ⟨inside?, one_line, rfl, rfl⟩ := fits_maybe_parametersPattern_iff.mp enclosed
    exact ⟨gap, inside?, after, blank_gap, one_line, blank_after, ended, by simp, by simp⟩
  · rintro ⟨gap, inside?, after, blank_gap, one_line, blank_after, ended, rfl, rfl⟩
    have enclosed (behind : List Char) :
        (maybe parametersPattern).Fits ⟨enclose inside?, behind, keptParameters inside?⟩ :=
      fits_maybe_parametersPattern_iff.mpr ⟨inside?, one_line, rfl, rfl⟩
    have stops : stop.Fits ⟨[], rest, []⟩ := ⟨ended, rfl, rfl⟩
    have fits : tailPattern.Fits _ :=
      Fits.seq (.most blank_gap) (.seq (enclosed _) (.seq (.most blank_after) stops))
    simpa using fits

theorem Reading.fits_base (r : Reading declared) : basePattern.Fits ⟨r.base, rest, [(1, r.base)]⟩ :=
  fits_basePattern_iff.mpr ⟨r.is_base.isSpacedBase, rfl⟩

theorem Reading.fits_tail (r : Reading declared) :
    tailPattern.Fits ⟨r.gap ++ (enclose r.inside? ++ r.after), [], keptParameters r.inside?⟩ :=
  fits_tailPattern_iff.mpr ⟨r.gap, r.inside?, r.after, r.blank_gap, r.one_line, r.blank_after,
    .inl rfl, rfl, rfl⟩

theorem Reading.exists_fits (r : Reading declared) : ∃ m, typePattern.Fits m ∧ m.IsOf declared := by
  refine ⟨_, .seq (.most r.blank_before) (.seq r.fits_base r.fits_tail), ?_⟩
  rw [Match.IsOf, List.append_nil]
  exact r.whole_eq

theorem exists_reading_of_fits {a b c : Match}
    (first : (most Text.isBlank).Fits a) (whole : a.IsOf declared)
    (second : basePattern.Fits b) (behind : b.IsOf a.rest) (third : tailPattern.Fits c)
    (last : c.IsOf b.rest) :
    ∃ (r : Reading declared) (spaces : List Char),
      r.before = a.taken ∧ b.taken = r.base ++ spaces ∧ c.groups = keptParameters r.inside? := by
  obtain ⟨spaced, -⟩ := fits_basePattern_iff.mp second
  obtain ⟨base, spaces, is_base, blank_spaces, taken⟩ := spaced.exists_base
  obtain ⟨gap, inside?, after, blank_gap, one_line, blank_after, ended, tail, kept⟩ :=
    fits_tailPattern_iff.mp third
  have blank_rest : Text.AreBlank c.rest := by
    rcases ended with ended | ended <;> rw [ended] <;> simp [Text.AreBlank, Text.isBlank]
  refine ⟨⟨a.taken, base, spaces ++ gap, inside?, after ++ c.rest, first.1, is_base,
    List.forall_mem_append.mpr ⟨blank_spaces, blank_gap⟩, one_line,
      List.forall_mem_append.mpr ⟨blank_after, blank_rest⟩, ?_⟩, spaces, rfl, taken, kept⟩
  rw [Match.IsOf] at whole behind last
  rw [whole, behind, last, taken, tail]
  simp

theorem match?_of_reading (r : Reading declared) : typePattern.match? declared = some r.groups := by
  obtain ⟨m, fits, is_whole⟩ := r.exists_fits
  obtain ⟨first, is_first, found⟩ := Pattern.exists_first fits is_whole
  obtain ⟨_, a, _, n, ways_eq, -, first_behind, rfl⟩ := Pattern.first_seq is_first
  obtain ⟨blank, whole⟩ := mem_ways_iff.mp (ways_eq ▸ List.mem_append_cons_self)
  obtain ⟨b, c, ⟨fits_base, behind⟩, ⟨fits_tail, last⟩, rfl, shortest⟩ :=
    isAscending_basePattern.first_seq first_behind
  obtain ⟨r', spaces, before_eq, taken, kept⟩ :=
    exists_reading_of_fits blank whole fits_base behind fits_tail last
  have like := r'.isLike r
  -- the base alone is another way to go on behind the blanks, and the first way takes no more
  have rest_eq : a.rest = r.base ++ (r.gap ++ (enclose r.inside? ++ r.after)) := by
    have both := whole.symm.trans r.whole_eq
    rwa [← before_eq, like.before_eq, List.append_cancel_left_eq] at both
  have shorter : (r.base ++ spaces).length ≤ r.base.length := by
    rw [← like.base_eq, ← taken, like.base_eq]
    exact shortest _ _ r.fits_base rest_eq r.fits_tail (List.append_nil _).symm
  have no_spaces : spaces = [] :=
    List.length_eq_zero_iff.mp (by rw [List.length_append] at shorter; omega)
  have taken_eq : b.taken = r.base := by rw [taken, no_spaces, List.append_nil, like.base_eq]
  rw [found, Match.groups_append, Match.groups_append, blank.2,
    (fits_basePattern_iff.mp fits_base).2, kept, taken_eq, like.inside?_eq]
  rfl

example : typePattern.match? "bit varying (8)\n".toList =
    some [(1, "bit varying".toList), (2, "(8)".toList)] := by
  decide +kernel

theorem match?_of_isEmpty (no_reading : IsEmpty (Reading declared)) :
    typePattern.match? declared = none := by
  refine Pattern.match?_eq_none_iff.mpr fun m fits whole => ?_
  obtain ⟨a, n, blank, ⟨b, c, fits_base, fits_tail, last, rfl⟩, behind, rfl⟩ := fits
  obtain ⟨r, -⟩ := exists_reading_of_fits blank ((Match.isOf_append_iff behind).mp whole) fits_base
    ((Match.isOf_append_iff last).mp behind) fits_tail last
  exact no_reading.false r

def splitBy (declared : String) : Option (List (Nat × List Char)) → String × String
  | some groups =>
    (Text.upper (String.ofList ((groups.lookup 1).getD [])),
      String.ofList (((groups.lookup 2).getD []).filter (· != ' ')))
  | none => (Text.upper (Text.trim declared), "")

theorem splitBy_groups {declared : String} (r : Reading declared.toList) :
    splitBy declared (some r.groups) =
    (Text.upper (String.ofList r.base), String.ofList (r.parameters.filter (· != ' '))) := by
  unfold splitBy Reading.groups Reading.parameters
  cases r.inside? <;> rfl

theorem split_eq_splitBy (declared : String) :
    split declared = splitBy declared (typePattern.match? declared.toList) := by
  cases parts : parts? declared.toList with
  | none =>
    rw [match?_of_isEmpty (parts?_eq_none_iff.mp parts), split, parts]
    rfl
  | some found =>
    obtain ⟨r, -⟩ := (parts?_eq_some_iff.mp parts).exists_reading
    rw [match?_of_reading r, splitBy_groups, split_of_declares r.declares]

/-- A text that can be read as a type can be read so in one way only, but for where the blanks at
its end belong if it has no parentheses, and in exactly one way if that is settled. The pattern
matches it, and it is split into the base in upper case and the parentheses without spaces. Any
other text does not match, and is all base. -/
theorem split_by_reading (declared : String) :
    (∀ r : Reading declared.toList,
      (∀ other : Reading declared.toList, other.IsLike r) ∧
      (∃! settled : Reading declared.toList, settled.IsSettled) ∧
      typePattern.match? declared.toList = some r.groups ∧
      split declared = (Text.upper (String.ofList r.base),
        String.ofList (r.parameters.filter (· != ' ')))) ∧
    (IsEmpty (Reading declared.toList) →
      typePattern.match? declared.toList = none ∧ split declared =
        (Text.upper (Text.trim declared), "")) := by
  constructor
  · intro r
    have found := match?_of_reading r
    refine ⟨fun other => other.isLike r, r.existsUnique_isSettled, found, ?_⟩
    rw [split_eq_splitBy, found, splitBy_groups]
  · intro no_reading
    have found := match?_of_isEmpty no_reading
    refine ⟨found, ?_⟩
    rw [split_eq_splitBy, found]
    rfl

theorem split_by_reading_precision :
    (∃ r : Reading "\tdouble precision ( 10, (2) ) \n".toList,
      (r.base = "double precision".toList ∧ r.parameters = "( 10, (2) )".toList) ∧
      (∀ other : Reading "\tdouble precision ( 10, (2) ) \n".toList, other.IsLike r) ∧
      split "\tdouble precision ( 10, (2) ) \n" = ("DOUBLE PRECISION", "(10,(2))")) ∧
    IsEmpty (Reading " varchar(30\n)".toList) ∧ split " varchar(30\n)" = ("VARCHAR(30\n)", "") := by
  have parts : parts? "\tdouble precision ( 10, (2) ) \n".toList =
      some ("double precision".toList, "( 10, (2) )".toList) := by decide +kernel
  obtain ⟨r, base_eq, parameters_eq⟩ := (parts?_eq_some_iff.mp parts).exists_reading
  obtain ⟨one_way, -, -, split_eq⟩ := (split_by_reading "\tdouble precision ( 10, (2) ) \n").1 r
  have no_reading : IsEmpty (Reading " varchar(30\n)".toList) :=
    parts?_eq_none_iff.mp (by decide +kernel)
  obtain ⟨-, split_eq'⟩ := (split_by_reading " varchar(30\n)").2 no_reading
  refine ⟨⟨r, ⟨base_eq, parameters_eq⟩, one_way, ?_⟩, no_reading, ?_⟩
  · rw [split_eq, base_eq, parameters_eq]
    decide +kernel
  · rw [split_eq']
    decide +kernel

end SchemaMigration.ColumnType
