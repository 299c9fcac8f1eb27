import SchemaMigration.Proofs.ColumnType.Parts

/-! Types are resolved once and for all. Each table leads to types that it leaves as they are, also
with parameters behind them, and a type that it does not know loses no more than the blanks around
it. -/

namespace SchemaMigration.ColumnType

variable {m : Mapping} {s parameters : List Char} {declared stored : String}

theorem isParameters_unspaced (enclosed : isParameters s = true) :
    isParameters (s.filter (· != ' ')) = true := by
  obtain ⟨rest, rfl, stops, one_line⟩ := isParameters_iff.mp enclosed
  obtain ⟨inner, rfl⟩ := List.getLast?_eq_some_iff.mp stops
  refine isParameters_iff.mpr ⟨(inner ++ [')']).filter (· != ' '), rfl, ?_,
    fun h => one_line (List.mem_filter.mp h).1⟩
  simp [List.filter_append]

theorem areParameters_split (declared : String) :
    AreParameters (split declared).2.toList ∧ (split declared).2.toList.filter (· != ' ') =
      (split declared).2.toList := by
  unfold split
  cases parts : parts? declared.toList with
  | none => exact ⟨.inl rfl, rfl⟩
  | some found =>
    obtain ⟨base, parameters⟩ := found
    have enclosed : AreParameters (parameters.filter (· != ' ')) :=
      (parts?_eq_some_iff.mp parts).enclosed.imp (congrArg (List.filter (· != ' ')))
        isParameters_unspaced
    simpa [List.filter_filter] using enclosed

theorem split_trim (declared : String) : split (Text.trim declared) = split declared := by
  simp only [split, parts?, Text.trim_trim]
  simp only [Text.trim, String.toList_ofList, Text.trimChars_trimChars]

namespace Mapping

theorem resolve_of_unknown (unknown : m.types.lookup (split declared).1 = none) :
    m.resolve declared false = Text.trim declared := by
  simp [resolve, unknown]

theorem resolve_of_known (known : m.types.lookup (split declared).1 = some stored) :
    m.resolve declared false =
    if '(' ∈ stored.toList then stored else stored ++ (split declared).2 := by
  by_cases none : (split declared).2 = "" <;> by_cases own : '(' ∈ stored.toList
    <;> simp [resolve, known, none, own]

def Leads (m : Mapping) (e : String × String) : Prop := m.types.lookup e.1 = some e.2

instance (m : Mapping) (e : String × String) : Decidable (m.Leads e) :=
  inferInstanceAs (Decidable (_ = _))

/-- Whether a table leaves what it leads to as it is. What has no parentheses of its own is a base,
in the case that bases are looked up in, and is not led on to another type. -/
def IsClosed (m : Mapping) : Prop :=
  ∀ e ∈ m.types, m.Leads e →
    if '(' ∈ e.2.toList then m.resolve e.2 false = e.2
    else parts? e.2.toList = some (e.2.toList, []) ∧ Text.upper e.2 = e.2 ∧
      (m.types.lookup e.2 = none ∨ m.Leads (e.2, e.2))

instance (m : Mapping) : Decidable m.IsClosed := by
  unfold IsClosed
  infer_instance

theorem mem_of_leads {e : String × String} (leads : m.Leads e) : e ∈ m.types := by
  obtain ⟨before, after, types, -⟩ := List.lookup_eq_some_iff.mp leads
  exact types ▸ List.mem_append_cons_self

theorem IsClosed.isBase (closed : m.IsClosed) {base : String} (led : m.Leads (base, stored))
    (bare : '(' ∉ stored.toList) : IsBase stored.toList ∧ Text.upper stored = stored ∧
      (m.types.lookup stored = none ∨ m.Leads (stored, stored)) := by
  have found := closed (base, stored) (mem_of_leads led) led
  rw [if_neg bare] at found
  exact ⟨(parts?_eq_some_iff.mp found.1).is_base, found.2⟩

theorem IsClosed.resolve_append (closed : m.IsClosed) {base : String} (led : m.Leads (base, stored))
    (bare : '(' ∉ stored.toList) (enclosed : AreParameters parameters)
    (unspaced : parameters.filter (· != ' ') = parameters) :
    m.resolve (stored ++ String.ofList parameters) false = stored ++ String.ofList parameters := by
  obtain ⟨is_base, upper, looked_up⟩ := closed.isBase led bare
  have declares : Declares (stored ++ String.ofList parameters).toList stored.toList parameters :=
    ⟨is_base, enclosed, [], [], [], nofun, nofun, nofun, by simp⟩
  have split_eq : split (stored ++ String.ofList parameters) =
      (stored, String.ofList parameters) := by
    rw [split_of_declares declares, unspaced, String.ofList_toList, upper]
  rcases looked_up with unknown | known
  · rw [resolve_of_unknown (by rw [split_eq, unknown]), Text.trim, String.toList_append,
      String.toList_ofList,
      trimChars_append is_base enclosed, String.ofList_append, String.ofList_toList]
  · rw [resolve_of_known (by rw [split_eq]; exact known), split_eq, if_neg bare]

theorem IsClosed.resolve_idem (closed : m.IsClosed) (declared : String) :
    m.resolve (m.resolve declared false) false = m.resolve declared false := by
  cases looked_up : m.types.lookup (split declared).1 with
  | none =>
    have trimmed : m.resolve declared false = Text.trim declared := resolve_of_unknown looked_up
    rw [trimmed, resolve_of_unknown (by rw [split_trim, looked_up]), Text.trim_trim]
  | some stored =>
    have led : m.Leads ((split declared).1, stored) := looked_up
    obtain ⟨enclosed, unspaced⟩ := areParameters_split declared
    rw [resolve_of_known looked_up]
    split
    next own =>
      have fixed := closed ((split declared).1, stored) (mem_of_leads led) led
      rwa [if_pos own] at fixed
    next bare =>
      have stays := closed.resolve_append led bare enclosed unspaced
      rwa [String.ofList_toList] at stays

theorem isClosed_of (dialect : Option Dialect) : (of dialect).IsClosed := by
  rcases dialect with _ | d
  · decide +kernel
  · cases d <;> decide +kernel

/-- A type that is resolved for a dialect stays as it is when it is resolved once more, with its
parameters. A native type, whose base the table does not know, only loses the blanks around it. -/
theorem resolve_resolve (dialect : Option Dialect) (declared : String) :
    (of dialect).resolve ((of dialect).resolve declared false) false =
      (of dialect).resolve declared false ∧
    ((∀ e ∈ (of dialect).types, e.1 ≠ (split declared).1) →
      Text.IsTrimming declared.toList ((of dialect).resolve declared false).toList) := by
  refine ⟨(isClosed_of dialect).resolve_idem declared, fun unknown => ?_⟩
  have not_found : (of dialect).types.lookup (split declared).1 = none :=
    List.lookup_eq_none_iff.mpr fun e he => bne_iff_ne.mpr (unknown e he).symm
  rw [resolve_of_unknown not_found, Text.trim, String.toList_ofList]
  exact Text.isTrimming_trimChars _

theorem resolve_resolve_national :
    (of (some .oracle)).resolve "nvarchar ( 40 )" false = "NVARCHAR2(40)" ∧
    (of (some .oracle)).resolve "NVARCHAR2(40)" false = "NVARCHAR2(40)" ∧
    (∀ e ∈ (of (some .oracle)).types, e.1 ≠ (split "\tSDO_GEOMETRY (3, 2)\n").1) ∧
    Text.IsTrimming "\tSDO_GEOMETRY (3, 2)\n".toList
      ((of (some .oracle)).resolve "\tSDO_GEOMETRY (3, 2)\n" false).toList := by
  have resolved : (of (some .oracle)).resolve "nvarchar ( 40 )" false = "NVARCHAR2(40)" := by
    decide +kernel
  have unknown : ∀ e ∈ (of (some .oracle)).types, e.1 ≠ (split "\tSDO_GEOMETRY (3, 2)\n").1 := by
    decide +kernel
  have again := (resolve_resolve (some .oracle) "nvarchar ( 40 )").1
  rw [resolved] at again
  exact ⟨resolved, again, unknown, (resolve_resolve (some .oracle)
    "\tSDO_GEOMETRY (3, 2)\n").2 unknown⟩

end Mapping

end SchemaMigration.ColumnType
