import SchemaMigration.ChangeLog
import SchemaMigration.Proofs.Json.Compact

/-! The text that a checksum is computed from tells the content of the changes. Lists of contents
have one text just when they are as long and are, one by one, the same up to the order of fields;
numbers, flags, null and texts are never taken for each other. -/

namespace SchemaMigration

namespace Change

/-- Whether the values that a change is declared with are well-formed, those of its columns with
them. -/
def isWellFormed (c : Change) : Bool := c.fieldValues.all fun f => f.2.widen.isWellFormed

theorem nodup_names (c : Change) :
    (("change", Value.text c.name) :: c.fieldValues).map Prod.fst |>.Nodup := by
  cases c <;> simp [fieldValues]

end Change

theorem codes_injective : Function.Injective codes := by
  intro s t same
  have ofChar_injective : Function.Injective CodePoint.ofChar := by
    intro c d same
    exact Char.toNat_inj.mp (Fin.mk.inj same)
  exact String.toList_inj.mp (ofChar_injective.list_map same)

theorem Value.widenFields_eq (fields : List (String × Value)) :
    widenFields fields = fields.map fun f => (codes f.1, f.2.widen) := by
  induction fields with
  | nil => rfl
  | cons f rest ih => rw [widenFields, ih, List.map_cons]

theorem Change.isWellFormed_content {c : Change} (valid : c.isWellFormed = true) :
    c.content.isWellFormed = true := by
  rw [content, toValue, Value.widen, Value.widenFields_eq, WideValue.isWellFormed_object]
  constructor
  · have names := c.nodup_names.map codes_injective
    rw [List.map_map] at names ⊢
    exact names
  · intro f hf
    obtain ⟨g, hg, rfl⟩ := List.mem_map.mp hf
    refine ⟨isWhole_codes g.1, ?_⟩
    rcases List.mem_cons.mp hg with rfl | declared
    · exact isWhole_codes c.name
    · exact List.all_eq_true.mp valid g declared

theorem Value.alike_of_field {as bs : List (String × Value)} {k : String} {v w : Value}
    (alike : (Value.object as).widen.Alike (Value.object bs).widen) (field : (k, v) ∈ as)
    (only : ∀ g ∈ bs, g.1 = k → g.2 = w) : v.widen.Alike w.widen := by
  rw [widen, widen, widenFields_eq, widenFields_eq] at alike
  obtain ⟨_, found, name, value⟩ :=
    WideValue.exists_of_alike_object alike _ (List.mem_map_of_mem field)
  obtain ⟨g, hg, rfl⟩ := List.mem_map.mp found
  rwa [only g hg (codes_injective name).symm] at value

section Payload

variable {as bs : List WideValue} {cs ds : List Change}

theorem payloadOf_eq_iff (valid_as : ∀ a ∈ as, a.isWellFormed = true)
    (valid_bs : ∀ b ∈ bs, b.isWellFormed = true) :
    payloadOf as = payloadOf bs ↔ List.Forall₂ WideValue.Alike as bs := by
  have whole (vs : List WideValue) (valid : ∀ v ∈ vs, v.isWellFormed = true) :
      (WideValue.list vs).isWellFormed = true := by
    rw [WideValue.isWellFormed, WideValue.areWellFormed_iff]
    exact valid
  rw [payloadOf, payloadOf, Json.canonical_eq_iff (whole as valid_as) (whole bs valid_bs),
    WideValue.Alike, WideValue.alikeItems_iff_forall₂]

theorem forall₂_set_iff {i : Nat} (within : i < as.length) (valid : ∀ a ∈ as, a.isWellFormed = true)
    (d : WideValue) : List.Forall₂ WideValue.Alike (as.set i d) as ↔ d.Alike as[i] := by
  rw [List.forall₂_iff_get]
  simp only [List.length_set, List.get_eq_getElem, true_and]
  constructor
  · intro all
    have here := all i within within
    rwa [List.getElem_set_self] at here
  · intro alike j hj _
    by_cases place : i = j
    · subst place
      rwa [List.getElem_set_self]
    · rw [List.getElem_set_ne place]
      exact WideValue.alike_self (valid _ (List.getElem_mem hj))

theorem payloadOf_set_iff {i : Nat} (within : i < as.length)
    (valid : ∀ a ∈ as, a.isWellFormed = true) {d : WideValue} (valid_d : d.isWellFormed = true) :
    payloadOf (as.set i d) = payloadOf as ↔ d.Alike as[i] := by
  have valid_set : ∀ a ∈ as.set i d, a.isWellFormed = true := by
    intro a ha
    rcases List.mem_or_eq_of_mem_set ha with old | rfl
    · exact valid a old
    · exact valid_d
  rw [payloadOf_eq_iff valid_set valid, forall₂_set_iff within valid d]

theorem areWellFormed_contents (valid : ∀ c ∈ cs, c.isWellFormed = true) :
    ∀ a ∈ cs.map Change.content, a.isWellFormed = true := by
  intro a ha
  obtain ⟨c, hc, rfl⟩ := List.mem_map.mp ha
  exact Change.isWellFormed_content (valid c hc)

theorem checksumPayload_eq_iff (valid_cs : ∀ c ∈ cs, c.isWellFormed = true)
    (valid_ds : ∀ d ∈ ds, d.isWellFormed = true) : checksumPayload cs = checksumPayload ds ↔
      List.Forall₂ (fun c d => c.content.Alike d.content) cs ds := by
  rw [checksumPayload, checksumPayload,
    payloadOf_eq_iff (areWellFormed_contents valid_cs) (areWellFormed_contents valid_ds),
    List.forall₂_map_left_iff, List.forall₂_map_right_iff]

/-- Lists of contents, with texts of any code points in them, have one text just when they are
alike, one by one. A content edited in its place leaves the text as it was just when it is what it
was, up to the order of fields. It is the same with lists of changes, which have the text of their
contents. -/
theorem checksumPayload_tells_content (valid_as : ∀ a ∈ as, a.isWellFormed = true)
    (valid_bs : ∀ b ∈ bs, b.isWellFormed = true) (valid_cs : ∀ c ∈ cs, c.isWellFormed = true)
    (valid_ds : ∀ d ∈ ds, d.isWellFormed = true) :
    (payloadOf as = payloadOf bs ↔ List.Forall₂ WideValue.Alike as bs) ∧
    (∀ (i : Nat) (within : i < as.length) (d : WideValue), d.isWellFormed = true →
      (payloadOf (as.set i d) = payloadOf as ↔ d.Alike as[i])) ∧
    (checksumPayload cs = checksumPayload ds ↔
      List.Forall₂ (fun c d => c.content.Alike d.content) cs ds) ∧
    ∀ (i : Nat) (within : i < cs.length) (d : Change), d.isWellFormed = true →
      (checksumPayload (cs.set i d) = checksumPayload cs ↔ d.content.Alike cs[i].content) := by
  refine ⟨payloadOf_eq_iff valid_as valid_bs, fun i within d valid_d => ?_,
    checksumPayload_eq_iff valid_cs valid_ds, fun i within d valid_d => ?_⟩
  · exact payloadOf_set_iff within valid_as valid_d
  · have edited :=
      payloadOf_set_iff (i := i) (by simpa using within) (areWellFormed_contents valid_cs)
      (Change.isWellFormed_content valid_d)
    rw [List.getElem_map] at edited
    rw [checksumPayload, List.map_set]
    exact edited

end Payload

def scales (default? : Value) : Columns :=
  .of [{ name := .text "scale", type := .text "JSON", default? }]

def scaleColumn (default? : Value) : Change :=
  .addColumn { table := .text "units", columns := scales default? }

def halfSquareMetre : List (String × Value) :=
  [("unit", .text "\"m²\\"), ("factor", .float (.finite false (2 ^ 52) (-53)))]

theorem alike_scaleColumn_iff {a b : Value} :
    (scaleColumn a).content.Alike (scaleColumn b).content ↔ a.widen.Alike b.widen := by
  constructor
  · intro alike
    have columns : (scales a).toValue.widen.Alike (scales b).toValue.widen :=
      Value.alike_of_field (k := "columns") alike (.tail _ (.tail _ (.tail _ (.head _))))
        (by simp [scaleColumn, Change.fieldValues])
    exact Value.alike_of_field (k := "default_value") columns.1
      (.tail _ (.tail _ (.tail _ (.head _))))
      (by simp)
  · intro alike
    have column : WideValue.AlikeFields
        (Value.widenFields [("name", .text "scale"), ("type", .text "JSON"),
          ("auto_increment", .null),
          ("default_value", a), ("default_value_computed", .null), ("remarks", .null),
          ("constraints", .null)])
        (Value.widenFields [("name", .text "scale"), ("type", .text "JSON"),
          ("auto_increment", .null),
          ("default_value", b), ("default_value_computed", .null), ("remarks", .null),
          ("constraints", .null)]) :=
      ⟨rfl, rfl, rfl, rfl, rfl, rfl, rfl, alike, rfl, rfl, rfl, rfl, rfl, rfl, trivial⟩
    have columns : (WideValue.list [_]).Alike (.list [_]) :=
      ⟨WideValue.alike_object column, trivial⟩
    exact WideValue.alike_object ⟨rfl, rfl, rfl, rfl, rfl, rfl, rfl, columns, trivial⟩

def dropContent (table : List CodePoint) : WideValue := .object [
  (codes "change", .text (codes "dropTable")), (codes "table_name", .text table),
  (codes "schema_name", .null), (codes "cascade_constraints", .bool false)]

theorem alike_dropContent_iff {s t : List CodePoint} :
    (dropContent s).Alike (dropContent t) ↔ s = t := by
  constructor
  · intro alike
    obtain ⟨g, hg, name, value⟩ := WideValue.exists_of_alike_object alike
      (codes "table_name", .text s) (by simp)
    have others : ∀ k ∈ ["change", "schema_name", "cascade_constraints"],
        codes "table_name" ≠ codes k := by decide
    simp only [List.mem_cons, List.not_mem_nil, or_false] at hg
    rcases hg with rfl | rfl | rfl | rfl
    · exact absurd name (others _ (by decide))
    · simpa [WideValue.Alike] using value
    · exact absurd name (others _ (by decide))
    · exact absurd name (others _ (by decide))
  · rintro rfl
    exact WideValue.alike_object ⟨rfl, rfl, rfl, rfl, rfl, rfl, rfl, rfl, trivial⟩

theorem checksumPayload_tells_content_units :
    (∀ c ∈ [scaleColumn (.object halfSquareMetre), scaleColumn (.bool true)],
        c.isWellFormed = true) ∧
      checksumPayload [scaleColumn (.object halfSquareMetre), scaleColumn (.bool true)] =
        checksumPayload [scaleColumn (.object halfSquareMetre.reverse), scaleColumn (.bool true)] ∧
      checksumPayload [scaleColumn (.object halfSquareMetre), scaleColumn (.int 1)] ≠
        checksumPayload [scaleColumn (.object halfSquareMetre), scaleColumn (.bool true)] ∧
      payloadOf [dropContent [0xD83D]] ≠ payloadOf [dropContent [0xDE00]] := by
  have valid : ∀ c ∈ [scaleColumn (.object halfSquareMetre), scaleColumn (.bool true)],
      c.isWellFormed = true := by decide
  have valid_reversed : ∀ c ∈ [scaleColumn (.object halfSquareMetre.reverse),
      scaleColumn (.bool true)], c.isWellFormed = true := by decide
  have valid_high : ∀ a ∈ [dropContent [0xD83D]], a.isWellFormed = true := by decide
  have valid_low : ∀ a ∈ [dropContent [0xDE00]], a.isWellFormed = true := by decide
  obtain ⟨surrogates, -, reordered, edited⟩ :=
    checksumPayload_tells_content valid_high valid_low valid valid_reversed
  refine ⟨valid, reordered.mpr (.cons (alike_scaleColumn_iff.mpr ?_) (.cons ?_ .nil)),
    fun same => ?_, fun same => ?_⟩
  · exact ⟨_, (List.reverse_perm _).symm, WideValue.alikeFields_self (by decide)⟩
  · exact WideValue.alike_self (by decide)
  · have alike := (edited 1 (by decide) (scaleColumn (.int 1)) (by decide)).mp same
    simpa [Value.widen, WideValue.Alike] using alike_scaleColumn_iff.mp alike
  · cases surrogates.mp same with
    | cons alike _ => exact absurd (alike_dropContent_iff.mp alike) (by decide)

theorem sorted_dropContent (table : List CodePoint) : Json.sorted (dropContent table) = .object [
    (codes "cascade_constraints", .bool false), (codes "change", .text (codes "dropTable")),
    (codes "schema_name", .null), (codes "table_name", .text table)] := by
  have distinct :
      (["change", "table_name", "schema_name", "cascade_constraints"].map codes).Nodup := by
    decide
  have ordered : (["cascade_constraints", "change", "schema_name", "table_name"].map codes).Pairwise
      fun j k => Json.precedes j k = true := by decide
  rw [dropContent, Json.sorted]
  refine congrArg _ (Json.sortFields_eq_of_perm distinct ?_ ordered)
  exact (List.reverse_perm _).symm.trans (.cons _ (List.perm_append_singleton _ [_, _]))

theorem payloadOf_dropContent {s t : List CodePoint}
    (same : s.flatMap Json.units = t.flatMap Json.units) :
    payloadOf [dropContent s] = payloadOf [dropContent t] := by
  have written : Json.stringText s = Json.stringText t := by
    rw [Json.stringText, Json.stringText, same]
  simp [payloadOf, Json.canonical, Json.sorted, Json.sortedItems, sorted_dropContent,
    Json.compactChars, Json.compactItems, Json.compactFields, written]

def nought (negative : Bool) : Value := .float (.finite negative 0 Binary64.leastExponent)

/-- Two surrogates have the text of the code point that they stand for, though they are another
name; and nought has a text for each sign, though the one is equal to the other. -/
theorem payload_surrogates_nought :
    (Change.dropTable { table := .text "😀" }).content = dropContent [0x1F600] ∧
      ¬ List.Forall₂ WideValue.Alike [dropContent [0xD83D, 0xDE00]] [dropContent [0x1F600]] ∧
      payloadOf [dropContent [0xD83D, 0xDE00]] = payloadOf [dropContent [0x1F600]] ∧
      (scaleColumn (nought false)).toValue.same (scaleColumn (nought true)).toValue = true ∧
      checksumPayload [scaleColumn (nought false)] ≠
          checksumPayload [scaleColumn (nought true)] := by
  refine ⟨by rfl, fun alike => ?_, payloadOf_dropContent (by decide), by decide, fun same => ?_⟩
  · cases alike with
    | cons alike _ => exact absurd (alike_dropContent_iff.mp alike) (by decide)
  · have valid : ∀ negative, ∀ c ∈ [scaleColumn (nought negative)], c.isWellFormed = true := by
      decide
    cases (checksumPayload_eq_iff (valid false) (valid true)).mp same with
    | cons alike _ =>
      simpa [nought, Value.widen, WideValue.Alike] using alike_scaleColumn_iff.mp alike

end SchemaMigration
