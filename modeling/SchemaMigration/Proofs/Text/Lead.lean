import SchemaMigration.Proofs.Text.Quotation

namespace SchemaMigration.Text.Quotation

variable (q : Quotation)

def plain : Quotation := { q with lead? := none }

/-- What a text means where it is written without regard to the lead. It means nothing if a lead
takes a closing quote, or if it ends with one. -/
def meant? : List Char → Option (List Char)
  | [] => some []
  | c :: rest =>
    if q.lead? = some c then
      match rest with
      | [] => none
      | d :: rest => if d = q.closing then none else (meant? rest).map (q.meaning d ++ ·)
    else (meant? rest).map (c :: ·)

def KeepsLeads (s : List Char) : Prop :=
  ∀ before l after, s = before ++ l :: after → q.lead? = some l →
    ∃ d rest, after = d :: rest ∧ d ≠ q.closing ∧ q.meaning d = [l, d]

def IsModest : Prop := ∀ l d, q.lead? = some l → (q.meaning d).length ≤ 1 ∨ q.meaning d = [l, d]

variable {q} {c d : Char} {s w rest following : List Char}

theorem meant?_lead (lead : q.lead? = some c) (other : d ≠ q.closing) :
    q.meant? (c :: d :: s) = (q.meant? s).map (q.meaning d ++ ·) := by
  simp [meant?, lead, other]

theorem meant?_cons (no_lead : q.lead? ≠ some c) :
    q.meant? (c :: s) = (q.meant? s).map (c :: ·) := by
  rw [meant?.eq_def]
  exact if_neg no_lead

theorem image_plain : q.plain.image c = if c = q.closing then [c, c] else [c] := by
  simp [image, plain]

theorem image_plain_of_ne (other : c ≠ q.closing) : q.plain.image c = [c] := by
  rw [image_plain, if_neg other]

theorem read_cons_plain (no_lead : q.lead? ≠ some c) :
    q.read ((c :: s).flatMap q.plain.image ++ rest) =
    (q.read (s.flatMap q.plain.image ++ rest)).map (Prod.map (c :: ·) id) := by
  rw [List.flatMap_cons, List.append_assoc, image_plain]
  split
  next closes =>
    rw [closes]
    exact read_doubled
  next other => exact read_plain other no_lead

theorem read_lead_plain (faithful : q.IsFaithful) (lead : q.lead? = some c)
    (other : d ≠ q.closing) :
    q.read ((c :: d :: s).flatMap q.plain.image ++ rest) =
      (q.read (s.flatMap q.plain.image ++ rest)).map (Prod.map (q.meaning d ++ ·) id) := by
  have open_still : c ≠ q.closing := (faithful c lead).1
  rw [List.flatMap_cons, List.flatMap_cons, image_plain_of_ne open_still, image_plain_of_ne other]
  exact read_lead lead open_still

theorem map_eq_some_iff {x : Option (List Char × List Char)} {f : List Char → List Char} :
    x.map (Prod.map f id) = some (w, following) ↔ ∃ v, x = some (v, following) ∧ f v = w := by
  cases x with
  | none => simp
  | some p => simp [Prod.ext_iff, and_assoc, and_comm]

theorem read_of_meant? (faithful : q.IsFaithful) (ends : following.head? ≠ some q.closing)
    (meant : q.meant? s = some w) :
    q.read (s.flatMap q.plain.image ++ q.closing :: following) = some (w, following) := by
  induction s using meant?.induct q generalizing w with
  | case1 =>
    cases meant
    exact read_closing ends
  | case2 c lead => simp [meant?, lead] at meant
  | case3 c lead rest => simp [meant?, lead] at meant
  | case4 c lead d rest other ih =>
    rw [meant?_lead lead other] at meant
    obtain ⟨v, meant_rest, rfl⟩ := Option.map_eq_some_iff.mp meant
    rw [read_lead_plain faithful lead other]
    exact map_eq_some_iff.mpr ⟨v, ih meant_rest, rfl⟩
  | case5 c rest no_lead ih =>
    rw [meant?_cons no_lead] at meant
    obtain ⟨v, meant_rest, rfl⟩ := Option.map_eq_some_iff.mp meant
    rw [read_cons_plain no_lead]
    exact map_eq_some_iff.mpr ⟨v, ih meant_rest, rfl⟩

theorem read_unpaired_ne :
    q.read (q.closing :: (s.flatMap q.plain.image ++ [q.closing])) ≠ some (w, []) := by
  induction s generalizing w with
  | nil =>
    rw [List.flatMap_nil, List.nil_append, read_doubled]
    exact nofun
  | cons d rest ih =>
    rw [List.flatMap_cons, image_plain, List.append_assoc]
    split
    next closes =>
      rw [closes, List.cons_append, read_doubled]
      intro ended
      obtain ⟨v, ended_rest, -⟩ := map_eq_some_iff.mp ended
      exact ih ended_rest
    next other =>
      have ends : q.read (q.closing :: d :: (rest.flatMap q.plain.image ++ [q.closing])) =
          some ([], _) :=
        read_closing fun same => other (Option.some.inj same)
      rw [List.singleton_append, ends]
      exact fun same => List.cons_ne_nil _ _ (Prod.mk.inj (Option.some.inj same)).2

theorem meant?_of_read (faithful : q.IsFaithful)
    (ended : q.read (s.flatMap q.plain.image ++ [q.closing]) = some (w, [])) :
    q.meant? s = some w := by
  induction s using meant?.induct q generalizing w with
  | case1 =>
    have ended_at_once : q.read [q.closing] = some ([], []) := read_closing nofun
    exact congrArg (Option.map Prod.fst) (ended_at_once.symm.trans ended)
  | case2 c lead =>
    have open_still : c ≠ q.closing := (faithful c lead).1
    rw [List.flatMap_singleton, image_plain_of_ne open_still, List.singleton_append,
      read_lead lead open_still] at ended
    cases ended
  | case3 c lead rest =>
    have open_still : c ≠ q.closing := (faithful c lead).1
    rw [List.flatMap_cons, List.flatMap_cons, image_plain_of_ne open_still, image_plain, if_pos rfl,
      List.append_assoc,
      List.append_assoc, List.singleton_append, List.cons_append, read_lead lead open_still]
        at ended
    obtain ⟨v, ended_rest, -⟩ := map_eq_some_iff.mp ended
    exact absurd ended_rest read_unpaired_ne
  | case4 c lead d rest other ih =>
    rw [read_lead_plain faithful lead other] at ended
    obtain ⟨v, ended_rest, rfl⟩ := map_eq_some_iff.mp ended
    rw [meant?_lead lead other, ih ended_rest]
    rfl
  | case5 c rest no_lead ih =>
    rw [read_cons_plain no_lead] at ended
    obtain ⟨v, ended_rest, rfl⟩ := map_eq_some_iff.mp ended
    rw [meant?_cons no_lead, ih ended_rest]
    rfl

theorem KeepsLeads.tail (keeps : q.KeepsLeads (c :: s)) :
    q.KeepsLeads s := fun before l after split =>
  keeps (c :: before) l after (congrArg (c :: ·) split)

theorem KeepsLeads.cons (no_lead : q.lead? ≠ some c) (keeps : q.KeepsLeads s) :
    q.KeepsLeads (c :: s) := by
  intro before l after split lead
  cases before with
  | nil =>
    obtain ⟨rfl, -⟩ := List.cons.inj split
    exact absurd lead no_lead
  | cons b before =>
    obtain ⟨-, split_rest⟩ := List.cons.inj split
    exact keeps before l after split_rest lead

theorem KeepsLeads.cons_lead (no_lead : q.lead? ≠ some d) (other : d ≠ q.closing)
    (kept : q.meaning d = [c, d]) (keeps : q.KeepsLeads s) : q.KeepsLeads (c :: d :: s) := by
  intro before l after split lead'
  cases before with
  | nil =>
    obtain ⟨rfl, rfl⟩ := List.cons.inj split
    exact ⟨d, s, rfl, other, kept⟩
  | cons b before =>
    obtain ⟨-, split_rest⟩ := List.cons.inj split
    exact keeps.cons no_lead before l after split_rest lead'

theorem meant?_of_keepsLeads (keeps : q.KeepsLeads s) : q.meant? s = some s := by
  induction s using meant?.induct q with
  | case1 => rfl
  | case2 c lead =>
    obtain ⟨d, rest, behind, -⟩ := keeps [] c [] rfl lead
    cases behind
  | case3 c lead rest =>
    obtain ⟨d, rest, behind, other, -⟩ := keeps [] c _ rfl lead
    exact absurd (List.cons.inj behind).1.symm other
  | case4 c lead d rest other ih =>
    obtain ⟨d', rest', behind, -, kept⟩ := keeps [] c _ rfl lead
    obtain ⟨rfl, rfl⟩ := List.cons.inj behind
    rw [meant?_lead lead other, ih keeps.tail.tail, kept]
    rfl
  | case5 c rest no_lead ih =>
    rw [meant?_cons no_lead, ih keeps.tail]
    rfl

theorem length_of_meant? (faithful : q.IsFaithful) (modest : q.IsModest)
    (meant : q.meant? s = some w) :
    w.length ≤ s.length ∧ (w.length = s.length → q.KeepsLeads s) := by
  induction s using meant?.induct q generalizing w with
  | case1 =>
    cases meant
    exact ⟨Nat.le_refl _, fun _ before l after split => by simp at split⟩
  | case2 c lead => simp [meant?, lead] at meant
  | case3 c lead rest => simp [meant?, lead] at meant
  | case4 c lead d rest other ih =>
    rw [meant?_lead lead other] at meant
    obtain ⟨v, meant_rest, rfl⟩ := Option.map_eq_some_iff.mp meant
    obtain ⟨shorter, keeps⟩ := ih meant_rest
    simp only [List.length_append, List.length_cons]
    rcases modest c d lead with one | kept
    · exact ⟨by omega, fun same => absurd same (by omega)⟩
    · -- a doubled lead means one, so that the character behind this one is no lead
      have no_lead : q.lead? ≠ some d := fun lead' => by
        rw [(faithful d lead').2] at kept
        cases kept
      have both : (q.meaning d).length = 2 := congrArg List.length kept
      exact ⟨by omega, fun same => (keeps (by omega)).cons_lead no_lead other kept⟩
  | case5 c rest no_lead ih =>
    rw [meant?_cons no_lead] at meant
    obtain ⟨v, meant_rest, rfl⟩ := Option.map_eq_some_iff.mp meant
    obtain ⟨shorter, keeps⟩ := ih meant_rest
    exact ⟨Nat.succ_le_succ shorter, fun same => (keeps (Nat.succ.inj same)).cons no_lead⟩

theorem lex_write_plain :
    q.lex (q.plain.write s ++ rest) = q.read (s.flatMap q.plain.image ++ q.closing :: rest) := by
  rw [write, List.cons_append, List.append_assoc, lex,
    if_pos (show q.plain.opening = q.opening from rfl)]
  rfl

theorem reads_write_plain (faithful : q.IsFaithful) (keeps : q.KeepsLeads s) :
    q.Reads (q.plain.write s) s := by
  intro following ends
  rw [lex_write_plain]
  exact read_of_meant? faithful ends (meant?_of_keepsLeads keeps)

theorem lex_write_plain_eq_iff (faithful : q.IsFaithful) (modest : q.IsModest) :
    q.lex (q.plain.write s) = some (s, []) ↔ q.KeepsLeads s := by
  constructor
  · intro ended
    rw [← List.append_nil (q.plain.write s), lex_write_plain] at ended
    exact (length_of_meant? faithful modest (meant?_of_read faithful ended)).2 rfl
  · intro keeps
    have read := reads_write_plain faithful keeps [] nofun
    rwa [List.append_nil] at read

end SchemaMigration.Text.Quotation
