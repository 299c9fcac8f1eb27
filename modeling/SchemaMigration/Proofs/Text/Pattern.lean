
namespace SchemaMigration.Text

inductive Pattern
  | one (kind : Char → Bool)
  | most (kind : Char → Bool)
  | fewest (kind : Char → Bool)
  | seq (p q : Pattern)
  | maybe (p : Pattern)
  | group (number : Nat) (p : Pattern)
  | stop

/-- A way to match the start of a text: what is taken of it, what is left, and the texts of the
groups. -/
structure Match where
  taken : List Char
  rest : List Char
  groups : List (Nat × List Char)

namespace Match

def nothing (s : List Char) : Match := ⟨[], s, []⟩

def append (m n : Match) : Match := ⟨m.taken ++ n.taken, n.rest, m.groups ++ n.groups⟩

def keep (number : Nat) (m : Match) : Match := { m with groups := (number, m.taken) :: m.groups }

def IsOf (m : Match) (s : List Char) : Prop := s = m.taken ++ m.rest

variable {m n : Match} {s : List Char}

@[simp] theorem taken_append : (m.append n).taken = m.taken ++ n.taken := rfl

@[simp] theorem rest_append : (m.append n).rest = n.rest := rfl

@[simp] theorem groups_append : (m.append n).groups = m.groups ++ n.groups := rfl

theorem eq_nothing_iff : m = nothing s ↔ (m.taken = [] ∧ m.groups = []) ∧ m.IsOf s := by
  obtain ⟨taken, rest, groups⟩ := m
  constructor
  · intro same
    cases same
    exact ⟨⟨rfl, rfl⟩, rfl⟩
  · rintro ⟨⟨rfl, rfl⟩, rfl⟩
    rfl

theorem isOf_append_iff (behind : n.IsOf m.rest) : (m.append n).IsOf s ↔ m.IsOf s := by
  rw [IsOf, IsOf, behind, taken_append, rest_append, List.append_assoc]

end Match

namespace Pattern

def leads (kind : Char → Bool) : List Char → List Match
  | [] => [.nothing []]
  | c :: s =>
    .nothing (c :: s) :: if kind c then (leads kind s).map (Match.append ⟨[c], s, []⟩) else []

/-- The ways to match a pattern at the start of a text, in the order in which they are tried. -/
def ways : Pattern → List Char → List Match
  | one _, [] => []
  | one kind, c :: s => if kind c then [⟨[c], s, []⟩] else []
  | most kind, s => (leads kind s).reverse
  | fewest kind, s => leads kind s
  | seq p q, s => (p.ways s).flatMap fun m => (q.ways m.rest).map m.append
  | maybe p, s => p.ways s ++ [.nothing s]
  | group number p, s => (p.ways s).map (Match.keep number)
  | stop, s => if s = [] ∨ s = ['\n'] then [.nothing s] else []

/-- The groups of the way that is tried first. -/
def match? (p : Pattern) (s : List Char) : Option (List (Nat × List Char)) :=
  (p.ways s).head?.map Match.groups

/-- Whether a match is one of a pattern, whatever is tried first. -/
def Fits : Pattern → Match → Prop
  | one kind, m => (∃ c, m.taken = [c] ∧ kind c = true) ∧ m.groups = []
  | most kind, m => (∀ c ∈ m.taken, kind c = true) ∧ m.groups = []
  | fewest kind, m => (∀ c ∈ m.taken, kind c = true) ∧ m.groups = []
  | seq p q, m => ∃ a b, p.Fits a ∧ q.Fits b ∧ b.IsOf a.rest ∧ m = a.append b
  | maybe p, m => p.Fits m ∨ m.taken = [] ∧ m.groups = []
  | group number p, m => ∃ a, p.Fits a ∧ m = a.keep number
  | stop, m => (m.rest = [] ∨ m.rest = ['\n']) ∧ m.taken = [] ∧ m.groups = []

variable {p q : Pattern} {m n : Match} {c : Char} {s v w rest : List Char} {kind : Char → Bool}
  {number : Nat}
  {groups groups' : List (Nat × List Char)}

theorem Fits.one (is_kind : kind c = true) : (Pattern.one kind).Fits ⟨[c], rest, []⟩ :=
  ⟨⟨c, rfl, is_kind⟩, rfl⟩

theorem Fits.most (all_kind : ∀ c ∈ w, kind c = true) : (Pattern.most kind).Fits ⟨w, rest, []⟩ :=
  ⟨all_kind, rfl⟩

theorem Fits.fewest (all_kind : ∀ c ∈ w, kind c = true) :
    (Pattern.fewest kind).Fits ⟨w, rest, []⟩ := ⟨all_kind, rfl⟩

theorem fits_seq_iff : (seq p q).Fits ⟨s, rest, groups⟩ ↔ ∃ v w a b,
    p.Fits ⟨v, w ++ rest, a⟩ ∧ q.Fits ⟨w, rest, b⟩ ∧ s = v ++ w ∧ groups = a ++ b := by
  constructor
  · rintro ⟨⟨v, _, a⟩, ⟨w, _, b⟩, first, second, rfl, same⟩
    cases same
    exact ⟨v, w, a, b, first, second, rfl, rfl⟩
  · rintro ⟨v, w, a, b, first, second, rfl, rfl⟩
    exact ⟨_, _, first, second, rfl, rfl⟩

theorem Fits.seq (first : p.Fits ⟨v, w ++ rest, groups⟩) (second : q.Fits ⟨w, rest, groups'⟩) :
    (Pattern.seq p q).Fits ⟨v ++ w, rest, groups ++ groups'⟩ :=
      fits_seq_iff.mpr ⟨v, w, _, _, first, second, rfl, rfl⟩

theorem fits_group_iff : (group number p).Fits ⟨s, rest, groups⟩ ↔
    ∃ a, p.Fits ⟨s, rest, a⟩ ∧ groups = (number, s) :: a := by
  constructor
  · rintro ⟨⟨_, _, a⟩, fits, same⟩
    cases same
    exact ⟨a, fits, rfl⟩
  · rintro ⟨a, fits, rfl⟩
    exact ⟨_, fits, rfl⟩

theorem Fits.group (fits : p.Fits ⟨w, rest, groups⟩) :
    (Pattern.group number p).Fits ⟨w, rest, (number, w) :: groups⟩ :=
  fits_group_iff.mpr ⟨groups, fits, rfl⟩

theorem mem_leads_iff : m ∈ leads kind s ↔ (most kind).Fits m ∧ m.IsOf s := by
  induction s generalizing m with
  | nil =>
    rw [leads, List.mem_singleton, Match.eq_nothing_iff, Fits]
    refine and_congr_left fun whole => ?_
    rw [(List.append_eq_nil_iff.mp whole.symm).1]
    simp
  | cons c s ih =>
    rw [leads, List.mem_cons]
    constructor
    · rintro (rfl | later)
      · exact ⟨⟨nofun, rfl⟩, rfl⟩
      · split at later
        next is_kind =>
          obtain ⟨n, there, rfl⟩ := List.mem_map.mp later
          obtain ⟨⟨all_kind, no_group⟩, whole⟩ := ih.mp there
          exact ⟨⟨List.forall_mem_cons.mpr ⟨is_kind, all_kind⟩, no_group⟩, congrArg (c :: ·) whole⟩
        next => cases later
    · rintro ⟨⟨all_kind, no_group⟩, whole⟩
      obtain ⟨taken, rest, groups⟩ := m
      cases taken with
      | nil => exact .inl (Match.eq_nothing_iff.mpr ⟨⟨rfl, no_group⟩, whole⟩)
      | cons d taken =>
        obtain ⟨rfl, whole⟩ := List.cons.inj whole
        obtain ⟨is_kind, all_kind⟩ := List.forall_mem_cons.mp all_kind
        rw [if_pos is_kind]
        exact .inr (List.mem_map.mpr ⟨⟨taken, rest, groups⟩,
          ih.mpr ⟨⟨all_kind, no_group⟩, whole⟩, rfl⟩)

theorem mem_ways_iff : m ∈ p.ways s ↔ p.Fits m ∧ m.IsOf s := by
  induction p generalizing m s with
  | one kind =>
    constructor
    · intro there
      cases s with
      | nil => cases there
      | cons c s =>
        obtain ⟨is_kind, only⟩ := List.mem_ite_nil_right.mp there
        rw [List.mem_singleton.mp only]
        exact ⟨⟨⟨c, rfl, is_kind⟩, rfl⟩, rfl⟩
    · obtain ⟨taken, rest, groups⟩ := m
      rintro ⟨⟨⟨c, rfl, is_kind⟩, rfl⟩, rfl⟩
      exact List.mem_ite_nil_right.mpr ⟨is_kind, List.mem_singleton_self _⟩
  | most kind => rw [ways, List.mem_reverse, mem_leads_iff]
  | fewest kind => exact mem_leads_iff
  | seq p q ihp ihq =>
    simp only [ways, Fits, List.mem_flatMap, List.mem_map, ihp, ihq]
    constructor
    · rintro ⟨a, ⟨first, whole⟩, b, ⟨second, behind⟩, rfl⟩
      exact ⟨⟨a, b, first, second, behind, rfl⟩, (Match.isOf_append_iff behind).mpr whole⟩
    · rintro ⟨⟨a, b, first, second, behind, rfl⟩, whole⟩
      exact ⟨a, ⟨first, (Match.isOf_append_iff behind).mp whole⟩, b, ⟨second, behind⟩, rfl⟩
  | maybe p ih =>
    rw [ways, Fits, List.mem_append, List.mem_singleton, ih, Match.eq_nothing_iff, or_and_right]
  | group number p ih =>
    simp only [ways, Fits, List.mem_map, ih]
    constructor
    · rintro ⟨a, ⟨fits, whole⟩, rfl⟩
      exact ⟨⟨a, fits, rfl⟩, whole⟩
    · rintro ⟨⟨a, fits, rfl⟩, whole⟩
      exact ⟨a, ⟨fits, whole⟩, rfl⟩
  | stop =>
    rw [ways, Fits, List.mem_ite_nil_right, List.mem_singleton, Match.eq_nothing_iff, ← and_assoc]
    refine and_congr_left fun whole => and_congr_left fun empty => ?_
    rw [whole, empty.1, List.nil_append]

theorem match?_eq_none_iff : p.match? s = none ↔ ∀ m, p.Fits m → ¬m.IsOf s := by
  simp [match?, List.eq_nil_iff_forall_not_mem, mem_ways_iff]

theorem exists_first (fits : p.Fits m) (whole : m.IsOf s) :
    ∃ first ∈ (p.ways s).head?, p.match? s = some first.groups := by
  obtain ⟨first, others, ways_eq⟩ :=
    List.exists_cons_of_ne_nil (List.ne_nil_of_mem (mem_ways_iff.mpr ⟨fits, whole⟩))
  exact ⟨first, by rw [ways_eq]; rfl, by rw [match?, ways_eq]; rfl⟩

theorem first_seq (first : m ∈ ((seq p q).ways s).head?) :
    ∃ before a after b, p.ways s = before ++ a :: after ∧
    (∀ x ∈ before, q.ways x.rest = []) ∧ b ∈ (q.ways a.rest).head? ∧ m = a.append b := by
  rw [ways, List.head?_flatMap, Option.mem_def, List.findSome?_eq_some_iff] at first
  obtain ⟨before, a, after, split, found, given_up⟩ := first
  rw [List.head?_map, Option.map_eq_some_iff] at found
  obtain ⟨b, first_behind, rfl⟩ := found
  exact ⟨before, a, after, b, split, fun x hx => by simpa using given_up x hx, first_behind, rfl⟩

def IsAscending (p : Pattern) : Prop :=
  ∀ s, (p.ways s).Pairwise fun a b => a.taken.length < b.taken.length

theorem isAscending_fewest : (fewest kind).IsAscending := by
  intro s
  rw [ways]
  induction s with
  | nil => exact List.pairwise_singleton _ _
  | cons c s ih =>
    rw [leads, List.pairwise_cons]
    split
    next =>
      refine ⟨fun m there => ?_, ?_⟩
      · obtain ⟨n, -, rfl⟩ := List.mem_map.mp there
        exact Nat.zero_lt_succ _
      · exact List.pairwise_map.mpr (ih.imp fun shorter => Nat.succ_lt_succ shorter)
    next => exact ⟨nofun, .nil⟩

theorem IsAscending.one_seq (ascending : p.IsAscending) : (seq (one kind) p).IsAscending := by
  intro s
  cases s with
  | nil => exact .nil
  | cons c s =>
    rw [ways, ways]
    split
    next =>
      rw [List.flatMap_singleton, List.pairwise_map]
      exact (ascending s).imp fun shorter => Nat.succ_lt_succ shorter
    next => exact .nil

theorem IsAscending.group (ascending : p.IsAscending) : (group number p).IsAscending := by
  intro s
  rw [ways, List.pairwise_map]
  exact ascending s

theorem IsAscending.first_seq (ascending : p.IsAscending) (first : m ∈ ((seq p q).ways s).head?) :
    ∃ a b, (p.Fits a ∧ a.IsOf s) ∧ (q.Fits b ∧ b.IsOf a.rest) ∧ m = a.append b ∧
      ∀ a' b', p.Fits a' → a'.IsOf s → q.Fits b' → b'.IsOf a'.rest →
        a.taken.length ≤ a'.taken.length := by
  obtain ⟨before, a, after, b, split, given_up, first_behind, rfl⟩ := Pattern.first_seq first
  refine ⟨a, b, mem_ways_iff.mp (split ▸ List.mem_append_cons_self),
    mem_ways_iff.mp (List.mem_of_mem_head? first_behind),
    rfl, fun a' b' fits whole fits_behind behind => ?_⟩
  have there : a' ∈ before ++ a :: after := split ▸ mem_ways_iff.mpr ⟨fits, whole⟩
  rcases List.mem_append.mp there with earlier | later
  · -- an earlier way was given up, so that it cannot be gone on from
    have there_behind := mem_ways_iff.mpr ⟨fits_behind, behind⟩
    rw [given_up a' earlier] at there_behind
    cases there_behind
  · rcases List.mem_cons.mp later with rfl | later
    · exact Nat.le_refl _
    · have sorted := split ▸ ascending s
      exact Nat.le_of_lt (List.rel_of_pairwise_cons (List.pairwise_append.mp sorted).2.1 later)

end Pattern

end SchemaMigration.Text
