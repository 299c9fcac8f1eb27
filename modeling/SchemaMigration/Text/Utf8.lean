
namespace SchemaMigration.Text

/-- A character with `n` more bytes, the first of which lies between two limits; what is left starts
at the first byte that does not belong to it. -/
def followed (value : Nat) : Nat → Nat → Nat → List Nat → Option Nat × List Nat
  | 0, _, _, rest => (some value, rest)
  | _ + 1, _, _, [] => (none, [])
  | n + 1, low, high, b :: rest =>
    if low ≤ b && b ≤ high then followed (value * 64 + b % 64) n 0x80 0xBF rest
    else (none, b :: rest)

/-- The character that starts with a byte. No character is written with more bytes than it needs,
and surrogates are none. -/
def ledBy (b : Nat) (rest : List Nat) : Option Nat × List Nat :=
  if b < 0x80 then (some b, rest)
  else if b < 0xC2 then (none, rest)
  else if b < 0xE0 then followed (b % 32) 1 0x80 0xBF rest
  else if b < 0xF0 then
    followed (b % 16) 2 (if b == 0xE0 then 0xA0 else 0x80) (if b == 0xED then 0x9F else 0xBF) rest
  else if b < 0xF5 then
    followed (b % 8) 3 (if b == 0xF0 then 0x90 else 0x80) (if b == 0xF4 then 0x8F else 0xBF) rest
  else (none, rest)

theorem length_followed_le (value n low high : Nat) (s : List Nat) :
    (followed value n low high s).2.length ≤ s.length := by
  induction n generalizing value low high s with
  | zero => simp [followed]
  | succ n ih =>
    cases s with
    | nil => simp [followed]
    | cons b rest =>
      rw [followed]
      split
      · exact Nat.le_succ_of_le (ih ..)
      · simp

theorem length_ledBy_le (b : Nat) (rest : List Nat) : (ledBy b rest).2.length ≤ rest.length := by
  unfold ledBy
  repeat' split
  all_goals first
    | exact length_followed_le ..
    | exact Nat.le_refl _

def decoded (bytes : List Nat) : List (Option Char) :=
  match bytes with
  | [] => []
  | b :: rest => ((ledBy b rest).1.map Char.ofNat) :: decoded (ledBy b rest).2
termination_by bytes.length
decreasing_by exact Nat.lt_succ_of_le (length_ledBy_le b rest)

def ofBytes? (bytes : List Nat) : Option (List Char) := (decoded bytes).mapM id

def ofBytes (bytes : List Nat) : List Char := (decoded bytes).map (·.getD '\uFFFD')

end SchemaMigration.Text
