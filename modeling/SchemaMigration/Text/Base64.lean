
namespace SchemaMigration.Text

def digit64? (c : Char) : Option Nat :=
  if 'A' ≤ c && c ≤ 'Z' then some (c.toNat - 0x41)
  else if 'a' ≤ c && c ≤ 'z' then some (c.toNat - 0x47)
  else if '0' ≤ c && c ≤ '9' then some (c.toNat + 4)
  else if c == '+' then some 62
  else if c == '/' then some 63
  else none

/-- The bytes of digits from here on. Of a group, `place` digits are read, whose bits that are not
in a byte yet are `left`, and then so many marks that fill it up. Other characters do not count. A
group that is not full is no bytes. -/
def bytes64? (place left marks : Nat) : List Char → Option (List Nat)
  | [] => if place == 0 then some [] else none
  | '=' :: rest =>
    if 2 ≤ place && 4 ≤ place + marks + 1 then some []
    else bytes64? place left (if 2 ≤ place then marks + 1 else marks) rest
  | c :: rest =>
    match digit64? c, place with
    | none, _ => bytes64? place left marks rest
    | some d, 0 => bytes64? 1 d 0 rest
    | some d, 1 => (bytes64? 2 (d % 16) 0 rest).map ((left * 4 + d / 16) :: ·)
    | some d, 2 => (bytes64? 3 (d % 4) 0 rest).map ((left * 16 + d / 4) :: ·)
    | some d, _ => (bytes64? 0 0 0 rest).map ((left * 64 + d) :: ·)

end SchemaMigration.Text
