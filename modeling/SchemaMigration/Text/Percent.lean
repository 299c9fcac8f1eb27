import SchemaMigration.Json.Reader
import SchemaMigration.Text.Utf8

namespace SchemaMigration.Text

def unescapedBytes : List Char → List Nat
  | '%' :: high :: low :: rest =>
    match Json.hexValue? high, Json.hexValue? low with
    | some h, some l => (h * 16 + l) :: unescapedBytes rest
    | _, _ => 0x25 :: unescapedBytes (high :: low :: rest)
  | c :: rest => c.toNat :: unescapedBytes rest
  | [] => []

/-- The text of which some characters are written by their bytes. Bytes that are no text of their
own are marked; characters beyond ASCII stand for themselves. -/
def unescapedRuns : Nat → List Char → List Char
  | 0, s => s
  | _, [] => []
  | fuel + 1, c :: rest =>
    let s := c :: rest
    if c.toNat < 0x80 then
      let isPlain := fun c : Char => c.toNat < 0x80
      ofBytes (unescapedBytes (s.takeWhile isPlain)) ++ unescapedRuns fuel (s.dropWhile isPlain)
    else c :: unescapedRuns fuel rest

def unescaped (s : List Char) : List Char := unescapedRuns (s.length + 1) s

def upperHexDigit (n : Nat) : Char := Char.ofNat (if n < 10 then 0x30 + n else 0x37 + n)

def escapedChar (c : Char) : List Char :=
  (String.ofList [c]).toUTF8.toList.flatMap fun b =>
    ['%', upperHexDigit (b.toNat / 16), upperHexDigit (b.toNat % 16)]

def isUnreserved (c : Char) : Bool := c.isAlphanum || "_.-~".toList.contains c

def escaped (safe : List Char) (s : List Char) : List Char :=
  s.flatMap fun c => if isUnreserved c || safe.contains c then [c] else escapedChar c

def escapedInQuery (s : List Char) : List Char :=
  (escaped [' '] s).map fun c => if c == ' ' then '+' else c

end SchemaMigration.Text
