import SchemaMigration.Text.Utf8
import SchemaMigration.Yaml.Cursor
import SchemaMigration.Yaml.Token

namespace SchemaMigration.Yaml

def isAfterName (c : Char) : Bool := isBlank c || "?:,]\x7d%@\u0060".toList.contains c

def anchorName (cur : Cursor) : Except Fault (String × Cursor) :=
  let cur := cur.next
  let name := cur.rest.takeWhile isWordChar
  let after := cur.advance name.length
  if name.isEmpty || !((after.peek?.map isAfterName).getD true) then .error .malformed
  else .ok (String.ofList name, after)

def isTagChar (c : Char) : Bool :=
  c.isAlphanum || "-;/?:@&=+$,_.!~*'()[]%".toList.contains c

def escapedBytes : Nat → Cursor → Except Fault (List Nat × Cursor)
  | 0, cur => .ok ([], cur)
  | fuel + 1, cur =>
    match cur.rest with
    | '%' :: high :: low :: _ =>
      match Json.hexValue? high, Json.hexValue? low with
      | some high, some low => do
        let (bytes, cur) ← escapedBytes fuel (cur.advance 3)
        .ok ((high * 16 + low) :: bytes, cur)
      | _, _ => .error .malformed
    | '%' :: _ => .error .malformed
    | _ => .ok ([], cur)

def tagChars : Nat → Cursor → Except Fault (List Char × Cursor)
  | 0, cur => .ok ([], cur)
  | fuel + 1, cur =>
    match cur.peek? with
    | some '%' => do
      let (bytes, cur) ← escapedBytes (cur.rest.length + 1) cur
      let text ← orMalformed (Text.ofBytes? bytes)
      let (more, cur) ← tagChars fuel cur
      .ok (text ++ more, cur)
    | some c =>
      if isTagChar c then do
        let (more, cur) ← tagChars fuel cur.next
        .ok (c :: more, cur)
      else .ok ([], cur)
    | none => .ok ([], cur)

def tagText (cur : Cursor) : Except Fault (String × Cursor) := do
  let (text, after) ← tagChars (cur.rest.length + 1) cur
  if after.index == cur.index then .error .malformed
  else .ok (String.ofList text, after)

def tagHandle (cur : Cursor) : Except Fault (String × Cursor) :=
  match cur.rest with
  | '!' :: ' ' :: _ => .ok ("!", cur.next)
  | '!' :: rest =>
    let word := rest.takeWhile isWordChar
    if (rest.drop word.length).head? == some '!' then
      .ok (String.ofList ('!' :: word ++ ['!']), cur.advance (word.length + 2))
    else .error .malformed
  | _ => .error .malformed

def hasHandle (s : List Char) : Bool :=
  (s.takeWhile fun c => !isBreak c && c != ' ').contains '!'

def writtenTag (cur : Cursor) : Except Fault (WrittenTag × Cursor) := do
  let (tag, after) ←
    match cur.next.peek? with
    | some '<' => do
      let (suffix, after) ← tagText (cur.advance 2)
      if after.peek? == some '>' then .ok (⟨none, suffix⟩, after.next) else .error .malformed
    | c =>
      if (c.map isBlank).getD true then .ok (⟨none, "!"⟩, cur.next)
      else do
        let (handle, after) ←
          if hasHandle cur.next.rest then tagHandle cur else .ok ("!", cur.next)
        let (suffix, after) ← tagText after
        .ok ((⟨some handle, suffix⟩ : WrittenTag), after)
  if endsWord after.rest then .ok (tag, after) else .error .malformed

def versionNumber (cur : Cursor) : Except Fault (Nat × Cursor) :=
  let digits := cur.rest.takeWhile Json.isDigit
  if digits.isEmpty then .error .malformed
  else if Json.greatestLength < digits.length then .error (.number (.long digits.length))
  else .ok (Json.digitsValue digits, cur.advance digits.length)

def versionDirective (cur : Cursor) : Except Fault (Directive × Cursor) := do
  let (major, cur) ← versionNumber cur.skipSpaces
  if cur.peek? != some '.' then .error .malformed
  else
    let (_, cur) ← versionNumber cur.next
    if endsWord cur.rest then .ok (.version major, cur) else .error .malformed

def tagDirective (cur : Cursor) : Except Fault (Directive × Cursor) := do
  let (handle, cur) ← tagHandle cur.skipSpaces
  if cur.peek? != some ' ' then .error .malformed
  else
    let (start, cur) ← tagText cur.skipSpaces
    if endsWord cur.rest then .ok (.tag handle start, cur) else .error .malformed

def directive (cur : Cursor) : Except Fault (Directive × Cursor) := do
  let cur := cur.next
  let name := cur.rest.takeWhile isWordChar
  let after := cur.advance name.length
  if name.isEmpty || !endsWord after.rest then .error .malformed
  else
    let (d, after) ←
      if name == "YAML".toList then versionDirective after
      else if name == "TAG".toList then tagDirective after
      else .ok (.other, after.skipWhile fun c => !isBreak c)
    let after ← orMalformed after.lineEnd?
    .ok (d, after)

end SchemaMigration.Yaml
