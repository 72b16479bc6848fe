import Firewall.Number.Read
import Firewall.Text.Utf8
import Firewall.Yaml.QuotedScalar
import Firewall.Yaml.Token

/-!
# Anchors, tags and instructions

The parts of a text that begin with an ampersand, an asterisk, an exclamation mark or, at the start
of a line, a percent sign.
-/

namespace Firewall.Yaml

/-- Whether `c` may stand in the name of an anchor or of a handle. -/
def isNameChar (c : Char) : Bool := c.isAlphanum || c == '-' || c == '_'

def isTagChar (c : Char) : Bool := c.isAlphanum || "-;/?:@&=+$,_.!~*'()[]%".toList.contains c

/-- Reads the name of an anchor or an alias whose sign is next. -/
def anchorName (c : Cursor) : Except Fault (String × Cursor) :=
  let c := c.next
  let name := c.run isNameChar
  let c := c.skip isNameChar
  if name.isEmpty then .error .malformed
  else if endsToken c.peek || c.peek.any ("?:,]\x7d%@`".toList.contains ·) then
    .ok (String.ofList name, c)
  else .error .malformed

/-- The bytes of the escapes that begin here, each a percent sign and two hexadecimal digits. -/
def tagEscapes : List Char → Option (List UInt8 × List Char)
  | '%' :: a :: b :: rest => do
    let n ← hexValue? [a, b]
    let (bs, rest) ← tagEscapes rest
    return (UInt8.ofNat n :: bs, rest)
  | '%' :: _ => none
  | rest => some ([], rest)

/-- The characters of the name of a tag from here on, escapes resolved, and their number in the
text. -/
def tagName : (fuel : Nat) → List Char → Option (List Char × Nat)
  | 0, _ => some ([], 0)
  | n + 1, cs =>
    match cs with
    | [] => some ([], 0)
    | ch :: rest =>
      if ch = '%' then do
        let (bs, after) ← tagEscapes cs
        let part ← (Text.Utf8.decode bs).toOption
        let (name, size) ← tagName n after
        return (part ++ name, cs.length - after.length + size)
      else if isTagChar ch then (tagName n rest).map fun (name, size) => (ch :: name, size + 1)
      else some ([], 0)

/-- Reads the name of a tag, which is not empty. -/
def readTagName (c : Cursor) : Except Fault (String × Cursor) :=
  match tagName c.left c.rest with
  | some (name, size) =>
    if size = 0 then .error .malformed else .ok (String.ofList name, c.advance size)
  | none => .error .malformed

/-- Reads a handle: an exclamation mark alone or around a name. -/
def readHandle (c : Cursor) : Except Fault (String × Cursor) :=
  if !c.at? '!' then .error .malformed
  else if c.peekAt 1 = some ' ' then .ok ("!", c.next)
  else
    let name := c.next.run isNameChar
    if c.peekAt (name.length + 1) = some '!' then
      .ok (String.ofList ('!' :: name ++ ['!']), c.advance (name.length + 2))
    else .error .malformed

/-- Whether the tag whose exclamation mark was just passed has a second one before the next space
or line end. -/
def hasHandle (c : Cursor) : Bool := (c.run fun ch => !(isBreak ch || ch == ' ')).contains '!'

def readTag (c : Cursor) : Except Fault (WrittenTag × Cursor) := do
  let (tag, c) : WrittenTag × Cursor ←
    if c.peekAt 1 = some '<' then do
      let (name, c) ← readTagName (c.advance 2)
      if c.at? '>' then .ok (.whole name, c.next) else .error .malformed
    else if endsToken (c.peekAt 1) then .ok (.whole "!", c.next)
    else do
      let (handle, c) ← if hasHandle c.next then readHandle c else .ok ("!", c.next)
      let (suffix, c) ← readTagName c
      .ok (.short handle suffix, c)
  if endsName c.peek then return (tag, c) else throw .malformed

def readNumber (c : Cursor) : Except Fault (Nat × Cursor) :=
  let ds := c.run Char.isDigit
  if ds.isEmpty then .error .malformed
  else if Number.maxDigits < ds.length then .error (.scalar .notNumber)
  else .ok (Number.digitsValue 10 ds, c.skip Char.isDigit)

def readInstructionValue (name : String) (c : Cursor) : Except Fault (Instruction × Cursor) := do
  if name = "YAML" then
    let (major, c) ← readNumber c.skipSpaces
    if !c.at? '.' then throw .malformed
    let (minor, c) ← readNumber c.next
    if !endsName c.peek then throw .malformed
    return (.version major minor, c)
  else if name = "TAG" then
    let (handle, c) ← readHandle c.skipSpaces
    if !c.at? ' ' then throw .malformed
    let (expansion, c) ← readTagName c.skipSpaces
    if !endsName c.peek then throw .malformed
    return (.handle handle expansion, c)
  else return (.other, c.skipLine)

/-- Reads the instruction that begins here, to the end of its line. -/
def readInstruction (c : Cursor) : Except Fault (Instruction × Cursor) := do
  let c := c.next
  let name := c.run isNameChar
  let c := c.skip isNameChar
  if name.isEmpty || !endsName c.peek then throw .malformed
  let (i, c) ← readInstructionValue (String.ofList name) c
  return (i, ← c.finishLine)

end Firewall.Yaml
