import Firewall.Yaml.Cursor

/-!
# Block scalars

Texts given by indented lines after a bar or a greater-than sign. A literal text keeps its lines; a
folded one joins lines that do not begin with a blank. The header may fix the indentation and says
what becomes of the line ends after the text.
-/

namespace Firewall.Yaml

/-- What becomes of the line ends after a block scalar: one stays, all stay, or none. -/
inductive Chomping where
  | clip
  | keep
  | strip
  deriving DecidableEq

structure BlockHeader where
  chomping : Chomping
  increment : Option Nat

namespace BlockHeader

/-- The chomping that a sign asks for. -/
def chomping? : Option Char → Option Chomping
  | some '+' => some .keep
  | some '-' => some .strip
  | _ => none

/-- The value of a digit. -/
def increment? (ch : Option Char) : Option Nat :=
  (ch.filter Char.isDigit).map fun d => d.toNat - 48

/-- The sign and the digit that begin here, in any order, each if it is there. -/
def marks (c : Cursor) : BlockHeader × Cursor :=
  match chomping? c.peek, increment? c.peek with
  | some s, _ =>
    match increment? c.next.peek with
    | some d => (⟨s, some d⟩, c.advance 2)
    | none => (⟨s, none⟩, c.next)
  | none, some d =>
    match chomping? c.next.peek with
    | some s => (⟨s, some d⟩, c.advance 2)
    | none => (⟨.clip, some d⟩, c.next)
  | none, none => (⟨.clip, none⟩, c)

/-- Reads the header that begins here, to the end of its line. -/
def read (c : Cursor) : Except Fault (BlockHeader × Cursor) := do
  let (h, c) := marks c
  if h.increment = some 0 ∨ !endsName c.peek then throw .malformed
  return (h, ← c.finishLine)

end BlockHeader

/-- The empty lines that begin here, whatever their indentation, and the greatest indentation. -/
def leadingLines : (fuel : Nat) → (deepest : Nat) → Cursor → List Char × Nat × Cursor
  | 0, deepest, c => ([], deepest, c)
  | n + 1, deepest, c =>
    let c := c.skipSpaces
    let deepest := max deepest c.column
    match c.takeBreak? with
    | some (b, c) =>
      let (bs, deepest, c) := leadingLines n deepest c
      (b :: bs, deepest, c)
    | none => ([], deepest, c)

def Cursor.indentTo (c : Cursor) (indent : Nat) : Cursor :=
  c.advance (((c.run (· == ' ')).take (indent - c.column)).length)

/-- The empty lines that begin here, with the indentation of the next line. -/
def blockBreaks (indent : Nat) : (fuel : Nat) → Cursor → List Char × Cursor
  | 0, c => ([], c)
  | n + 1, c =>
    let c := c.indentTo indent
    match c.takeBreak? with
    | some (b, c) =>
      let (bs, c) := blockBreaks indent n c
      (b :: bs, c)
    | none => ([], c)

/-- Whether a line of the text begins here. -/
def atBlockLine (indent : Nat) (c : Cursor) : Bool := c.column == indent && !c.rest.isEmpty

/-- What stands between a line and the next. -/
def blockJoin (folded : Bool) (ended : Option Char) (indented : Bool) (breaks : List Char)
    (next : Option Char) : List Char :=
  if folded && ended == some '\n' && !indented && !next.any isBlank then
    (if breaks.isEmpty then [' '] else [])
  else ended.toList

/-- The lines from here on, the end of the last line, the empty lines after it, and the place
there. -/
def blockLines (folded : Bool) (indent : Nat) :
    (fuel : Nat) → (breaks : List Char) → Cursor → List Char × Option Char × List Char × Cursor
  | 0, breaks, c => ([], none, breaks, c)
  | n + 1, breaks, c =>
    let line := c.run fun ch => !isBreak ch
    let indented := c.peek.any isBlank
    let c := c.skipLine
    let ended := c.takeBreak?.map (·.1)
    let (after, c) := blockBreaks indent (c.left + 1) c.skipBreak
    if atBlockLine indent c then
      let (cs, last, rest, c') := blockLines folded indent n after c
      (breaks ++ line ++ blockJoin folded ended indented after c.peek ++ cs, last, rest, c')
    else (breaks ++ line, ended, after, c)

/-- The empty lines before the first line, the indentation of the lines, and the place there.
Without an increment in the header it is the greatest indentation of the empty lines, and `least` at
least. -/
def blockStart (h : BlockHeader) (least : Nat) (c : Cursor) : List Char × Nat × Cursor :=
  match h.increment with
  | some d =>
    let (breaks, c) := blockBreaks (least + d - 1) (c.left + 1) c
    (breaks, least + d - 1, c)
  | none =>
    let (breaks, deepest, c) := leadingLines (c.left + 1) 0 c
    (breaks, max least deepest, c)

/-- Reads the block scalar that begins here in a block indented by `indent`. -/
def blockScalar (folded : Bool) (indent : Int) (c : Cursor) : Except Fault (String × Cursor) := do
  let (h, c) ← BlockHeader.read c.next
  let (breaks, indent, c) := blockStart h (max (indent + 1) 1).toNat c
  let (cs, last, after, c) : List Char × Option Char × List Char × Cursor :=
    if atBlockLine indent c then blockLines folded indent (c.left + 1) breaks c
    else ([], none, breaks, c)
  let tail := match h.chomping with
    | .strip => []
    | .clip => last.toList
    | .keep => last.toList ++ after
  return (String.ofList (cs ++ tail), c)

end Firewall.Yaml
