import Firewall.Yaml.Fault

/-!
# Places in a text

A cursor is the rest of a text with the place where it begins. Moving on past a line end starts the
next line; a byte order mark takes no column.
-/

namespace Firewall.Yaml

def isBreak (c : Char) : Bool :=
  c == '\n' || c == '\r' || c == '\x85' || c == '\u2028' || c == '\u2029'

/-- Whether `c` is a space or a tab. -/
def isBlank (c : Char) : Bool := c == ' ' || c == '\t'

/-- Whether nothing follows, or a line end. -/
def endsLine (c : Option Char) : Bool := c.all isBreak

/-- Whether nothing follows, or a line end or a space. -/
def endsName (c : Option Char) : Bool := c.all fun c => isBreak c || c == ' '

/-- Whether nothing follows, or a line end, a space or a tab. -/
def endsToken (c : Option Char) : Bool := c.all fun c => isBreak c || isBlank c

/-- A place in a text with the rest of the text and its length. -/
structure Cursor where
  rest : List Char
  left : Nat
  index : Nat
  line : Nat
  column : Nat

namespace Cursor

def start (cs : List Char) : Cursor := ⟨cs, cs.length, 0, 0, 0⟩

def peek (c : Cursor) : Option Char := c.rest.head?

/-- The character after `k` others. -/
def peekAt (c : Cursor) (k : Nat) : Option Char := c.rest[k]?

def at? (c : Cursor) (ch : Char) : Bool := c.peek == some ch

def next (c : Cursor) : Cursor :=
  match c.rest with
  | [] => c
  | '\r' :: '\n' :: rest => ⟨'\n' :: rest, c.left - 1, c.index + 1, c.line, c.column + 1⟩
  | ch :: rest =>
    if isBreak ch then ⟨rest, c.left - 1, c.index + 1, c.line + 1, 0⟩
    else if ch = '\uFEFF' then ⟨rest, c.left - 1, c.index + 1, c.line, c.column⟩
    else ⟨rest, c.left - 1, c.index + 1, c.line, c.column + 1⟩

def advance (c : Cursor) : Nat → Cursor
  | 0 => c
  | n + 1 => c.next.advance n

/-- The next characters that pass `p`. -/
def run (c : Cursor) (p : Char → Bool) : List Char := c.rest.takeWhile p

/-- Moves past the next characters that pass `p`. -/
def skip (c : Cursor) (p : Char → Bool) : Cursor := c.advance (c.run p).length

def skipSpaces (c : Cursor) : Cursor := c.skip (· == ' ')

def skipLine (c : Cursor) : Cursor := c.skip fun ch => !isBreak ch

def skipComment (c : Cursor) : Cursor := if c.at? '#' then c.skipLine else c

/-- Takes a line end: a separator of lines or paragraphs stays what it is, all else is a line
feed. -/
def takeBreak? (c : Cursor) : Option (Char × Cursor) :=
  match c.rest with
  | '\r' :: '\n' :: _ => some ('\n', c.advance 2)
  | ch :: _ =>
    if ch = '\u2028' ∨ ch = '\u2029' then some (ch, c.next)
    else if isBreak ch then some ('\n', c.next)
    else none
  | [] => none

def skipBreak (c : Cursor) : Cursor := (c.takeBreak?.map (·.2)).getD c

/-- Moves past spaces and a comment to the next line; nothing else may stand before it. -/
def finishLine (c : Cursor) : Except Fault Cursor :=
  let c := c.skipSpaces.skipComment
  if endsLine c.peek then .ok c.skipBreak else .error .malformed

/-- Whether a mark of three hyphens or three dots begins here and stands alone. -/
def atMark (c : Cursor) (ch : Char) : Bool :=
  c.rest.take 3 == [ch, ch, ch] && endsToken (c.peekAt 3)

/-- Whether a mark between documents begins here. -/
def atDocumentMark (c : Cursor) : Bool := c.atMark '-' || c.atMark '.'

end Cursor

/-- The text of a line end and the empty lines after it inside a flowing scalar: a single line feed
becomes a space, and a line feed before empty lines vanishes. -/
def foldBreaks (first : Char) (empty : List Char) : List Char :=
  if first ≠ '\n' then first :: empty else if empty.isEmpty then [' '] else empty

end Firewall.Yaml
