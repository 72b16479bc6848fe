import Firewall.Text.Digit
import Firewall.Yaml.Cursor
import Firewall.Yaml.Token

/-!
# Quoted scalars

Texts between single or double quotes. Lines fold: a line end with the blanks around it becomes a
space, and empty lines become line feeds. Double quotes know escapes, also of a surrogate on its
own, which is no character: the text is torn there.
-/

namespace Firewall.Yaml

/-- The two kinds of quotes. -/
inductive Quote where
  | single
  | double
  deriving DecidableEq

def Quote.char : Quote → Char
  | .single => '\''
  | .double => '"'

def letterEscapes : List (Char × Char) :=
  [('0', '\x00'), ('a', '\x07'), ('b', '\x08'), ('t', '\t'), ('\t', '\t'), ('n', '\n'),
   ('v', '\x0B'), ('f', '\x0C'), ('r', '\r'), ('e', '\x1B'), (' ', ' '), ('"', '"'),
   ('\\', '\\'), ('/', '/'), ('N', '\x85'), ('_', '\xA0'), ('L', '\u2028'), ('P', '\u2029')]

/-- The escapes of a code point, with their numbers of hexadecimal digits. -/
def codeEscapes : List (Char × Nat) := [('x', 2), ('u', 4), ('U', 8)]

def hexValue? (cs : List Char) : Option Nat :=
  cs.foldl (fun n c => do
    let n ← n
    let d ← Text.digitValue? c
    if d < 16 then return n * 16 + d else none) (some 0)

/-- The character with a code point; a surrogate is none. -/
def charOfCode (n : Nat) : Except Fault (Option Char) :=
  if n.isValidChar then .ok (some (Char.ofNat n))
  else if n < 0x110000 then .ok none
  else if n < 0x80000000 then .error (.scalar .codeTooLarge)
  else .error (.scalar .codeOverflow)

/-- The character of the escape of `width` digits that begins here. -/
def codeEscape (width : Nat) (c : Cursor) : Except Fault (Option Char) :=
  let ds := c.rest.take width
  if ds.length < width then .error .malformed
  else match hexValue? ds with
    | some n => charOfCode n
    | none => .error .malformed

/-- The empty lines that begin here, with the blanks before the next text. -/
def emptyLines : (fuel : Nat) → Cursor → Except Fault (List Char × Cursor)
  | 0, _ => .error .malformed
  | n + 1, c =>
    if c.atDocumentMark then .error .malformed
    else
      let c := c.skip isBlank
      match c.takeBreak? with
      | some (b, c) => (emptyLines n c).map fun (bs, c) => (b :: bs, c)
      | none => .ok ([], c)

/-- The text of the blanks and line ends that begin here. -/
def quotedBlanks (c : Cursor) : Except Fault (List Char × Cursor) :=
  let blanks := c.run isBlank
  let c := c.skip isBlank
  match c.peek, c.takeBreak? with
  | none, _ => .error .malformed
  | some _, none => .ok (blanks, c)
  | some _, some (b, c) =>
    (emptyLines (c.left + 1) c).map fun (bs, c) => (foldBreaks b bs, c)

/-- The text of the escape whose backslash was just passed, none for a surrogate. -/
def escape (c : Cursor) : Except Fault (List (Option Char) × Cursor) :=
  match c.peek with
  | none => .error .malformed
  | some ch =>
    match letterEscapes.lookup ch, codeEscapes.lookup ch, c.takeBreak? with
    | some e, _, _ => .ok ([some e], c.next)
    | none, some width, _ => (codeEscape width c.next).map fun e => ([e], c.advance (width + 1))
    | none, none, some (_, c) => (emptyLines (c.left + 1) c).map fun (cs, c) => (cs.map some, c)
    | none, none, none => .error .malformed

/-- The text up to the closing quote, and the place after it. -/
def quotedRest (q : Quote) : (fuel : Nat) → Cursor → Except Fault (List (Option Char) × Cursor)
  | 0, _ => .error .malformed
  | n + 1, c =>
    match c.peek with
    | none => .error .malformed
    | some ch => do
      if ch = q.char then
        if q = .single ∧ c.peekAt 1 = some '\'' then
          let (cs, c) ← quotedRest q n (c.advance 2)
          return (some '\'' :: cs, c)
        else return ([], c.next)
      else
        let (part, c) ←
          if isBlank ch || isBreak ch then
            (quotedBlanks c).map fun (cs, c) => (cs.map some, c)
          else if q = .double ∧ ch = '\\' then escape c.next
          else .ok ([some ch], c.next)
        let (cs, c) ← quotedRest q n c
        return (part ++ cs, c)

def quotedScalar (q : Quote) (c : Cursor) : Except Fault (Token × Cursor) :=
  (quotedRest q (c.left + 1) c.next).map fun (cs, c) =>
    (.scalar (String.ofList (cs.map (·.getD '\uFFFD'))) false (cs.contains none), c)

end Firewall.Yaml
