import Firewall.Text.Digit
import Firewall.Text.HiddenTable

/-!
# Texts shown in messages

A text or a string of bytes as messages show it: between quotes, with a backslash before what the
reader could not tell otherwise. The quote is `'`, or `"` for a text that holds `'` and no `"`.
-/

namespace Firewall.Text

/-- Whether `c` has a visible form or is the space. -/
def isVisible (c : Char) : Bool :=
  if c.toNat < 127 then 32 ≤ c.toNat else !CodeRange.covers hiddenRanges c

/-- The quote that encloses a text with these characters. -/
def quoteFor (cs : List Char) : Char :=
  if cs.contains '\'' && !cs.contains '"' then '"' else '\''

/-- The short escapes: the quote in use, the backslash, tab, line feed and carriage return. -/
def shortEscape? (quote c : Char) : Option (List Char) :=
  if c = quote ∨ c = '\\' then some ['\\', c]
  else if c = '\t' then some ['\\', 't']
  else if c = '\n' then some ['\\', 'n']
  else if c = '\r' then some ['\\', 'r']
  else none

/-- A code point as the shortest of the two, four or eight hexadecimal digits that hold it. -/
def hexEscape (n : Nat) : List Char :=
  if n ≤ 0xFF then '\\' :: 'x' :: paddedDigits 16 2 n
  else if n ≤ 0xFFFF then '\\' :: 'u' :: paddedDigits 16 4 n
  else '\\' :: 'U' :: paddedDigits 16 8 n

/-- A character between the quotes. -/
def shownChar (quote c : Char) : List Char :=
  match shortEscape? quote c with
  | some cs => cs
  | none => if isVisible c then [c] else hexEscape c.toNat

/-- A text between its quotes. -/
def shown (s : String) : String :=
  let q := quoteFor s.toList
  String.ofList (q :: (s.toList.flatMap (shownChar q) ++ [q]))

/-- A byte between the quotes: only visible ASCII stands for itself. -/
def shownByte (quote : Char) (b : UInt8) : List Char :=
  let c := Char.ofNat b.toNat
  match shortEscape? quote c with
  | some cs => cs
  | none => if 32 ≤ b.toNat ∧ b.toNat < 127 then [c] else hexEscape b.toNat

/-- A string of bytes between its quotes, after a `b`. -/
def shownBytes (bs : List UInt8) : String :=
  let q := quoteFor (bs.map fun b => Char.ofNat b.toNat)
  String.ofList ('b' :: q :: (bs.flatMap (shownByte q) ++ [q]))

end Firewall.Text
