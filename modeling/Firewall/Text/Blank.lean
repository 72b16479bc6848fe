import Firewall.Text.CodeRange

/-!
# Blank characters

The blanks of Unicode, and texts freed of the blanks at their ends.
-/

namespace Firewall.Text

/-- The blanks: controls that move the cursor or separate records, and the space separators. -/
def blankRanges : List CodeRange :=
  [⟨0x09, 0x0D⟩, ⟨0x1C, 0x20⟩, ⟨0x85, 0x85⟩, ⟨0xA0, 0xA0⟩, ⟨0x1680, 0x1680⟩, ⟨0x2000, 0x200A⟩,
   ⟨0x2028, 0x2029⟩, ⟨0x202F, 0x202F⟩, ⟨0x205F, 0x205F⟩, ⟨0x3000, 0x3000⟩]

def isBlank (c : Char) : Bool := CodeRange.covers blankRanges c

/-- The characters of `cs` without the last ones that pass `p`. -/
def dropWhileEnd (p : Char → Bool) (cs : List Char) : List Char :=
  (cs.reverse.dropWhile p).reverse

/-- The characters of `cs` without those at either end that pass `p`. -/
def trimWhile (p : Char → Bool) (cs : List Char) : List Char :=
  dropWhileEnd p (cs.dropWhile p)

def strip (s : String) : String := String.ofList (trimWhile isBlank s.toList)

end Firewall.Text
