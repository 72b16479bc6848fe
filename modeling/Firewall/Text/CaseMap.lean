import Firewall.Text.CaseTable

/-!
# Upper and lower case

Both cases of a text, character by character. ASCII letters change by the rule of ASCII, all others
by the tables of case pairs; some have an other case of several characters (`ß` becomes `SS`). A
capital sigma becomes `σ` wherever it stands.
-/

namespace Firewall.Text

/-- The case of the character `c` that the two tables give, and `c` itself where they are silent. -/
def mapCase (texts : List (Nat × List Nat)) (ranges : List CaseRange) (c : Char) : List Char :=
  match texts.lookup c.toNat with
  | some cs => cs.map Char.ofNat
  | none =>
    match ranges.find? (·.contains c.toNat) with
    | some r => [Char.ofNat (r.target c.toNat)]
    | none => [c]

def upperChar (c : Char) : List Char :=
  if c.toNat < 128 then [c.toUpper] else mapCase upperTexts upperRanges c

def lowerChar (c : Char) : List Char :=
  if c.toNat < 128 then [c.toLower] else mapCase lowerTexts lowerRanges c

def upper (s : String) : String := String.ofList (s.toList.flatMap upperChar)

def lower (s : String) : String := String.ofList (s.toList.flatMap lowerChar)

@[simp] theorem toList_upper (s : String) : (upper s).toList = s.toList.flatMap upperChar := by
  simp [upper]

@[simp] theorem toList_lower (s : String) : (lower s).toList = s.toList.flatMap lowerChar := by
  simp [lower]

end Firewall.Text
