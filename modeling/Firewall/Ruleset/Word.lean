import Firewall.Text.Blank

/-!
# Words of a ruleset line

A restore program reads a line as words between blanks. A word with a blank or a quote in it, and
the empty word, stand between double quotes, with a backslash before a quote or a backslash.
-/

namespace Firewall.Ruleset

def isBareWord (cs : List Char) : Bool :=
  !cs.isEmpty && cs.all fun c => !Text.isBlank c && c != '"'

/-- A character between the quotes. -/
def escapeChar (c : Char) : List Char :=
  if c = '"' ∨ c = '\\' then ['\\', c] else [c]

/-- A word as a line holds it, in characters. -/
def wordChars (cs : List Char) : List Char :=
  if isBareWord cs then cs else '"' :: (cs.flatMap escapeChar ++ ['"'])

def word (s : String) : String := String.ofList (wordChars s.toList)

@[simp] theorem toList_word (s : String) : (word s).toList = wordChars s.toList := by
  simp [word]

end Firewall.Ruleset
