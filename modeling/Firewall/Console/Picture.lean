import Firewall.Console.PictureTable
import Firewall.Text.Blank
import Firewall.Text.CaseMap

/-!
# Picture names in texts

A console shows a picture for its name between two colons. The name holds no blank and may end in a
wish for the plain or the colourful form. Names that are not known stay as they are.
-/

namespace Firewall.Console

/-- The picture with a name in any letter case. -/
def picture? (name : List Char) : Option String :=
  let name := Text.lower (String.ofList name)
  name.toList.head?.bind fun c => (picturesFrom c).lookup name

/-- The wishes for a form, with the characters that ask for it. -/
def formSigns : List (List Char × Char) :=
  [("-emoji".toList, '\uFE0F'), ("-text".toList, '\uFE0E')]

/-- A name without the wish for a form, and the character that asks for it. -/
def splitForm (name : List Char) : List Char × List Char :=
  match formSigns.find? fun f => f.1.isSuffixOf name with
  | some f => (name.take (name.length - f.1.length), [f.2])
  | none => (name, [])

/-- What is shown for a name between colons. -/
def shownName (name : List Char) : List Char :=
  let (plain, form) := splitForm name
  match picture? plain with
  | some p => p.toList ++ form
  | none => ':' :: name ++ [':']

/-- The name that a colon ends, if one stands at the front of a text after another colon. -/
def nameHere? (cs : List Char) : Option (List Char) :=
  let name := cs.takeWhile fun c => c != ':' && !Text.isBlank c
  if cs[name.length]? = some ':' then some name else none

/-- A text with pictures in place of their names; the first `skip` characters were shown. -/
def picturesFor (skip : Nat) : List Char → List Char
  | [] => []
  | c :: rest =>
    match skip with
    | n + 1 => picturesFor n rest
    | 0 =>
      match (if c = ':' then nameHere? rest else none) with
      | some name => shownName name ++ picturesFor (name.length + 1) rest
      | none => c :: picturesFor 0 rest

end Firewall.Console
