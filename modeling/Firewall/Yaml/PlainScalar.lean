import Firewall.Yaml.Cursor

/-!
# Plain scalars

Texts without quotes. They end before a comment, a colon that separates, inside a flow collection at
its punctuation, or with the indentation. Lines fold as between quotes, but a tab ends the scalar.
-/

namespace Firewall.Yaml

/-- Whether a colon separates before `follower`: at a blank, in a flow collection also at its
punctuation. -/
def separates (inFlow : Bool) (follower : Option Char) : Bool :=
  endsToken follower || (inFlow && follower.any (",[]\x7b\x7d".toList.contains ·))

/-- Whether a plain scalar ends before `ch`, which `follower` follows. -/
def endsPlain (inFlow : Bool) (ch : Char) (follower : Option Char) : Bool :=
  isBlank ch || isBreak ch || (ch == ':' && separates inFlow follower) ||
    (inFlow && ",?[]\x7b\x7d".toList.contains ch)

/-- The characters of a plain scalar up to the next blank. -/
def plainRun (inFlow : Bool) : List Char → List Char
  | [] => []
  | ch :: rest => if endsPlain inFlow ch rest.head? then [] else ch :: plainRun inFlow rest

/-- The empty lines and indentation after a line end; nothing if a mark between documents
follows. -/
def plainEmptyLines : (fuel : Nat) → Cursor → Option (List Char) × Cursor
  | 0, c => (some [], c)
  | n + 1, c =>
    if c.atDocumentMark then (none, c)
    else
      let c := c.skipSpaces
      match c.takeBreak? with
      | some (b, c) =>
        let (bs, c) := plainEmptyLines n c
        (bs.map (b :: ·), c)
      | none => (some [], c)

/-- The text of the blanks and line ends after a part of a plain scalar, the place after them, and
whether a line ended. -/
def plainBlanks (c : Cursor) : List Char × Cursor × Bool :=
  let spaces := c.run (· == ' ')
  let c := c.skipSpaces
  match c.takeBreak? with
  | none => (spaces, c, false)
  | some (b, c) =>
    let (bs, c) := plainEmptyLines (c.left + 1) c
    ((bs.map (foldBreaks b)).getD [], c, true)

/-- The parts of a plain scalar from here on; `blanks` stand before the first of them, and
`lineEnded` says whether they hold a line end. -/
def plainParts (inFlow : Bool) (indent : Int) :
    (fuel : Nat) → (blanks : List Char) → (lineEnded : Bool) → Cursor → List Char × Cursor × Bool
  | 0, _, lineEnded, c => ([], c, lineEnded)
  | n + 1, blanks, lineEnded, c =>
    let part := plainRun inFlow c.rest
    if c.at? '#' || part.isEmpty then ([], c, lineEnded)
    else
      let (after, c, ended) := plainBlanks (c.advance part.length)
      let done := after.isEmpty || c.at? '#' || (!inFlow && (c.column : Int) < indent)
      let (cs, c, ended) :=
        if done then ([], c, ended) else plainParts inFlow indent n after ended c
      (blanks ++ part ++ cs, c, ended)

/-- Reads the plain scalar that begins here, which the lines after it continue if they are indented
by `indent`. Tells also whether a line ended after it. -/
def plainScalar (inFlow : Bool) (indent : Int) (c : Cursor) : String × Cursor × Bool :=
  let (cs, c, ended) := plainParts inFlow indent (c.left + 1) [] false c
  (String.ofList cs, c, ended)

end Firewall.Yaml
