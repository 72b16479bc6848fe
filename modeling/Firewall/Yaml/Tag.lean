import Firewall.Text.Pattern

/-!
# Tags

The types of YAML 1.1. A tag is written out or, for a plain scalar, found from the form of its text:
the patterns below are tried in order.
-/

namespace Firewall.Yaml

/-- The type of a node; `other` stands for every type without a meaning here. -/
inductive Tag where
  | null
  | bool
  | int
  | float
  | binary
  | timestamp
  | str
  | seq
  | map
  | set
  | omap
  | pairs
  | merge
  | value
  | other
  deriving DecidableEq, Repr

namespace Tag

/-- Whether the nodes of the type stand for scalars. -/
def isScalar : Tag → Bool
  | .null | .bool | .int | .float | .binary | .timestamp | .str => true
  | _ => false

/-- What the names of the standard types begin with. -/
def standardNames : String := "tag:yaml.org,2002:"

/-- The standard types with a meaning for a node, by the ends of their names. -/
def standard : List (String × Tag) :=
  [("null", .null), ("bool", .bool), ("int", .int), ("float", .float), ("binary", .binary),
   ("timestamp", .timestamp), ("str", .str), ("seq", .seq), ("map", .map), ("set", .set),
   ("omap", .omap), ("pairs", .pairs), ("merge", .merge), ("value", .value)]

def ofName (name : String) : Tag :=
  ((standard.find? fun t => standardNames ++ t.1 == name).map (·.2)).getD .other

/-! ## Forms of plain scalars -/

open Text.Pattern in
/-- Truth values in lower case, with a capital, or in upper case. -/
def boolForm : Text.Pattern :=
  anyOf (["yes", "Yes", "YES", "no", "No", "NO", "true", "True", "TRUE", "false", "False", "FALSE",
    "on", "On", "ON", "off", "Off", "OFF"].map exactly)

open Text.Pattern in
/-- Null: a tilde, the word or nothing. -/
def nullForm : Text.Pattern := anyOf (["~", "null", "Null", "NULL", ""].map exactly)

def signForm : Text.Pattern := .opt (.oneOf "-+")

/-- Digits with underscores after the first. -/
def digitsForm : Text.Pattern := .seq .digit (.many (.oneOf "0123456789_"))

/-- The parts of a number in base sixty after the first. -/
def sixtiesForm : Text.Pattern :=
  .some (.row [.char ':', .opt (.oneOf "012345"), .digit])

open Text.Pattern in
def intForm : Text.Pattern :=
  .seq signForm (anyOf
    [row [exactly "0b", some (oneOf "01_")],
     row [char '0', some (oneOf "01234567_")],
     char '0',
     row [oneOf "123456789", many (oneOf "0123456789_"), opt sixtiesForm],
     row [exactly "0x", some (oneOf "0123456789abcdefABCDEF_")]])

open Text.Pattern in
/-- The exponent of a floating point number, which has a sign. -/
def exponentForm : Text.Pattern := opt (row [oneOf "eE", oneOf "-+", some digit])

open Text.Pattern in
/-- Floating point numbers, which have a point. -/
def floatForm : Text.Pattern :=
  anyOf
    [row [signForm, digitsForm, char '.', many (oneOf "0123456789_"), exponentForm],
     row [char '.', digitsForm, exponentForm],
     row [signForm, digitsForm, sixtiesForm, char '.', many (oneOf "0123456789_")],
     row [signForm, char '.', anyOf (["inf", "Inf", "INF"].map exactly)],
     row [char '.', anyOf (["nan", "NaN", "NAN"].map exactly)]]

open Text.Pattern in
def timestampForm : Text.Pattern :=
  let year := row [digit, digit, digit, digit]
  let upToTwo := row [digit, opt digit]
  let blanks := oneOf " \t"
  let two := row [digit, digit]
  .either (row [year, char '-', two, char '-', two])
    (row [year, char '-', upToTwo, char '-', upToTwo, .either (oneOf "Tt") (some blanks),
      upToTwo, char ':', two, char ':', two, opt (row [char '.', many digit]),
      opt (row [many blanks,
        .either (char 'Z') (row [oneOf "-+", upToTwo, opt (row [char ':', two])])])])

/-- The forms of plain scalars with the types that they mean. The signs of tags, anchors and aliases
alone mean no type that has values. -/
def forms : List (Text.Pattern × Tag) :=
  [(boolForm, .bool), (floatForm, .float), (intForm, .int), (.exactly "<<", .merge),
   (nullForm, .null), (timestampForm, .timestamp), (.exactly "=", .value),
   (.oneOf "!&*", .other)]

/-- A text without a line feed at its end. -/
def dropLineFeed (cs : List Char) : List Char :=
  if cs.getLast? = some '\n' then cs.dropLast else cs

/-- The type that the form of a plain scalar means, text if none. A line feed at the end does not
count, but one that stands alone is a text. -/
def ofPlain (text : String) : Tag :=
  if text = "\n" then .str
  else
    let cs := dropLineFeed text.toList
    ((forms.find? fun f => f.1.matches cs).map (·.2)).getD .str

end Tag

end Firewall.Yaml
