import Firewall.Number.Binary64
import Firewall.Text.Blank
import Firewall.Text.Digit

/-!
# Reading numbers

Texts of floating point numbers and of integers. Blanks may surround a number, digits may be of any
script, and a single underscore may stand between two digits.
-/

namespace Firewall.Number

/-- The six blanks of ASCII that may surround a number. -/
def isOuterBlank (c : Char) : Bool := c == ' ' || ('\t' ≤ c && c ≤ '\r')

/-- A character as the number grammar sees it: beyond ASCII, digits count by their value, blanks
as a space, and nothing else is allowed. -/
def plainChar (c : Char) : Char :=
  if c.toNat < 127 then c
  else if Text.isBlank c then ' '
  else match Text.decimalValue? c with
    | some d => Text.digitChar d
    | none => '?'

/-- The characters of a number between the blanks around it. -/
def plainChars (cs : List Char) : List Char :=
  Text.trimWhile isOuterBlank (cs.map plainChar)

/-- The text without its underscores, if each stands between two digits. -/
def joinDigits? (isDigit : Char → Bool) (afterDigit : Bool) : List Char → Option (List Char)
  | [] => some []
  | '_' :: c :: rest =>
    if afterDigit && isDigit c then (joinDigits? isDigit true rest).map (c :: ·) else none
  | ['_'] => none
  | c :: rest => (joinDigits? isDigit (isDigit c) rest).map (c :: ·)

def takeSign : List Char → Bool × List Char
  | '-' :: cs => (true, cs)
  | '+' :: cs => (false, cs)
  | cs => (false, cs)

/-- The value of a run of digits, in which the digits count up to `base`. -/
def digitsValue (base : Nat) (cs : List Char) : Nat :=
  cs.foldl (fun n c => n * base + (Text.digitValue? c).getD 0) 0

/-- The exponent that ends a decimal: `e`, a sign and digits. -/
def exponent? : List Char → Option Int
  | [] => some 0
  | c :: cs =>
    if c = 'e' ∨ c = 'E' then
      let (negative, ds) := takeSign cs
      if ds.isEmpty || !ds.all Char.isDigit then none
      else
        let n : Int := digitsValue 10 ds
        some (if negative then -n else n)
    else none

/-- The part of a decimal after its whole digits: a point with its digits, then the exponent. -/
def fraction (cs : List Char) : List Char × List Char :=
  match cs with
  | '.' :: rest => (rest.takeWhile Char.isDigit, rest.dropWhile Char.isDigit)
  | _ => ([], cs)

def decimal? (negative : Bool) (cs : List Char) : Option Binary64 :=
  let whole := cs.takeWhile Char.isDigit
  let (frac, rest) := fraction (cs.dropWhile Char.isDigit)
  if whole.isEmpty && frac.isEmpty then none
  else (exponent? rest).map fun k =>
    Binary64.ofDecimal negative (digitsValue 10 (whole ++ frac)) (k - frac.length)

/-- Reads a floating point number: a decimal, or the name of infinity or of nan in any case. -/
def float? (cs : List Char) : Option Binary64 :=
  (joinDigits? Char.isDigit false (cs.map plainChar)).bind fun cs =>
    let (negative, body) := takeSign (Text.trimWhile isOuterBlank cs)
    let name := String.ofList (body.map Char.toLower)
    if name = "inf" ∨ name = "infinity" then some (.infinity negative)
    else if name = "nan" then some .nan
    else decimal? negative body

def isDigitIn (base : Nat) (c : Char) : Bool :=
  match Text.digitValue? c with
  | some d => d < base
  | none => false

/-- Takes the mark of a base in front of its digits, with an underscore after it. -/
def dropMark (mark : Char) (cs : List Char) : List Char :=
  match cs with
  | '0' :: c :: rest =>
    if c.toLower = mark then (match rest with | '_' :: ds => ds | ds => ds) else cs
  | _ => cs

/-- A base of integer texts: its size, and the letter that may mark it after a zero. -/
structure Base where
  size : Nat
  mark : Option Char

/-- The four bases. -/
def binary : Base := ⟨2, some 'b'⟩
def octal : Base := ⟨8, some 'o'⟩
def tenfold : Base := ⟨10, none⟩
def hexadecimal : Base := ⟨16, some 'x'⟩

/-- The greatest number of digits of an integer in base ten. -/
def maxDigits : Nat := 4300

def int? (base : Base) (cs : List Char) : Option Int :=
  let (negative, body) := takeSign (plainChars cs)
  let body := match base.mark with
    | some mark => dropMark mark body
    | none => body
  (joinDigits? (isDigitIn base.size) false body).bind fun ds =>
    if ds.isEmpty || !ds.all (isDigitIn base.size) then none
    else if base.mark.isNone && maxDigits < ds.length then none
    else
      let n : Int := digitsValue base.size ds
      some (if negative then -n else n)

end Firewall.Number
