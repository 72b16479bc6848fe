import Firewall.Number.Read
import Firewall.Text.Base64
import Firewall.Text.CaseMap
import Firewall.Value
import Firewall.Yaml.Fault
import Firewall.Yaml.Tag

/-!
# Values of scalars

What the text of a scalar means for each type. A text that a type cannot read is a fault, also where
its form promised the type: dates may be impossible, and digits may be missing.
-/

namespace Firewall.Yaml.ScalarValue

/-! ## Truth values -/

def boolWords : List (String × Bool) :=
  [("yes", true), ("no", false), ("true", true), ("false", false), ("on", true), ("off", false)]

/-- A truth value, in any letter case. -/
def bool (s : String) : Except ScalarFault Bool :=
  match boolWords.lookup (Text.lower s) with
  | some b => .ok b
  | none => .error .notBoolean

/-! ## Numbers -/

/-- The text of a number without underscores. -/
def dropUnderscores (cs : List Char) : List Char := cs.filter (· != '_')

/-- The parts of a text between colons. -/
def parts (cs : List Char) : List (List Char) :=
  match cs with
  | [] => [[]]
  | ':' :: rest => [] :: parts rest
  | c :: rest =>
    match parts rest with
    | p :: ps => (c :: p) :: ps
    | [] => [[c]]

def intIn (base : Number.Base) (cs : List Char) : Except ScalarFault Int :=
  match Number.int? base cs with
  | some i => .ok i
  | none => .error .notNumber

/-- An integer without its sign: a zero in front announces base two, sixteen or eight, and colons
separate digits in base sixty. -/
def unsignedInt (cs : List Char) : Except ScalarFault Int :=
  match cs with
  | [] => .error .emptyNumber
  | ['0'] => .ok 0
  | '0' :: 'b' :: ds => intIn Number.binary ds
  | '0' :: 'x' :: ds => intIn Number.hexadecimal ds
  | '0' :: _ => intIn Number.octal cs
  | _ => do
    if cs.contains ':' then
      return (← (parts cs).mapM (intIn Number.tenfold)).foldl (fun n d => n * 60 + d) 0
    else intIn Number.tenfold cs

def int (s : String) : Except ScalarFault Int :=
  let cs := dropUnderscores s.toList
  if cs.isEmpty then .error .emptyNumber
  else
    let (negative, ds) := Number.takeSign cs
    (unsignedInt ds).map fun i => if negative then -i else i

/-- A floating point number. -/
def floatPart (cs : List Char) : Except ScalarFault Binary64 :=
  match Number.float? cs with
  | some x => .ok x
  | none => .error .notNumber

/-- Adds up floating point digits in base sixty, the last first; the powers of sixty are rounded
before they multiply. -/
def sumSixties (sum : Binary64) (power : Nat) : List Binary64 → Except ScalarFault Binary64
  | [] => .ok sum
  | d :: rest =>
    match Binary64.ofInt power with
    | .infinity _ => .error .numberOverflow
    | x => sumSixties (sum.add (d.mul x)) (power * 60) rest

/-- Whether a text is the name of nan, with or without a sign. -/
def namesNan (s : String) : Bool :=
  (Number.takeSign ((dropUnderscores s.toList).map Char.toLower)).2 == ".nan".toList

/-- A floating point number: infinity, nan, digits in base sixty between colons, or a decimal. -/
def float (s : String) : Except ScalarFault Binary64 := do
  let cs := (dropUnderscores s.toList).map Char.toLower
  if cs.isEmpty then throw .emptyNumber
  let (negative, body) := Number.takeSign cs
  let signed (x : Binary64) : Binary64 := if negative then x.neg else x
  if namesNan s then return .nan
  else if body = ".inf".toList then return .infinity negative
  else if body.contains ':' then
    let ds ← (parts body).mapM floatPart
    return signed (← sumSixties (Binary64.zero false) 1 ds.reverse)
  else return signed (← floatPart body)

/-! ## Dates and moments -/

/-- Takes up to `most` digits, at least `least`. -/
def takeDigits? (least most : Nat) (cs : List Char) : Option (Nat × List Char) :=
  let ds := (cs.take most).takeWhile Char.isDigit
  if ds.length < least then none
  else some (Number.digitsValue 10 ds, cs.drop ds.length)

def takeChar? (c : Char) : List Char → Option (List Char)
  | d :: rest => if c = d then some rest else none
  | [] => none

/-- The millionths of a second that the digits of a fraction mean; further digits do not count. -/
def microseconds (ds : List Char) : Nat :=
  Number.digitsValue 10 (ds.take 6 ++ List.replicate (6 - ds.length) '0')

/-- The fraction of a second at the front of a text. -/
def takeFraction (cs : List Char) : Nat × List Char :=
  match cs with
  | '.' :: rest => (microseconds (rest.takeWhile Char.isDigit), rest.dropWhile Char.isDigit)
  | _ => (0, cs)

/-- The distance from universal time that ends a moment, if there is one. -/
def offset? (cs : List Char) : Option (Option Int) :=
  match cs.dropWhile fun c => c == ' ' || c == '\t' with
  | [] => if cs.isEmpty then some none else none
  | ['Z'] => some (some 0)
  | sign :: rest =>
    if sign = '+' ∨ sign = '-' then do
      let (hours, rest) ← takeDigits? 1 2 rest
      let minutes ← match rest with
        | [] => some 0
        | _ => do
          let (m, rest) ← takeDigits? 2 2 (← takeChar? ':' rest)
          if rest.isEmpty then some m else none
      let seconds : Int := (hours * 60 + minutes) * 60
      return some (if sign = '-' then -seconds else seconds)
    else none

/-- The text after what separates a date from a time: a letter or some blanks. -/
def dropSeparator? (cs : List Char) : Option (List Char) :=
  match cs with
  | 'T' :: rest | 't' :: rest => some rest
  | _ =>
    let rest := cs.dropWhile fun c => c == ' ' || c == '\t'
    if rest.length < cs.length then some rest else none

/-- A date or a moment as it is written, whether it exists or not. -/
structure Written where
  date : Date
  time : Option Moment

def time? (date : Date) (cs : List Char) : Option Moment := do
  let (hour, cs) ← takeDigits? 1 2 cs
  let (minute, cs) ← takeDigits? 2 2 (← takeChar? ':' cs)
  let (second, cs) ← takeDigits? 2 2 (← takeChar? ':' cs)
  let (fraction, cs) := takeFraction cs
  return ⟨date, hour, minute, second, fraction, ← offset? cs⟩

/-- Reads a date or a moment. -/
def written? (s : String) : Option Written := do
  let (year, cs) ← takeDigits? 4 4 (Tag.dropLineFeed s.toList)
  let (month, cs) ← takeDigits? 1 2 (← takeChar? '-' cs)
  let (day, cs) ← takeDigits? 1 2 (← takeChar? '-' cs)
  let date : Date := ⟨year, month, day⟩
  match cs with
  | [] => return ⟨date, none⟩
  | _ => return ⟨date, some (← time? date (← dropSeparator? cs))⟩

def timestamp (s : String) : Except ScalarFault Value :=
  match written? s with
  | none => .error .notMoment
  | some ⟨date, none⟩ => if date.Exists then .ok (.date date) else .error .impossibleDate
  | some ⟨_, some m⟩ => if m.Exists then .ok (.moment m) else .error .impossibleDate

/-! ## All types -/

/-- The value of a scalar. Types of collections have no scalars. -/
def ofText (tag : Tag) (s : String) : Except Fault Value :=
  match tag with
  | .null => .ok .null
  | .bool => ((bool s).map Value.bool).mapError .scalar
  | .int => ((int s).map Value.int).mapError .scalar
  | .float => ((float s).map Value.float).mapError .scalar
  | .timestamp => (timestamp s).mapError .scalar
  | .binary =>
    match Text.Base64.bytes? s.toList with
    | some bs => .ok (.bytes bs)
    | none => .error .malformed
  | .str => .ok (.str s)
  | _ => .error .malformed

end Firewall.Yaml.ScalarValue
