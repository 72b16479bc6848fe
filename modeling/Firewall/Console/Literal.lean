import Firewall.Number.Read
import Firewall.Text.Lines
import Firewall.Text.WordTable

/-!
# Literals

The parameters of a tag may call a handler with a literal: a number, a text, one of a few names, or
literals in parentheses or braces. `isLiteral` tells whether a text is one, `isCall` whether it may
stand as the parameters of a tag. What a literal denotes is never shown, so that a literal is kept
only as far as larger ones depend on it.
-/

namespace Firewall.Console

/-- What a literal is. Only a number without a sign takes one, only a real number that fits a float
takes an imaginary one, and what can change is no member of a set. -/
inductive Literal where
  | number (imaginary fits : Bool)
  | signed (imaginary fits : Bool)
  | fixed
  | changing
  /-- The name of the sets, no literal without parentheses after it. -/
  | setName
  deriving DecidableEq, Repr

namespace Literal

def isValue (e : Literal) : Bool := e != .setName

def isFixed (e : Literal) : Bool := e.isValue && e != .changing

/-- Whether an imaginary number can be added. -/
def isReal : Literal → Bool
  | .number imaginary fits | .signed imaginary fits => !imaginary && fits
  | _ => false

end Literal

/-- A step that reads the front of a text, or fails. -/
abbrev Scan := StateT (List Char) Option

namespace Scan

def require (b : Bool) : Scan Unit := if b then return else failure

/-! ## Characters -/

/-- A text without blanks and comments at its front. Line ends are blanks `within` brackets. -/
def gap (within comment : Bool) : List Char → List Char
  | [] => []
  | '\\' :: '\n' :: rest => if comment && !within then '\n' :: rest else gap within false rest
  | c :: rest =>
    if c = '\n' then if within then gap within false rest else c :: rest
    else if comment || c == '#' then gap within true rest
    else if c = ' ' ∨ c = '\t' ∨ c = '\x0C' then gap within false rest
    else c :: rest

/-- The next character after a gap, with `depth` brackets open. -/
def peek (depth : Nat) : Scan (Option Char) := do
  modify (gap (0 < depth) false)
  return (← get).head?

def advance (n : Nat) : Scan Unit := modify (·.drop n)

/-- Takes a character if it comes next. -/
def took (depth : Nat) (c : Char) : Scan Bool := do
  if (← peek depth) = some c then
    advance 1
    return true
  else return false

def takeWhile (p : Char → Bool) : Scan (List Char) := do
  let cs := (← get).takeWhile p
  advance cs.length
  return cs

/-- Whether `c` goes on with a name or a number. -/
def continues (c : Char) : Bool := Text.isWordChar c || 128 ≤ c.toNat

/-! ## Numbers -/

/-- Takes digits with single underscores between them, or after a mark. -/
def digits (base : Nat) (marked : Bool) : Scan (List Char) := do
  let cs ← takeWhile fun c => Number.isDigitIn base c || c == '_'
  (Number.joinDigits? (Number.isDigitIn base) marked cs : Option (List Char))

/-- Whether an integer is at most the greatest float. -/
def fits (n : Nat) : Bool := n < Nat.pow 2 1024 - Nat.pow 2 970

/-- Takes an integer with the mark of its base, if one comes next. -/
def marked? : Scan (Option Literal) := do
  let cs ← get
  let some base := [(16, 'x'), (8, 'o'), (2, 'b')].find? fun (_, mark) =>
      cs.head? == some '0' && cs[1]?.any (·.toLower == mark)
    | return none
  advance 2
  let ds ← digits base.1 true
  require !ds.isEmpty
  return some (.number false (fits (Number.digitsValue base.1 ds)))

def fraction : Scan (Option (List Char)) := do
  if (← get).head? = some '.' then
    advance 1
    return some (← digits 10 false)
  else return none

/-- Takes an exponent: `e`, a sign and digits. -/
def exponent : Scan Bool := do
  let cs ← get
  let (_, ds) := Number.takeSign (cs.drop 1)
  if cs.head?.any (·.toLower == 'e') && ds.head?.any Char.isDigit then
    set ds
    discard (digits 10 false)
    return true
  else return false

/-- Takes a decimal. An integer has no zero in front, and not too many digits. -/
def decimal : Scan Literal := do
  let whole ← digits 10 false
  let frac ← fraction
  require (!whole.isEmpty || frac.any (!·.isEmpty))
  let scaled ← exponent
  if (← get).head?.any (·.toLower == 'j') then
    advance 1
    return .number true true
  else if frac.isSome || scaled then return .number false true
  else
    require ((whole.head? != some '0' || whole.all (· == '0')) && whole.length ≤ Number.maxDigits)
    return .number false (fits (Number.digitsValue 10 whole))

/-- Takes a number that no name or digit follows. -/
def number : Scan Literal := do
  let n ← match ← marked? with
    | some n => pure n
    | none => decimal
  require !(← get).head?.any continues
  return n

/-! ## Texts -/

/-- The marks of texts: whether backslashes are kept, and whether it is a text of bytes. -/
def textMarks : List (String × Bool × Bool) :=
  [("", false, false), ("r", true, false), ("u", false, false), ("b", false, true),
   ("br", true, true), ("rb", true, true)]

/-- The digits that an escape needs after its letter. -/
def escapeDigits (bytes : Bool) (c : Char) : Nat :=
  if c = 'x' then 2 else if bytes then 0 else if c = 'u' then 4 else if c = 'U' then 8 else 0

/-- Whether an escape may stand in front of a text. -/
def isEscape (bytes : Bool) (c : Char) (rest : List Char) : Bool :=
  let ds := rest.take (escapeDigits bytes c)
  if c == 'N' && !bytes then rest.head? == some '\x7b' && rest.contains '\x7d'
  else ds.length == escapeDigits bytes c && ds.all (Number.isDigitIn 16) &&
    Number.digitsValue 16 ds < 0x110000

/-- What follows a text after its closing quotes: one, or three for a `long` text. -/
def afterText (raw bytes long : Bool) (quote : Char) : List Char → Option (List Char)
  | [] => none
  | '\\' :: c :: rest =>
    if (bytes && 128 ≤ c.toNat) || !(raw || isEscape bytes c rest) then none
    else afterText raw bytes long quote rest
  | c :: rest =>
    if c = quote ∧ (!long || rest.take 2 == [quote, quote]) then
      some (rest.drop (if long then 2 else 0))
    else if (c = '\n' ∧ !long) ∨ (bytes ∧ 128 ≤ c.toNat) then none
    else afterText raw bytes long quote rest

/-- Whether a text comes next, and if so whether it is one of bytes. Takes it. -/
def text? : Scan (Option Bool) := do
  let cs ← get
  let front := (cs.takeWhile Char.isAlpha).map Char.toLower
  let some quote := cs[front.length]? | return none
  let some (_, raw, bytes) := textMarks.find? fun m =>
      m.1.toList == front && (quote == '\'' || quote == '"')
    | return none
  let body := cs.drop (front.length + 1)
  let long := body.take 2 == [quote, quote]
  set (← (afterText raw bytes long quote (body.drop (if long then 2 else 0)) :
    Option (List Char)))
  return some bytes

/-- Takes further texts of the same kind. -/
def moreTexts (bytes : Bool) (depth : Nat) : (fuel : Nat) → Scan Unit
  | 0 => failure
  | fuel + 1 => do
    discard (peek depth)
    match ← text? with
    | some other =>
      require (other == bytes)
      moreTexts bytes depth fuel
    | none => return

/-! ## Names -/

/-- Takes a name that is a literal: a truth value, none, or that of the sets. -/
def name : Scan Literal := do
  let cs := String.ofList (← takeWhile continues)
  if cs ∈ ["True", "False", "None"] then return .fixed
  require (cs == "set")
  return .setName

/-! ## Collections -/

def maxDepth : Nat := 200

/-- Takes the end of the members of a collection: its closing bracket, or the end of a line. -/
def tookEnd (depth : Nat) (close : Option Char) : Scan Bool := do
  match close with
  | some c => took depth c
  | none => return (← peek depth).all (· == '\n')

/-- A literal that was read, or a set if it names them and parentheses follow. -/
def called (depth : Nat) (e : Literal) : Scan Literal := do
  if e.isValue then return e
  else if ← took depth '(' then
    require (depth < maxDepth && (← took (depth + 1) ')'))
    return .changing
  else return e

def tookSign (depth : Nat) : Scan Bool := do
  if ← took depth '+' then return true else took depth '-'

mutual

/-- Takes a literal that is no sum and has no sign. -/
def atom (depth : Nat) : (fuel : Nat) → Scan Literal
  | 0 => failure
  | fuel + 1 => do
    if ← took depth '(' then
      require (depth < maxDepth)
      if ← took (depth + 1) ')' then return .fixed
      let e ← sum (depth + 1) fuel
      if ← took (depth + 1) ')' then called depth e
      else
        require e.isValue
        let allFixed ← members false (some ')') (depth + 1) fuel
        return if e.isFixed && allFixed then .fixed else .changing
    else if ← took depth '\x7b' then
      require (depth < maxDepth)
      if ← took (depth + 1) '\x7d' then return .changing
      let e ← sum (depth + 1) fuel
      let keyed ← took (depth + 1) ':'
      if keyed then require (← sum (depth + 1) fuel).isValue
      require (e.isFixed && (← members keyed (some '\x7d') (depth + 1) fuel))
      return .changing
    else if let some bytes ← text? then
      moreTexts bytes depth fuel
      return .fixed
    else if (← get).take 3 == ['.', '.', '.'] then
      advance 3
      return .fixed
    else if (← get).head?.any (fun c => c.isDigit || c == '.') then number
    else called depth (← name)

/-- Takes a literal: a number may have a sign, and a real one an imaginary part. -/
def sum (depth : Nat) : (fuel : Nat) → Scan Literal
  | 0 => failure
  | fuel + 1 => do
    let e ← if ← tookSign depth then signed depth fuel else atom depth fuel
    if ← tookSign depth then
      require e.isReal
      match ← atom depth fuel with
      | .number true _ => return .fixed
      | _ => failure
    else return e

/-- Takes a number after its sign. -/
def signed (depth : Nat) : (fuel : Nat) → Scan Literal
  | 0 => failure
  | fuel + 1 => do
    match ← atom depth fuel with
    | .number imaginary fits => return .signed imaginary fits
    | _ => failure

/-- Takes the members of a collection after its first one: whether all are fixed, or their keys. -/
def members (keyed : Bool) (close : Option Char) (depth : Nat) : (fuel : Nat) → Scan Bool
  | 0 => failure
  | fuel + 1 => do
    if ← tookEnd depth close then return true
    require (← took depth ',')
    if ← tookEnd depth close then return true
    let e ← sum depth fuel
    require e.isValue
    if keyed then
      require (← took depth ':')
      require (← sum depth fuel).isValue
    return e.isFixed && (← members keyed close depth fuel)

end

/-- Takes comments, if the first line after them has no blank in front. -/
def heading : Scan Unit := do
  let cs ← get
  let rest := gap true false cs
  require ((cs.take (cs.length - rest.length)).getLast?.all (· == '\n'))
  set rest

/-- Takes a literal, or several with commas, and what may stand after it. -/
def whole : Scan Unit := do
  let fuel := 8 * ((← get).length + 1)
  heading
  require (← sum 0 fuel).isValue
  discard (members false none 0 fuel)
  require (gap true false (← get)).isEmpty

end Scan

def isLiteral (cs : List Char) : Bool :=
  let cs := Text.unifyLineEnds cs
  !cs.contains '\x00' && (Scan.whole.run cs).isSome

/-- Whether a text calls a handler: by its name, by its name with a literal in parentheses, or by a
literal alone. -/
def isCall (cs : List Char) : Bool :=
  let call := cs.dropWhile fun c => Text.isWordChar c || c == '.'
  call.isEmpty || isLiteral
    (if call.head? == some '(' && call.getLast? == some ')' && !call.contains '\n' then call
      else cs)

end Firewall.Console
