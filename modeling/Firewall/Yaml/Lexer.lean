import Firewall.Yaml.BlockScalar
import Firewall.Yaml.PlainScalar
import Firewall.Yaml.Property

/-!
# Tokens of a text

Reads a text into tokens. Indentation opens and closes blocks. A colon may turn what stands before
it into a key: places where a key may begin are kept as candidates, and when the colon comes, the
tokens that announce the key are put in at the candidate's place. A candidate expires at the end of
its line or after 1024 characters.
-/

namespace Firewall.Yaml

/-- A place where a key may have begun: the number of tokens before it, and where in the text it
is. A block needs a key at the place if it is `required`. -/
structure Candidate where
  position : Nat
  required : Bool
  index : Nat
  line : Nat
  column : Nat

/-- What a text has been read into so far: the tokens, the latest first, and their number, the open
flow collections and blocks, and the places where a key may have begun. -/
structure Lexer where
  cursor : Cursor
  tokens : List Token
  count : Nat
  depth : Nat
  indent : Int
  outer : List Int
  keyAllowed : Bool
  candidates : List (Nat × Candidate)
  done : Bool

namespace Lexer

def start (cs : List Char) : Lexer :=
  ⟨Cursor.start cs, [], 0, 0, -1, [], true, [], false⟩

/-- Whether a flow collection is open. -/
def inFlow (l : Lexer) : Bool := l.depth != 0

def push (l : Lexer) (t : Token) : Lexer :=
  { l with tokens := t :: l.tokens, count := l.count + 1 }

/-- Puts tokens in after the first `position` ones. -/
def insertAt (l : Lexer) (position : Nat) (ts : List Token) : Lexer :=
  let later := l.count - position
  { l with
    tokens := l.tokens.take later ++ ts.reverse ++ l.tokens.drop later
    count := l.count + ts.length }

/-! ## Blanks and comments -/

/-- Moves past spaces, comments and line ends. Outside flow collections a key may begin on the new
line. -/
def skipToToken : (fuel : Nat) → Lexer → Lexer
  | 0, l => l
  | n + 1, l =>
    let c := l.cursor.skipSpaces.skipComment
    match c.takeBreak? with
    | some (_, c) => skipToToken n { l with cursor := c, keyAllowed := l.keyAllowed || !l.inFlow }
    | none => { l with cursor := c }

/-- Moves past a byte order mark at the beginning of the text. -/
def skipOrderMark (l : Lexer) : Lexer :=
  if l.cursor.index = 0 ∧ l.cursor.at? '\uFEFF' then { l with cursor := l.cursor.next } else l

/-! ## Candidates for keys -/

/-- Whether a candidate expired: its line ended, or it is too far away. -/
def hasExpired (l : Lexer) (k : Candidate) : Bool :=
  k.line != l.cursor.line || 1024 < l.cursor.index - k.index

/-- Drops the candidates that expired; one that its block requires is a fault. -/
def expire (l : Lexer) : Except Fault Lexer :=
  if l.candidates.any fun k => l.hasExpired k.2 && k.2.required then .error .malformed
  else .ok { l with candidates := l.candidates.filter fun k => !l.hasExpired k.2 }

/-- The tokens that nothing can be put between any more: those before the first candidate. -/
def settled (l : Lexer) : List Token :=
  let alive := (l.candidates.map (·.2)).filter fun k => !l.hasExpired k
  l.tokens.reverse.take (alive.foldl (fun n k => min n k.position) l.count)

/-- Drops the candidate of the open collection. -/
def dropCandidate (l : Lexer) : Except Fault Lexer :=
  match l.candidates.lookup l.depth with
  | some k =>
    if k.required then .error .malformed
    else .ok { l with candidates := l.candidates.filter fun k => k.1 != l.depth }
  | none => .ok l

/-- Makes the next token a candidate, if a key may begin here. -/
def addCandidate (l : Lexer) : Except Fault Lexer := do
  if !l.keyAllowed then return l
  let l ← l.dropCandidate
  let c := l.cursor
  let required := !l.inFlow && l.indent == (c.column : Int)
  return { l with
    candidates := (l.depth, ⟨l.count, required, c.index, c.line, c.column⟩) ::
      l.candidates }

/-! ## Indentation -/

/-- Closes the blocks that are indented by more than `column`. -/
def closeBlocks (column : Int) (l : Lexer) : Lexer :=
  if l.inFlow then l
  else
    let closed := ((l.indent :: l.outer).takeWhile (column < ·)).length
    match (l.indent :: l.outer).drop closed with
    | [] => l
    | indent :: outer =>
      { l with
        indent
        outer
        tokens := List.replicate closed .blockEnd ++ l.tokens
        count := l.count + closed }

/-- Opens a block at a column, if it is indented by more than the open one. -/
def openBlock? (l : Lexer) (column : Nat) : Option Lexer :=
  if l.indent < (column : Int) then
    some { l with indent := column, outer := l.indent :: l.outer }
  else none

/-- Opens a block at the next token, if it is indented, with the token that announces it. -/
def openBlockHere (l : Lexer) (t : Token) : Lexer :=
  match l.openBlock? l.cursor.column with
  | some l => l.push t
  | none => l

/-! ## Tokens -/

/-- Adds a token that `size` characters make. -/
def take (l : Lexer) (size : Nat) (t : Token) : Lexer :=
  ({ l with cursor := l.cursor.advance size }).push t

/-- Allows or forbids a key as the next token. -/
def allowKey (l : Lexer) (allowed : Bool) : Lexer := { l with keyAllowed := allowed }

/-- Ends the text. -/
def finish (l : Lexer) : Except Fault Lexer := do
  let l ← (l.closeBlocks (-1)).dropCandidate
  return { l.push .streamEnd with done := true }

def instruction (l : Lexer) : Except Fault Lexer := do
  let l ← (l.closeBlocks (-1)).dropCandidate
  let (i, c) ← readInstruction l.cursor
  return ({ l.allowKey false with cursor := c }).push (.instruction i)

def documentMark (l : Lexer) (t : Token) : Except Fault Lexer := do
  let l ← (l.closeBlocks (-1)).dropCandidate
  return (l.allowKey false).take 3 t

def openFlow (l : Lexer) (t : Token) : Except Fault Lexer := do
  let l ← l.addCandidate
  return (({ l with depth := l.depth + 1 }).allowKey true).take 1 t

/-- Closes a flow collection; one must be open. -/
def closeFlow (l : Lexer) (t : Token) : Except Fault Lexer := do
  let l ← l.dropCandidate
  if l.inFlow then return (({ l with depth := l.depth - 1 }).allowKey false).take 1 t
  else throw .malformed

/-- Reads the comma of a flow collection. -/
def flowEntry (l : Lexer) : Except Fault Lexer := do
  return (← (l.allowKey true).dropCandidate).take 1 .flowEntry

/-- Reads the hyphen of a block sequence. -/
def blockEntry (l : Lexer) : Except Fault Lexer := do
  if !l.inFlow && !l.keyAllowed then throw .malformed
  let l := if l.inFlow then l else l.openBlockHere .blockSequenceStart
  return (← (l.allowKey true).dropCandidate).take 1 .blockEntry

/-- Reads the question mark of a key. -/
def explicitKey (l : Lexer) : Except Fault Lexer := do
  if !l.inFlow && !l.keyAllowed then throw .malformed
  let l := if l.inFlow then l else l.openBlockHere .blockMappingStart
  return (← (l.allowKey !l.inFlow).dropCandidate).take 1 .key

/-- Reads the colon of a value. With a candidate, what stands before it becomes the key. -/
def mappingValue (l : Lexer) : Except Fault Lexer := do
  match l.candidates.lookup l.depth with
  | some k =>
    let l := { l with candidates := l.candidates.filter fun k => k.1 != l.depth }
    let l := match (if l.inFlow then none else l.openBlock? k.column) with
      | some l => l.insertAt k.position [.blockMappingStart, .key]
      | none => l.insertAt k.position [.key]
    return (l.allowKey false).take 1 .value
  | none =>
    if !l.inFlow && !l.keyAllowed then throw .malformed
    let l := if l.inFlow then l else l.openBlockHere .blockMappingStart
    return (← (l.allowKey !l.inFlow).dropCandidate).take 1 .value

def keyToken (l : Lexer) (read : Cursor → Except Fault (Token × Cursor)) : Except Fault Lexer := do
  let l ← l.addCandidate
  let (t, c) ← read l.cursor
  return ({ l.allowKey false with cursor := c }).push t

def block (l : Lexer) (folded : Bool) : Except Fault Lexer := do
  let l ← (l.allowKey true).dropCandidate
  let (s, c) ← blockScalar folded l.indent l.cursor
  return ({ l with cursor := c }).push (.scalar s false false)

/-- Reads a plain scalar. A key may begin after it if a line ended. -/
def plain (l : Lexer) : Except Fault Lexer := do
  let l ← l.addCandidate
  let (s, c, ended) := plainScalar l.inFlow (l.indent + 1) l.cursor
  return ({ l.allowKey ended with cursor := c }).push (.scalar s true false)

/-- Whether a plain scalar may begin with `ch`, which `follower` follows. -/
def startsPlain (l : Lexer) (ch : Char) (follower : Option Char) : Bool :=
  !(isBlank ch || isBreak ch || "-?:,[]\x7b\x7d#&*!|>'\"%@`".toList.contains ch) ||
    (!endsToken follower && (ch == '-' || (!l.inFlow && (ch == '?' || ch == ':'))))

/-- Whether a sign that separates stands alone: in a flow collection always, else before a blank. -/
def standsAlone (l : Lexer) : Bool := l.inFlow || endsToken (l.cursor.peekAt 1)

def token (l : Lexer) : Except Fault Lexer :=
  let c := l.cursor
  match c.peek with
  | none => l.finish
  | some ch =>
    if ch = '%' ∧ c.column = 0 then l.instruction
    else if c.column = 0 ∧ c.atMark '-' then l.documentMark .documentStart
    else if c.column = 0 ∧ c.atMark '.' then l.documentMark .documentEnd
    else if ch = '[' then l.openFlow .flowSequenceStart
    else if ch = '{' then l.openFlow .flowMappingStart
    else if ch = ']' then l.closeFlow .flowSequenceEnd
    else if ch = '}' then l.closeFlow .flowMappingEnd
    else if ch = ',' then l.flowEntry
    else if ch = '-' ∧ endsToken (c.peekAt 1) then l.blockEntry
    else if ch = '?' ∧ l.standsAlone then l.explicitKey
    else if ch = ':' ∧ l.standsAlone then l.mappingValue
    else if ch = '*' then
      l.keyToken fun c => (anchorName c).map fun (s, c) => (.alias s, c)
    else if ch = '&' then
      l.keyToken fun c => (anchorName c).map fun (s, c) => (.anchor s, c)
    else if ch = '!' then l.keyToken fun c => (readTag c).map fun (t, c) => (.tag t, c)
    else if ch = '|' ∧ !l.inFlow then l.block false
    else if ch = '>' ∧ !l.inFlow then l.block true
    else if ch = '\'' then l.keyToken (quotedScalar .single)
    else if ch = '"' then l.keyToken (quotedScalar .double)
    else if l.startsPlain ch (c.peekAt 1) then l.plain
    else .error .malformed

/-- Reads the next token with the blanks before it. -/
def step (l : Lexer) : Except Fault Lexer := do
  let l ← (l.skipOrderMark.skipToToken (l.cursor.left + 1)).expire
  (l.closeBlocks l.cursor.column).token

/-- Reads the tokens from here on, up to the first fault. Tokens that are not settled are lost with
what follows them. -/
def run : (fuel : Nat) → Lexer → List Token × Option Fault
  | 0, l => (l.settled, some .malformed)
  | n + 1, l =>
    match l.step with
    | .error f => (l.settled, some f)
    | .ok l => if l.done then (l.tokens.reverse, none) else run n l

end Lexer

/-- Whether a text may hold `c`: all but most controls, surrogates and two last code points. -/
def isAllowed (c : Char) : Bool :=
  let n := c.toNat
  n = 0x09 || n = 0x0A || n = 0x0D || (0x20 ≤ n && n ≤ 0x7E) || n = 0x85 ||
    (0xA0 ≤ n && n ≤ 0xD7FF) || (0xE000 ≤ n && n ≤ 0xFFFD) || 0x10000 ≤ n

/-- The tokens of a text up to the first fault, and the fault if there is one. -/
def Token.ofText (cs : List Char) : List Token × Option Fault :=
  if cs.all isAllowed then (Lexer.start cs).run (cs.length + 2) else ([], some .malformed)

end Firewall.Yaml
