import Firewall.Console.Literal
import Firewall.Console.Picture
import Firewall.Console.Style
import Firewall.Text.Width

/-!
# Console markup

A console text may hold tags between brackets. An opening tag is dropped, a closing tag must have an
opening tag to close, and a tag after an odd number of backslashes is text. `escape` guards a text
against being read as tags, `render` shows a text without its tags.
-/

namespace Firewall.Console

/-! ## Tags -/

/-- Whether a tag may begin with `c` after its bracket. -/
def startsTag (c : Char) : Bool := ('a' ≤ c && c ≤ 'z') || c == '#' || c == '/' || c == '@'

/-- The inside of the tag at the front of a text. -/
def tagHere? : List Char → Option (List Char)
  | '[' :: c :: rest =>
    let tail := rest.takeWhile fun d => d != '[' && d != ']'
    if startsTag c && rest[tail.length]? == some ']' then some (c :: tail) else none
  | _ => none

/-- A part of a console text: some text, or the inside of a tag. -/
inductive Part where
  | text (cs : List Char)
  | tag (inside : List Char)

/-- The parts that a tag with backslashes in front of it makes: every two of them are one, and an
odd one makes the tag text. -/
def tagParts (backslashes : Nat) (inside : List Char) : List Part :=
  (if backslashes < 2 then [] else [.text (List.replicate (backslashes / 2) '\\')]) ++
    [if backslashes % 2 = 1 then .text ('[' :: inside ++ [']']) else .tag inside]

/-- Adds text in front of parts, to the first if it is `joined` with it. -/
def consText (c : Char) (joined : Bool) (parts : List Part) : List Part :=
  match joined, parts with
  | true, .text cs :: rest => .text (c :: cs) :: rest
  | _, _ => .text [c] :: parts

/-- The parts of a text whose first `skip` characters were read, and whether it goes on with text
that joins text in front of it. -/
def partsFrom (skip : Nat) : List Char → Bool × List Part
  | [] => (false, [])
  | c :: rest =>
    match skip with
    | n + 1 => partsFrom n rest
    | 0 =>
      let slashes := ((c :: rest).takeWhile (· == '\\')).length
      match tagHere? ((c :: rest).drop slashes) with
      | some inside =>
        (false, tagParts slashes inside ++ (partsFrom (slashes + inside.length + 1) rest).2)
      | none =>
        let (joined, parts) := partsFrom 0 rest
        (true, consText c joined parts)

def parts (cs : List Char) : List Part := (partsFrom 0 cs).2

/-! ## Escaping -/

/-- A text with every tag guarded; the first `skip` characters were written. -/
def escapeFrom (skip : Nat) : List Char → List Char
  | [] => []
  | c :: rest =>
    match skip with
    | n + 1 => escapeFrom n rest
    | 0 =>
      let slashes := ((c :: rest).takeWhile (· == '\\')).length
      match tagHere? ((c :: rest).drop slashes) with
      | some inside =>
        List.replicate (2 * slashes + 1) '\\' ++ '[' :: inside ++ ']' ::
          escapeFrom (slashes + inside.length + 1) rest
      | none => c :: escapeFrom 0 rest

/-- Doubles a single backslash at the end of a text. -/
def closeBackslash (cs : List Char) : List Char :=
  match cs.reverse with
  | '\\' :: '\\' :: _ => cs
  | '\\' :: _ => cs ++ ['\\']
  | _ => cs

/-- A text guarded against being read as markup. -/
def escape (s : String) : String := String.ofList (closeBackslash (escapeFrom 0 s.toList))

/-! ## Rendering -/

/-- What is wrong with the tags of a text: one closes nothing, the parameters of a handler are no
literal, or a part of a colour is no number. -/
inductive MarkupFault where
  | closing (tag : String)
  | handler (parameters : String)
  | colour (style : String)
  deriving DecidableEq, Repr

def MarkupFault.message : MarkupFault → String
  | .closing tag => "Closing tag [" ++ tag ++ "] closes nothing"
  | .handler parameters => "Handler parameters " ++ parameters ++ " are no literal"
  | .colour style => "Style " ++ style ++ " has a colour of no numbers"

/-- A tag that was opened where `start` characters are shown. -/
structure OpenTag where
  name : String
  parameters : Option (List Char)
  start : Nat
  deriving DecidableEq, Repr

/-- Characters that are shown in a style. -/
structure Span where
  start : Nat
  stop : Nat
  style : String
  deriving DecidableEq, Repr

/-- The name of a tag without blanks around it, under which it is opened and closed. -/
def tagName (text : String) : Except MarkupFault String :=
  (styleName text).mapError fun _ => .colour text

namespace OpenTag

/-- The style of a tag, with its parameters. -/
def style (t : OpenTag) : String :=
  match t.parameters with
  | some ps => t.name ++ " " ++ String.ofList ps
  | none => t.name

/-- The span of a tag that is open up to `stop`, if its style cannot be read. -/
def brokenSpan (stop : Nat) (t : OpenTag) : List Span :=
  if (styleName t.style).isOk then [] else [⟨t.start, stop, t.style⟩]

/-- Closes a tag. The tag of a handler has no style, but parameters that are a literal. -/
def close (stop : Nat) (t : OpenTag) : Except MarkupFault (List Span) :=
  if t.name.toList.head? = some '@' then
    let parameters := Text.strip (String.ofList (t.parameters.getD []))
    if isCall parameters.toList then .ok [] else .error (.handler parameters)
  else .ok (t.brokenSpan stop)

end OpenTag

/-- Removes the last opened tag with a name. -/
def closeNamed? (name : String) : List OpenTag → Option (OpenTag × List OpenTag)
  | [] => none
  | t :: rest =>
    if t.name = name then some (t, rest)
    else (closeNamed? name rest).map fun (closed, rest) => (closed, t :: rest)

/-- Removes the tag that a closing tag with the given name closes, the last one if it has none. -/
def closed? (name : String) (opened : List OpenTag) :
    Except MarkupFault (Option (OpenTag × List OpenTag)) := do
  if name.isEmpty then return opened.head?.map fun t => (t, opened.tail)
  else return closeNamed? (← tagName name) opened

/-- The open tags after a tag, the last opened first, and the broken spans that it ends. -/
def afterTag (position : Nat) (opened : List OpenTag) (inside : List Char) :
    Except MarkupFault (List OpenTag × List Span) := do
  let name := inside.takeWhile (· != '=')
  match name with
  | '/' :: name =>
    match ← closed? (Text.strip (String.ofList name)) opened with
    | some (t, rest) => return (rest, ← t.close position)
    | none => throw (.closing (String.ofList inside))
  | _ =>
    let parameters := (inside.drop name.length).tail?
    return (⟨← tagName (String.ofList name), parameters, position⟩ :: opened, [])

/-- Text with an escaped bracket as a bracket. -/
def plainBrackets : List Char → List Char
  | '\\' :: '[' :: rest => '[' :: plainBrackets rest
  | c :: rest => c :: plainBrackets rest
  | [] => []

/-- Whether a console drops a control: bell, backspace, the vertical tabs and carriage return. -/
def isDropped (c : Char) : Bool := [7, 8, 11, 12, 13].contains c.toNat

/-- The characters shown for a part that is text. -/
def shownText (cs : List Char) : List Char :=
  (picturesFor 0 (plainBrackets cs)).filter fun c => !isDropped c

/-- The characters shown for a part. -/
def Part.shown : Part → List Char
  | .text cs => shownText cs
  | .tag _ => []

/-- Opens and closes the tags of parts, where `position` characters are shown: the broken spans. -/
def brokenSpans (position : Nat) (opened : List OpenTag) :
    List Part → Except MarkupFault (List Span)
  | [] => .ok (opened.flatMap (·.brokenSpan position))
  | .text cs :: rest => brokenSpans (position + (shownText cs).length) opened rest
  | .tag inside :: rest => do
    let (opened, spans) ← afterTag position opened inside
    return spans ++ (← brokenSpans position opened rest)

/-- Whether the style of a span is asked for: a span of line ends is lost when a text is cut in
lines, and one without characters also at a tab. -/
def Span.isAsked (shown : List Char) (s : Span) : Bool :=
  ((shown.take s.stop).drop s.start).any (· != '\n') ||
    !(shown.contains '\n' || shown.contains '\t')

/-- A text with spaces in place of tabs, up to the next eighth column; it begins at a column. -/
def expandTabs (column : Nat) : List Char → List Char
  | [] => []
  | '\n' :: rest => '\n' :: expandTabs 0 rest
  | '\t' :: rest =>
    List.replicate (8 - column % 8) ' ' ++ expandTabs (column + (8 - column % 8)) rest
  | c :: rest => c :: expandTabs (column + Text.width c) rest

/-- What a console shows for a text. -/
def render (markup : String) : Except MarkupFault String := do
  let ps := parts markup.toList
  let shown := ps.flatMap Part.shown
  match (← brokenSpans 0 [] ps).find? (·.isAsked shown) with
  | some s => throw (.colour s.style)
  | none => return String.ofList (expandTabs 0 shown)

end Firewall.Console
