import Firewall.Calendar
import Firewall.Number.Shortest
import Firewall.Text.Shown

/-!
# Values

The values that a policy text holds: scalars of every kind, lists, tuples, sets and mappings that
keep their entries in order. A value has two texts: `text` is what a rule line prints, `shown` is
what a message prints; a value with an integer of very many digits has none (`hasText`). Keys of a
mapping are compared by `sameKey`, under which one, one point zero and true are a single key;
`insert` keeps the place and the key of the first of equal keys and the value of the last.
-/

namespace Firewall

/-- A value of a policy text. -/
inductive Value where
  | null
  | bool (b : Bool)
  | int (i : Int)
  | float (x : Binary64)
  | str (s : String)
  | bytes (bs : List UInt8)
  | date (d : Date)
  | moment (m : Moment)
  | list (items : List Value)
  | tuple (items : List Value)
  | set (items : List Value)
  | map (entries : List (Value × Value))
  deriving Repr

namespace Value

/-! ## Texts -/

/-- Floating point numbers have no exponent from ten thousandths up to sixteen digits, and else an
exponent of at least two digits. -/
def floatLayout : FloatLayout := ⟨-4, 15, 2⟩

mutual

/-- A value as messages show it. -/
def shown : Value → String
  | .null => "None"
  | .bool b => if b then "True" else "False"
  | .int i => Text.signedDecimal i
  | .float x => floatLayout.text x
  | .str s => Text.shown s
  | .bytes bs => Text.shownBytes bs
  | .date d => d.shown
  | .moment m => m.shown
  | .list items => "[" ++ ", ".intercalate (shownItems items) ++ "]"
  | .tuple [] => "()"
  | .tuple [v] => "(" ++ shown v ++ ",)"
  | .tuple items => "(" ++ ", ".intercalate (shownItems items) ++ ")"
  | .set [] => "set()"
  | .set items => "\x7b" ++ ", ".intercalate (shownItems items) ++ "\x7d"
  | .map entries => "\x7b" ++ ", ".intercalate (shownEntries entries) ++ "\x7d"

def shownItems : List Value → List String
  | [] => []
  | v :: rest => shown v :: shownItems rest

def shownEntries : List (Value × Value) → List String
  | [] => []
  | (k, v) :: rest => (shown k ++ ": " ++ shown v) :: shownEntries rest

end

/-- A value as a rule line prints it: texts and dates plainly, all else as messages show it. -/
def text : Value → String
  | .str s => s
  | .date d => d.text
  | .moment m => m.text
  | v => v.shown

@[simp] theorem text_str (s : String) : (Value.str s).text = s := rfl

/-- The greatest number of digits of an integer with a text. -/
def greatestWidth : Nat := 4300

/-- The least number that is too large to have a text. -/
def textBound : Nat := Nat.pow 10 greatestWidth

mutual

/-- Whether a value has a text: every integer in it has few enough digits. -/
def hasText : Value → Bool
  | .int i => i.natAbs < textBound
  | .list items | .tuple items | .set items => haveTexts items
  | .map entries => entriesHaveTexts entries
  | _ => true

def haveTexts : List Value → Bool
  | [] => true
  | v :: rest => hasText v && haveTexts rest

/-- Whether all keys and values of a mapping have texts. -/
def entriesHaveTexts : List (Value × Value) → Bool
  | [] => true
  | (k, v) :: rest => hasText k && hasText v && entriesHaveTexts rest

end

def text? (v : Value) : Option String := if v.hasText then some v.text else none

theorem text?_eq_some_iff {v : Value} {s : String} :
    v.text? = some s ↔ v.hasText = true ∧ v.text = s := by
  simp [text?]

@[simp] theorem text?_str (s : String) : (Value.str s).text? = some s := by
  simp [text?, hasText]

/-! ## Kinds -/

/-- Whether a value is null, false, zero or without elements. -/
def isEmpty : Value → Bool
  | .null => true
  | .bool b => !b
  | .int i => i == 0
  | .float x => x.isZero
  | .str s => s.isEmpty
  | .bytes bs => bs.isEmpty
  | .date _ | .moment _ => false
  | .list items | .tuple items | .set items => items.isEmpty
  | .map entries => entries.isEmpty

def isListOrMap : Value → Bool
  | .list _ | .map _ => true
  | _ => false

def isScalar : Value → Bool
  | .list _ | .tuple _ | .set _ | .map _ => false
  | _ => true

def isFalse : Value → Bool
  | .bool false => true
  | _ => false

/-- Whether a value can be a key: lists, sets and mappings cannot. -/
def isKey : Value → Bool
  | .list _ | .set _ | .map _ => false
  | _ => true

/-! ## Keys -/

/-- The integer that a number or a truth value equals. -/
def integer? : Value → Option Int
  | .bool b => some (if b then 1 else 0)
  | .int i => some i
  | .float x => x.toInt?
  | _ => none

mutual

/-- Whether two keys are the same. Numbers and truth values compare by their numerical values. -/
def sameKey : Value → Value → Bool
  | .null, .null => true
  | .str s, .str t => s == t
  | .bytes bs, .bytes cs => bs == cs
  | .date d, .date e => d == e
  | .moment m, .moment n => m.same n
  | .tuple vs, .tuple ws => sameKeys vs ws
  | .float x, .float y => x.same y
  | v, w =>
    match v.integer?, w.integer? with
    | some i, some j => i == j
    | _, _ => false

def sameKeys : List Value → List Value → Bool
  | [], [] => true
  | v :: vs, w :: ws => sameKey v w && sameKeys vs ws
  | _, _ => false

end

/-- Puts a value under a key: in the place of the first entry whose key `same` accepts, or at the
end. -/
def insertBy {κ ν : Type} (same : κ → Bool) (key : κ) (value : ν) : List (κ × ν) → List (κ × ν)
  | [] => [(key, value)]
  | (k, v) :: rest =>
    if same k then (k, value) :: rest else (k, v) :: insertBy same key value rest

def insert (entries : List (Value × Value)) (key value : Value) : List (Value × Value) :=
  insertBy (sameKey key) key value entries

/-- The mapping with the given entries, those with equal keys merged. -/
def ofEntries (entries : List (Value × Value)) : Value :=
  .map (entries.foldl (fun es e => insert es e.1 e.2) [])

/-- The value under a text key, null when there is none. -/
def field (entries : List (Value × Value)) (name : String) : Value :=
  match entries.find? fun e => sameKey (.str name) e.1 with
  | some e => e.2
  | none => .null

end Value

end Firewall
