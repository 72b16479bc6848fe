/-!
# Patterns of texts

Regular expressions over characters, and whether they match a whole text. Matching reads one
character after another and keeps what is left of the pattern (`after`).
-/

namespace Firewall.Text

inductive Pattern where
  | never
  | empty
  | one (p : Char → Bool)
  | seq (a b : Pattern)
  | either (a b : Pattern)
  | many (a : Pattern)

namespace Pattern

def matchesEmpty : Pattern → Bool
  | .never => false
  | .empty => true
  | .one _ => false
  | .seq a b => a.matchesEmpty && b.matchesEmpty
  | .either a b => a.matchesEmpty || b.matchesEmpty
  | .many _ => true

/-- One pattern, then another, without the trivial cases. -/
def andThen : Pattern → Pattern → Pattern
  | .never, _ => .never
  | .empty, b => b
  | a, b => .seq a b

/-- One pattern or another, without the trivial cases. -/
def orElse : Pattern → Pattern → Pattern
  | .never, b => b
  | a, .never => a
  | a, b => .either a b

/-- What is left of a pattern after a character. -/
def after (c : Char) : Pattern → Pattern
  | .never => .never
  | .empty => .never
  | .one p => if p c then .empty else .never
  | .seq a b =>
    if a.matchesEmpty then orElse ((a.after c).andThen b) (b.after c) else (a.after c).andThen b
  | .either a b => orElse (a.after c) (b.after c)
  | .many a => (a.after c).andThen (.many a)

def «matches» (p : Pattern) : List Char → Bool
  | [] => p.matchesEmpty
  | c :: rest => (p.after c).matches rest

def char (c : Char) : Pattern := .one (· == c)

def oneOf (s : String) : Pattern := .one fun c => s.toList.contains c

def exactly (s : String) : Pattern := s.toList.foldr (fun c p => .seq (.char c) p) .empty

/-- A pattern or nothing. -/
def opt (a : Pattern) : Pattern := .either a .empty

/-- A pattern at least once. -/
def some (a : Pattern) : Pattern := .seq a (.many a)

def row (ps : List Pattern) : Pattern := ps.foldr .seq .empty

def anyOf (ps : List Pattern) : Pattern := ps.foldr .either .never

/-- A decimal digit of ASCII. -/
def digit : Pattern := .one Char.isDigit

end Pattern

end Firewall.Text
