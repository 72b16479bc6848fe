/-!
# Similar words

How much of two words agrees: the longest run that they share, and what agrees before and after it.
`closeMatches` finds the words that are likely meant by a misspelt one.
-/

namespace Firewall.Text

/-- The number of characters that two texts share at their front. -/
def sharedFront : List Char → List Char → Nat
  | a :: as, b :: bs => if a = b then sharedFront as bs + 1 else 0
  | _, _ => 0

/-- A run that two texts share: where it begins in each, and its length. -/
structure SharedRun where
  inFirst : Nat
  inSecond : Nat
  length : Nat

/-- The longest run that two texts share, the earliest of several. -/
def longestShared (a b : List Char) : SharedRun :=
  let starts := (List.range a.length).flatMap fun i => (List.range b.length).map fun j => (i, j)
  starts.foldl
    (fun best s =>
      let n := sharedFront (a.drop s.1) (b.drop s.2)
      if best.length < n then ⟨s.1, s.2, n⟩ else best)
    ⟨0, 0, 0⟩

/-- The number of characters of two texts that agree, for texts that `fuel` bounds in length. -/
def agreement : (fuel : Nat) → List Char → List Char → Nat
  | 0, _, _ => 0
  | n + 1, a, b =>
    let r := longestShared a b
    if r.length = 0 then 0
    else r.length + agreement n (a.take r.inFirst) (b.take r.inSecond) +
      agreement n (a.drop (r.inFirst + r.length)) (b.drop (r.inSecond + r.length))

/-- A word with the part of its characters that agree with another word, as a fraction. -/
structure Likeness where
  word : String
  agreeing : Nat
  total : Nat

namespace Likeness

/-- The likeness of a word to another. -/
def of (word other : String) : Likeness :=
  let a := word.toList
  let b := other.toList
  ⟨word, 2 * agreement (a.length + 1) a b, a.length + b.length⟩

/-- Whether at least three fifths agree. -/
def isClose (l : Likeness) : Bool := 3 * l.total ≤ 5 * l.agreeing

/-- Whether one likeness stands before another: the greater first, then the later word. -/
def stands (l m : Likeness) : Bool :=
  let x := l.agreeing * m.total
  let y := m.agreeing * l.total
  y < x || (x == y && m.word ≤ l.word)

end Likeness

/-- Up to three of the known words that are close to a word, the closest first. -/
def closeMatches (known : List String) (word : String) : List String :=
  let close := (known.map fun k => Likeness.of k word).filter Likeness.isClose
  ((close.mergeSort Likeness.stands).take 3).map (·.word)

end Firewall.Text
