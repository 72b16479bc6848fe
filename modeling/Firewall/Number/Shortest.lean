import Firewall.Number.Binary64
import Firewall.Text.Digit

/-!
# Shortest decimal text

The decimal text of a floating point number has the fewest digits that read back as the number, and
of those the nearest digits. `shortest` chooses the digits, `FloatLayout.text` lays them out.
-/

namespace Firewall

namespace Binary64

/-- The reals that round to a positive finite number, as fractions over one denominator: the lower
end, the number, the upper end, the denominator, and whether the ends belong. -/
structure Neighbourhood where
  lower : Nat
  value : Nat
  upper : Nat
  den : Nat
  closed : Bool

/-- The neighbourhood of `m · 2 ^ e`. Below a power of two the next number is half as far away. -/
def neighbourhood (m : Nat) (e : Int) : Neighbourhood :=
  let p := scaleRatio 2 1 4 e
  let below := if m = Nat.pow 2 (precision - 1) ∧ leastExponent < e then 1 else 2
  ⟨(4 * m - below) * p.1, 4 * m * p.1, (4 * m + 2) * p.1, p.2, m % 2 == 0⟩

/-- Whether the fraction `num / den` rounds to the number. -/
def Neighbourhood.holds (b : Neighbourhood) (num den : Nat) : Bool :=
  if b.closed then b.lower * den ≤ num * b.den && num * b.den ≤ b.upper * den
  else b.lower * den < num * b.den && num * b.den < b.upper * den

/-- The greatest integer `k` with `10 ^ k ≤ num / den`, sought near the estimate from the binary
logarithm. -/
def floorLog10 (num den : Nat) : Int :=
  let guess := floorLog2 num den * 30103 / 100000
  let fits (k : Int) : Bool :=
    let p := scaleRatio 10 1 1 k
    p.1 * den ≤ num * p.2
  if fits (guess + 1) then guess + 1 else if fits guess then guess else guess - 1

/-- The better of the two points next to the number on the grid of multiples of `10 ^ k`, if it
reads back as the number; a tie goes to the even one. -/
def onGrid? (b : Neighbourhood) (k : Int) : Option Nat :=
  let p := scaleRatio 10 1 1 k
  let num := b.value * p.2
  let den := b.den * p.1
  let d := num / den
  let nearest := roundDiv num den
  let other := if nearest = d then d + 1 else d
  let holds (d : Nat) : Bool := b.holds (d * p.1) p.2
  if holds nearest then some nearest
  else if holds other then some other
  else none

/-- The first hit on the grids of `count` more numbers of digits, from the grid of `10 ^ k` down. -/
def firstGrid (b : Neighbourhood) (k : Int) : (count : Nat) → Nat × Int
  | 0 => (b.value / b.den, 0)
  | n + 1 =>
    match onGrid? b k with
    | some d => (d, k)
    | none => firstGrid b (k - 1) n

/-- The digits and the power of ten of the shortest decimal that reads back as `m · 2 ^ e`; 17
digits always do. -/
def shortest (m : Nat) (e : Int) : Nat × Int :=
  let b := neighbourhood m e
  firstGrid b (floorLog10 b.value b.den) 17

end Binary64

/-- How a decimal is laid out: without an exponent when the power of ten of its first digit is
within bounds, else with an exponent of at least so many digits. -/
structure FloatLayout where
  leastPlain : Int
  greatestPlain : Int
  exponentWidth : Nat

namespace FloatLayout

/-- The text of `digits · 10 ^ k`, which always shows a point or an exponent. -/
def decimal (f : FloatLayout) (digits : Nat) (k : Int) : String :=
  let ds := Nat.toDigits 10 digits
  let top : Int := k + ds.length - 1
  if top < f.leastPlain ∨ f.greatestPlain < top then
    let tail := (Text.dropZeros ds.tail)
    String.ofList (ds.take 1 ++ (if tail.isEmpty then [] else '.' :: tail)) ++ "e"
      ++ (if top < 0 then "-" else "+") ++ Text.zeroPadded f.exponentWidth top.natAbs
  else if top < 0 then
    "0." ++ String.ofList (List.replicate (-top - 1).toNat '0' ++ ds)
  else
    let whole := (top + 1).toNat
    let fraction := Text.dropZeros (ds.drop whole)
    String.ofList (ds.take whole ++ List.replicate (whole - ds.length) '0') ++ "."
      ++ (if fraction.isEmpty then "0" else String.ofList fraction)

def text (f : FloatLayout) : Binary64 → String
  | .nan => "nan"
  | .infinity s => if s then "-inf" else "inf"
  | .finite s m e =>
    let p := if m = 0 then (0, 0) else Binary64.shortest m e
    (if s then "-" else "") ++ f.decimal p.1 p.2

end FloatLayout

end Firewall
