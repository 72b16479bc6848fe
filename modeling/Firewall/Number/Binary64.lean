/-!
# Binary floating point numbers

The 64-bit numbers of IEEE 754 as exact values: `finite s m e` is `m · 2 ^ e`, negated when `s`.
Arithmetic computes the exact rational result and rounds once, a half to the even neighbour
(`ofRatio`).
-/

namespace Firewall

/-- A 64-bit floating point number. -/
inductive Binary64 where
  | nan
  | infinity (negative : Bool)
  | finite (negative : Bool) (significand : Nat) (exponent : Int)
  deriving DecidableEq, Repr

/-- The quotient of two natural numbers, rounded; a half goes to the even neighbour. -/
def roundDiv (num den : Nat) : Nat :=
  let q := num / den
  let r := num % den
  if den < 2 * r ∨ (2 * r = den ∧ q % 2 = 1) then q + 1 else q

/-- The pair of `num / den` times `base` to the power `k`. -/
def scaleRatio (base num den : Nat) (k : Int) : Nat × Nat :=
  match k with
  | .ofNat n => (num * base.pow n, den)
  | .negSucc n => (num, den * base.pow (n + 1))

namespace Binary64

/-- The bits of a significand. -/
def precision : Nat := 53

def leastExponent : Int := -1074

def greatestExponent : Int := 971

/-- The greatest integer `k` with `2 ^ k ≤ num / den`. -/
def floorLog2 (num den : Nat) : Int :=
  let k : Int := (num.log2 : Int) - (den.log2 : Int)
  let p := scaleRatio 2 1 1 k
  if p.1 * den ≤ num * p.2 then k else k - 1

def zero (negative : Bool) : Binary64 := .finite negative 0 leastExponent

/-- The number nearest to `num / den`, with the given sign. -/
def ofRatio (negative : Bool) (num den : Nat) : Binary64 :=
  if num = 0 then zero negative
  else
    let e := max (floorLog2 num den - 52) leastExponent
    let p := scaleRatio 2 num den (-e)
    let m := roundDiv p.1 p.2
    let (m, e) := if m = Nat.pow 2 precision then (Nat.pow 2 (precision - 1), e + 1) else (m, e)
    if greatestExponent < e then .infinity negative else .finite negative m e

/-- The number nearest to `digits · 10 ^ k`, with the given sign. Far beyond the range the answer
is known without the power: `digits` has at most `log2 digits / 3 + 1` decimal digits. -/
def ofDecimal (negative : Bool) (digits : Nat) (k : Int) : Binary64 :=
  if digits = 0 then zero negative
  else if 400 < k then .infinity negative
  else if k + (digits.log2 / 3 + 1 : Nat) < -400 then zero negative
  else
    let p := scaleRatio 10 digits 1 k
    ofRatio negative p.1 p.2

/-- The number nearest to an integer. -/
def ofInt (i : Int) : Binary64 := ofRatio (i < 0) i.natAbs 1

/-- The sign of a number; that of nan is never negative. -/
def isNegative : Binary64 → Bool
  | .nan => false
  | .infinity s => s
  | .finite s _ _ => s

def neg : Binary64 → Binary64
  | .nan => .nan
  | .infinity s => .infinity !s
  | .finite s m e => .finite (!s) m e

/-- A finite number's signed significand at a smaller exponent. -/
def alignedTo (e : Int) (negative : Bool) (m : Nat) (k : Int) : Int :=
  let n : Int := (m * Nat.pow 2 (k - e).toNat : Nat)
  if negative then -n else n

/-- The sum. Equal infinities add up, unequal ones are nan, and an exact zero is negative only for
two negative zeros. -/
def add : Binary64 → Binary64 → Binary64
  | .nan, _ => .nan
  | _, .nan => .nan
  | .infinity s, .infinity t => if s = t then .infinity s else .nan
  | .infinity s, .finite .. => .infinity s
  | .finite .., .infinity t => .infinity t
  | .finite s m e, .finite t n k =>
    let low := min e k
    let sum := alignedTo low s m e + alignedTo low t n k
    if sum = 0 then zero (s && t)
    else
      let p := scaleRatio 2 sum.natAbs 1 low
      ofRatio (sum < 0) p.1 p.2

/-- The product. Zero times infinity is nan. -/
def mul : Binary64 → Binary64 → Binary64
  | .nan, _ => .nan
  | _, .nan => .nan
  | .infinity s, .infinity t => .infinity (s != t)
  | .infinity s, .finite t m _ => if m = 0 then .nan else .infinity (s != t)
  | .finite s m _, .infinity t => if m = 0 then .nan else .infinity (s != t)
  | .finite s m e, .finite t n k =>
    let p := scaleRatio 2 (m * n) 1 (e + k)
    ofRatio (s != t) p.1 p.2

/-- Whether the number is greater than zero; nan is not. -/
def isPositive : Binary64 → Bool
  | .nan => false
  | .infinity s => !s
  | .finite s m _ => !s && m != 0

def isZero : Binary64 → Bool
  | .finite _ m _ => m == 0
  | _ => false

/-- The integer that the number equals, if it is one. -/
def toInt? : Binary64 → Option Int
  | .nan | .infinity _ => none
  | .finite s m e =>
    let p := scaleRatio 2 m 1 e
    if p.1 % p.2 = 0 then
      let n : Int := (p.1 / p.2 : Nat)
      some (if s then -n else n)
    else none

/-- Equality of values: zeros are equal whatever their signs, and nan equals nothing. -/
def same (x y : Binary64) : Bool :=
  match x, y with
  | .nan, _ => false
  | _, .nan => false
  | x, y => (x.isZero && y.isZero) || x == y

end Binary64

end Firewall
