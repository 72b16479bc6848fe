/-!
# Base 64

Reads bytes written in base 64. Characters outside the alphabet are passed over, and padding ends
the data once a group of four is complete.
-/

namespace Firewall.Text.Base64

/-- The six bits of a character of the alphabet. -/
def sextet? (c : Char) : Option Nat :=
  if 'A' ≤ c ∧ c ≤ 'Z' then some (c.toNat - 65)
  else if 'a' ≤ c ∧ c ≤ 'z' then some (c.toNat - 71)
  else if '0' ≤ c ∧ c ≤ '9' then some (c.toNat + 4)
  else if c = '+' then some 62
  else if c = '/' then some 63
  else none

/-- The bytes of the rest of a text, inside a group of four characters: `place` of them were read,
`left` holds the bits that no byte has yet, and `pads` counts the padding since. Fails if the text
ends inside a group. -/
def bytesFrom (place left pads : Nat) : List Char → Option (List UInt8)
  | [] => if place = 0 then some [] else none
  | c :: rest =>
    if c = '=' then
      if 2 ≤ place then
        if 4 ≤ place + (pads + 1) then some [] else bytesFrom place left (pads + 1) rest
      else bytesFrom place left pads rest
    else match sextet? c with
      | none => bytesFrom place left pads rest
      | some n =>
        match place with
        | 0 => bytesFrom 1 n 0 rest
        | 1 => (bytesFrom 2 (n % 16) 0 rest).map (UInt8.ofNat (left * 4 + n / 16) :: ·)
        | 2 => (bytesFrom 3 (n % 4) 0 rest).map (UInt8.ofNat (left * 16 + n / 4) :: ·)
        | _ => (bytesFrom 0 0 0 rest).map (UInt8.ofNat (left * 64 + n) :: ·)

/-- The bytes that a text of ASCII characters holds. -/
def bytes? (cs : List Char) : Option (List UInt8) :=
  if cs.all fun c => c.toNat < 128 then bytesFrom 0 0 0 cs else none

end Firewall.Text.Base64
