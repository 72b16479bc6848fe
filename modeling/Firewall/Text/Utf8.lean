/-!
# Reading UTF-8

`decode` reads bytes as UTF-8 or reports the first bytes that are none, with the reason. Long forms,
surrogates and code points beyond Unicode are refused at the byte that gives them away.
-/

namespace Firewall.Text.Utf8

/-- Why bytes are not UTF-8. -/
inductive Reason where
  | startByte
  | continuationByte
  | endOfData
  deriving DecidableEq

def Reason.message : Reason → String
  | .startByte => "invalid start byte"
  | .continuationByte => "invalid continuation byte"
  | .endOfData => "unexpected end of data"

/-- The faulty bytes from `start` on, `size` in number, the first of which is `byte`. -/
structure Fault where
  start : Nat
  size : Nat
  byte : UInt8
  reason : Reason
  deriving DecidableEq

/-- What the next bytes are: a character of so many bytes, or a fault of so many. -/
inductive Step where
  | char (code size : Nat)
  | fault (size : Nat) (reason : Reason)

def isContinuation (b : Nat) : Bool := 0x80 ≤ b && b < 0xC0

/-- Whether `b` may stand second after `lead`: long forms, surrogates and code points beyond
Unicode already fail here. -/
def isSecond (lead b : Nat) : Bool :=
  isContinuation b &&
    match lead with
    | 0xE0 => 0xA0 ≤ b
    | 0xED => b < 0xA0
    | 0xF0 => 0x90 ≤ b
    | 0xF4 => b < 0x90
    | _ => true

/-- How many bytes follow the first byte `lead` of a character; none for one that starts none. -/
def following? (lead : Nat) : Option Nat :=
  if lead < 0x80 then some 0
  else if 0xC2 ≤ lead ∧ lead < 0xE0 then some 1
  else if 0xE0 ≤ lead ∧ lead < 0xF0 then some 2
  else if 0xF0 ≤ lead ∧ lead < 0xF5 then some 3
  else none

/-- Reads `count` more bytes of a character after `size` bytes with the value `code`. -/
def continued (code size : Nat) : (count : Nat) → List Nat → Step
  | 0, _ => .char code size
  | _ + 1, [] => .fault size .endOfData
  | n + 1, b :: rest =>
    if isContinuation b then continued (code * 64 + (b - 0x80)) (size + 1) n rest
    else .fault size .continuationByte

/-- Reads the character that starts with `lead`. -/
def step (lead : Nat) (rest : List Nat) : Step :=
  match following? lead, rest with
  | none, _ => .fault 1 .startByte
  | some 0, _ => .char lead 1
  | some _, [] => .fault 1 .endOfData
  | some n, b :: rest =>
    if isSecond lead b then
      continued ((lead % Nat.pow 2 (6 - n)) * 64 + (b - 0x80)) 2 (n - 1) rest
    else .fault 1 .continuationByte

/-- Reads bytes from position `start` on; `skip` of them belong to the character before. -/
def decodeFrom (start skip : Nat) : List UInt8 → Except Fault (List Char)
  | [] => .ok []
  | b :: rest =>
    match skip with
    | k + 1 => decodeFrom (start + 1) k rest
    | 0 =>
      match step b.toNat (rest.map UInt8.toNat) with
      | .fault size reason => .error ⟨start, size, b, reason⟩
      | .char code size => (decodeFrom (start + 1) (size - 1) rest).map (Char.ofNat code :: ·)

def decode (bytes : List UInt8) : Except Fault (List Char) := decodeFrom 0 0 bytes

end Firewall.Text.Utf8
