/-!
# Control sequences

A text may hold sequences that steer a terminal: an escape and a bracket, then parameters, marks and
one final character. They are left out of a text that goes to no terminal.
-/

namespace Firewall.Console

/-- Whether `c` may be a parameter of a control sequence: a digit or one of `:;<=>?`. -/
def isParameter (c : Char) : Bool := '0' ≤ c && c ≤ '?'

/-- Whether `c` may be a mark after the parameters: the space or one of the signs up to the
slash. -/
def isMark (c : Char) : Bool := ' ' ≤ c && c ≤ '/'

/-- Whether `c` may end a control sequence: a letter or another sign from the at sign to the tilde.
-/
def isFinal (c : Char) : Bool := '@' ≤ c && c ≤ '~'

/-- The length of the control sequence at the front of a text, if there is one. -/
def sequenceHere? : List Char → Option Nat
  | '\x1b' :: '[' :: rest =>
    let parameters := (rest.takeWhile isParameter).length
    let marks := ((rest.drop parameters).takeWhile isMark).length
    if rest[parameters + marks]?.any isFinal then some (parameters + marks + 3) else none
  | _ => none

/-- A text without control sequences; the first `skip` characters are left out. -/
def plainFrom (skip : Nat) : List Char → List Char
  | [] => []
  | c :: rest =>
    match skip with
    | n + 1 => plainFrom n rest
    | 0 =>
      match sequenceHere? (c :: rest) with
      | some size => plainFrom (size - 1) rest
      | none => c :: plainFrom 0 rest

def plain (s : String) : String := String.ofList (plainFrom 0 s.toList)

def HoldsSequence (cs : List Char) : Prop :=
  ∃ rest, rest <:+ cs ∧ (sequenceHere? rest).isSome = true

theorem holdsSequence_cons_iff {c : Char} {rest : List Char} :
    HoldsSequence (c :: rest) ↔
      (sequenceHere? (c :: rest)).isSome = true ∨ HoldsSequence rest := by
  simp [HoldsSequence, List.suffix_cons_iff, or_and_right, exists_or]

theorem length_plainFrom_le (skip : Nat) (cs : List Char) :
    (plainFrom skip cs).length ≤ cs.length := by
  induction cs generalizing skip with
  | nil => exact Nat.le_refl 0
  | cons c rest ih =>
    cases skip with
    | succ n => exact Nat.le_succ_of_le (ih n)
    | zero =>
      rw [plainFrom]
      split
      · exact Nat.le_succ_of_le (ih _)
      · exact Nat.succ_le_succ (ih 0)

theorem plainFrom_eq_self_iff {cs : List Char} : plainFrom 0 cs = cs ↔ ¬ HoldsSequence cs := by
  induction cs with
  | nil =>
    refine iff_of_true rfl ?_
    rintro ⟨rest, hrest, hsome⟩
    rw [List.suffix_nil.1 hrest] at hsome
    cases hsome
  | cons c rest ih =>
    rw [holdsSequence_cons_iff, plainFrom]
    cases hhere : sequenceHere? (c :: rest) with
    | some size =>
      -- what is left out makes the text shorter
      refine iff_of_false ?_ (not_not_intro (.inl rfl))
      intro heq
      have hle := length_plainFrom_le (size - 1) rest
      dsimp only at heq
      rw [heq, List.length_cons] at hle
      omega
    | none => simpa using ih

theorem plain_eq_self_iff {s : String} : plain s = s ↔ ¬ HoldsSequence s.toList := by
  rw [← plainFrom_eq_self_iff, plain]
  constructor
  · intro h
    exact String.ofList_injective (h.trans String.ofList_toList.symm)
  · intro h
    rw [h, String.ofList_toList]

end Firewall.Console
