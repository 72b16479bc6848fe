import Firewall.Policy
import Firewall.Ruleset.Word

/-!
# Flag groups

A condition or an option becomes groups of words, one for each value that it lists: a mark of
negation if the value is negated, the flag, and the value unless the flag stands alone.
-/

namespace Firewall.Ruleset

/-- The flags of well-known conditions. -/
def knownFlags : List (String × String) :=
  [("src", "-s"), ("dst", "-d"), ("protocol", "-p"), ("dport", "--dport"), ("sport", "--sport"),
   ("in-interface", "-i"), ("out-interface", "-o"), ("match", "-m"), ("state", "--state"),
   ("icmp-type", "--icmp-type"), ("limit", "--limit")]

/-- The flag of any option, and of a condition that is not well known. -/
def optionFlag (key : String) : String := "--" ++ key

def conditionFlag (key : String) : String := (knownFlags.lookup key).getD (optionFlag key)

/-- A flag with at most one value; a negated one inverts the condition. -/
structure Group where
  negated : Bool
  flag : String
  argument : Option String
  deriving DecidableEq, Repr

namespace Group

def tokens (g : Group) : List String :=
  (if g.negated then ["!"] else []) ++ g.flag :: (g.argument.map word).toList

/-- The group of a flag and the text of its value. A text after an exclamation mark and a space is
negated and loses the blanks around it. -/
def ofText (flag text : String) : Group :=
  match text.toList with
  | '!' :: ' ' :: rest => ⟨true, flag, some (Text.strip (String.ofList rest))⟩
  | _ => ⟨false, flag, some text⟩

mutual

/-- The groups of a flag with a value: null and true leave the flag alone, and a list or a tuple
repeats it. -/
def ofValue (flag : String) : Value → List Group
  | .null => [⟨false, flag, none⟩]
  | .bool true => [⟨false, flag, none⟩]
  | .list items => ofValues flag items
  | .tuple items => ofValues flag items
  | v => [ofText flag v.text]

/-- The groups of a flag with several values. -/
def ofValues (flag : String) : List Value → List Group
  | [] => []
  | v :: rest => ofValue flag v ++ ofValues flag rest

end

end Group

def conditionTokens (conditions : List Flag) : List String :=
  conditions.flatMap fun f => (Group.ofValue (conditionFlag f.key) f.value).flatMap Group.tokens

def optionTokens (options : List Flag) : List String :=
  options.flatMap fun f => (Group.ofValue (optionFlag f.key) f.value).flatMap Group.tokens

@[simp] theorem conditionTokens_append (fs gs : List Flag) :
    conditionTokens (fs ++ gs) = conditionTokens fs ++ conditionTokens gs := by
  simp [conditionTokens]

end Firewall.Ruleset
