/-!
# Tokens

The tokens of a YAML text. Blocks have tokens of their own where indentation begins and ends them.
-/

namespace Firewall.Yaml

/-- A tag as it is written: a handle and a suffix, or a whole name. -/
inductive WrittenTag where
  | whole (name : String)
  | short (handle suffix : String)
  deriving DecidableEq, Repr

inductive Instruction where
  | version (major minor : Nat)
  | handle (handle expansion : String)
  | other
  deriving DecidableEq, Repr

/-- A token. A scalar may be plain, and it may be torn: an escape in it names a surrogate, which is
half of a pair and no character, and its text has the replacement character in that place. -/
inductive Token where
  | instruction (i : Instruction)
  | documentStart
  | documentEnd
  | streamEnd
  | blockSequenceStart
  | blockMappingStart
  | blockEnd
  | flowSequenceStart
  | flowSequenceEnd
  | flowMappingStart
  | flowMappingEnd
  | blockEntry
  | flowEntry
  | key
  | value
  | alias (name : String)
  | anchor (name : String)
  | tag (t : WrittenTag)
  | scalar (text : String) (plain torn : Bool)
  deriving DecidableEq, Repr

def Token.isTorn : Token → Bool
  | .scalar _ _ torn => torn
  | _ => false

end Firewall.Yaml
