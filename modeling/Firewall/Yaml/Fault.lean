/-!
# Faults of YAML texts

A text is malformed if no value can be read from it by the rules of YAML. A scalar may also fail on
its own, when its text has no meaning for its type, and reading may call itself too deep. Values are
trees, and their texts are made of characters; a text that means anything else is beyond them.
-/

namespace Firewall.Yaml

/-- Why the text of a scalar has no meaning for its type. -/
inductive ScalarFault where
  | codeTooLarge
  | codeOverflow
  | emptyNumber
  | notNumber
  | numberOverflow
  | notBoolean
  | notMoment
  | momentOfMapping
  | impossibleDate
  deriving DecidableEq, Repr

def ScalarFault.message : ScalarFault → String
  | .codeTooLarge | .codeOverflow => "Escaped code point is too large"
  | .emptyNumber => "Number without digits"
  | .notNumber => "Not a number"
  | .numberOverflow => "Number is too large"
  | .notBoolean => "Not a truth value"
  | .notMoment | .momentOfMapping => "Not a date"
  | .impossibleDate => "Date does not exist"

/-- What a text can mean that no value is: a text with half of a pair of surrogates in it, or a
collection that holds itself. -/
inductive Beyond where
  | halfPair
  | knot
  deriving DecidableEq, Repr

/-- Why a text has no value. -/
inductive Fault where
  | malformed
  | tooDeep
  | scalar (f : ScalarFault)
  | beyond (b : Beyond)
  deriving DecidableEq, Repr

/-- The greatest number of calls inside each other. It stands for the limit of one thousand that an
interpreter sets, less the calls around the reader, which are not the same for all its callers. -/
def greatestCalls : Nat := 980

end Firewall.Yaml
