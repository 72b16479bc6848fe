import Firewall.Policy
import Firewall.Text.Utf8

/-!
# Faults of a policy

Everything that can be wrong with a policy text or with the policy that it holds. A fault has a kind
and a message; both are what the user sees. Only a value without a text is a fault of no kind.
-/

namespace Firewall

inductive FaultKind where
  | malformedPolicy
  | malformedRule
  | unresolvedJump
  | misplacedVerdict
  deriving DecidableEq, Repr

def FaultKind.name : FaultKind → String
  | .malformedPolicy => "MalformedPolicy"
  | .malformedRule => "MalformedRuleSpec"
  | .unresolvedJump => "UnresolvedJumpTarget"
  | .misplacedVerdict => "InvalidDefaultPolicyTarget"

/-- What can be wrong with the value of a rule. -/
inductive RuleFault where
  | notMapping (got : Value)
  | actionNotText (got : Value)
  | optionsNotMapping
  | optionNotScalar (key : String) (got : Value)
  | optionFalse (key : String)
  | conditionNotScalar (key : String) (got : Value)
  | conditionFalse (key : String)
  | noText

/-- What is said of a value without a text. -/
def noTextMessage : String := "Integer has too many digits"

/-- The advice for a value that an unquoted word made false. -/
def falseAdvice (what key : String) : String :=
  what ++ " '" ++ key ++ "' is false; quote the value (e.g. '" ++ key ++
    ": \"no\"') or remove the key"

def RuleFault.message : RuleFault → String
  | .notMapping got => "rule must be a mapping, got " ++ got.shown
  | .actionNotText got => "action must be a string, got " ++ got.shown
  | .optionsNotMapping => "action_options must be a mapping"
  | .optionNotScalar key got =>
    "action option '" ++ key ++ "' must be a scalar, got " ++ got.shown
  | .optionFalse key => falseAdvice "action option" key
  | .conditionNotScalar key got =>
    "match '" ++ key ++ "' must be a scalar or a list of scalars, got " ++ got.shown
  | .conditionFalse key => falseAdvice "match" key
  | .noText => noTextMessage

inductive PolicyFault where
  | notYaml
  | notUtf8 (path : String) (fault : Text.Utf8.Fault)
  | notMapping
  | tableNotMapping (table : String)
  | chainNotMapping (table chain : String)
  | notVerdict (table chain : String) (got : Value)
  | defaultActionNotVerdict (table chain : String) (got : Value)
  | rulesNotList (table chain : String)
  | rule (table chain : String) (position : Nat) (fault : RuleFault)
  | sameName (table first second rendered : String)
  | unresolvedJump (table chain : String) (position : Nat) (target : String)
  | misplacedVerdict (table chain : String)
  | noText

/-- A chain as messages about its shape name it. -/
def chainPath (table chain : String) : String := table ++ "/" ++ chain

/-- A rule as messages name it. -/
def rulePlace (table chain : String) (position : Nat) : String :=
  "table '" ++ table ++ "', chain '" ++ chain ++ "', rule " ++ Text.decimal position

/-- The faulty bytes as messages show them: one byte by its value, several by their places. -/
def bytesPlace (f : Text.Utf8.Fault) : String :=
  if f.size = 1 then
    "byte 0x" ++ String.ofList (Text.paddedDigits 16 2 f.byte.toNat) ++ " in position " ++
      Text.decimal f.start
  else
    "bytes in position " ++ Text.decimal f.start ++ "-" ++ Text.decimal (f.start + f.size - 1)

namespace PolicyFault

def kind? : PolicyFault → Option FaultKind
  | .noText | .rule _ _ _ .noText => none
  | .rule .. => some .malformedRule
  | .unresolvedJump .. => some .unresolvedJump
  | .misplacedVerdict .. => some .misplacedVerdict
  | _ => some .malformedPolicy

def message : PolicyFault → String
  | .notYaml => "Policy is not valid YAML"
  | .notUtf8 path f =>
    "Policy " ++ path ++ " is not valid UTF-8: 'utf-8' codec can't decode " ++ bytesPlace f ++
      ": " ++ f.reason.message
  | .notMapping => "Policy YAML must be a mapping of tables"
  | .tableNotMapping table => "Table '" ++ table ++ "' must be a mapping of chains"
  | .chainNotMapping table chain => "Chain '" ++ chainPath table chain ++ "' must be a mapping"
  | .notVerdict table chain got =>
    "Chain '" ++ chainPath table chain ++ "': default must be one of " ++
      ", ".intercalate (Verdict.all.map (·.name)) ++ ", got " ++ got.shown
  | .defaultActionNotVerdict table chain got =>
    "Chain '" ++ chainPath table chain ++ "': default_rule_action must be a verdict, got " ++
      got.shown
  | .rulesNotList table chain => "Chain '" ++ chainPath table chain ++ "': rules must be a list"
  | .rule table chain position f => rulePlace table chain position ++ ": " ++ f.message
  | .sameName table first second rendered =>
    "table '" ++ table ++ "': chains '" ++ first ++ "' and '" ++ second ++ "' both render as " ++
      rendered
  | .unresolvedJump table chain position target =>
    rulePlace table chain position ++ ": jump target '" ++ target ++
      "' is not defined in this table"
  | .misplacedVerdict table chain =>
    "table '" ++ table ++ "', chain '" ++ chain ++
      "': default policy is only allowed on built-in chains"
  | .noText => noTextMessage

end PolicyFault

end Firewall
