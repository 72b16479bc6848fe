import Firewall.Ruleset.Group

/-!
# Directives

A ruleset is a list of directives, one a line: the header of a table, verdicts of chains, new
chains, rules, and the commit that ends the table.
-/

namespace Firewall.Ruleset

/-- A chain name as a ruleset writes it. -/
def chainName (name : String) : String := Text.upper name

/-- The word that says where an action leads: a declared chain, and a custom chain where the action
is neither a verdict nor an extension target, by its name as a chain; all else in upper case. -/
def targetWord (declared : List String) (action : String) : String :=
  if declared.contains action || !isTarget [] action then chainName action
  else Text.upper action

/-- The words of an action with its options, given the names of the declared chains. -/
def actionTokens (action : String) (options : List Flag) (declared : List String := []) :
    List String :=
  "-j" :: targetWord declared action :: optionTokens options

/-- One line of a ruleset. -/
inductive Directive where
  | table (name : String)
  | verdict (chain : String) (verdict : Verdict)
  | newChain (chain : String)
  | rule (chain : String) (tokens : List String)
  | commit
  deriving DecidableEq, Repr

namespace Directive

def tokens : Directive → List String
  | .table name => ["*" ++ name]
  | .verdict chain v => ["-P", chainName chain, Text.upper v.name]
  | .newChain chain => ["-N", chainName chain]
  | .rule chain ts => "-A" :: chainName chain :: ts
  | .commit => ["COMMIT"]

/-- The line of a directive: its words with a space between them. -/
def line (d : Directive) : String := " ".intercalate d.tokens

/-- The directive of a rule in its chain, given the names of the declared chains. -/
def ofRule (c : Chain) (r : Rule) (declared : List String := []) : Directive :=
  .rule c.name
    (conditionTokens r.conditions ++ actionTokens (r.effectiveAction c) r.options declared)

end Directive

/-- The text of a ruleset: every line ends. -/
def text (ds : List Directive) : String := String.join (ds.map fun d => d.line ++ "\n")

end Firewall.Ruleset
