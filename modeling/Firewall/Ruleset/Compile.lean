import Firewall.Log
import Firewall.Policy.Fault
import Firewall.Ruleset.Directive

/-!
# Compiling policies

A table without faults compiles to its directives: all verdicts and new chains stand before the
first rule, so that a rule may jump to a chain declared later. A table with faults fails with the
first of them: faults of its chains come first, in order of declaration, then faults of its jumps,
then values that have no text.
-/

namespace Firewall.Ruleset

/-! ## Faults of a table -/

/-- The clash of a chain with an earlier one that a ruleset writes alike; earlier chains are given
by their names as they are written there and as they are declared. -/
def clash? (t : Table) (earlier : List (String × String)) (c : Chain) : Option PolicyFault :=
  (earlier.lookup (chainName c.name)).map fun first =>
    .sameName t.name first c.name (chainName c.name)

/-- The fault of a chain that has a verdict and is not built in. -/
def misplacedVerdict? (t : Table) (c : Chain) : Option PolicyFault :=
  if c.verdict.isSome && !isBuiltin c.name t.name then some (.misplacedVerdict t.name c.name)
  else none

/-- The faults of chains that are declared after others. -/
def chainFaultsAfter (t : Table) (earlier : List (String × String)) :
    List Chain → List PolicyFault
  | [] => []
  | c :: rest =>
    (clash? t earlier c).toList ++ (misplacedVerdict? t c).toList ++
      chainFaultsAfter t (earlier ++ [(chainName c.name, c.name)]) rest

def chainFaults (t : Table) : List PolicyFault := chainFaultsAfter t [] t.chains

/-- The fault of a rule that jumps to a chain that the table does not declare. -/
def jumpFault? (t : Table) (c : Chain) (position : Nat) (r : Rule) : Option PolicyFault :=
  let action := r.effectiveAction c
  if isTarget t.chainNames action || t.chainNames.contains action then none
  else some (.unresolvedJump t.name c.name position action)

/-- The faults of rules, the first of them at a position. -/
def jumpFaultsFrom (t : Table) (c : Chain) (position : Nat) : List Rule → List PolicyFault
  | [] => []
  | r :: rest => (jumpFault? t c position r).toList ++ jumpFaultsFrom t c (position + 1) rest

def jumpFaults (t : Table) : List PolicyFault :=
  t.chains.flatMap fun c => jumpFaultsFrom t c 1 c.rules

/-- Whether a line can be written for a rule: all its values have texts. -/
def isWritable (r : Rule) : Bool := (r.conditions ++ r.options).all fun f => f.value.hasText

/-- The faults of rules for which no line can be written. -/
def textFaults (t : Table) : List PolicyFault :=
  t.chains.flatMap fun c => (c.rules.filter fun r => !isWritable r).map fun _ => .noText

/-- The faults of a table, in the order of their weight. -/
def faults (t : Table) : List PolicyFault := chainFaults t ++ jumpFaults t ++ textFaults t

/-- Fails with the first fault. -/
def firstFault : List PolicyFault → Except PolicyFault Unit
  | [] => .ok ()
  | f :: _ => .error f

/-- Checks that a table writes no two chains alike and gives verdicts to built-in chains alone. -/
def checkChains (t : Table) : Except PolicyFault Unit := firstFault (chainFaults t)

/-- Checks that every jump of a table leads to a chain that it declares. -/
def checkJumps (t : Table) : Except PolicyFault Unit := firstFault (jumpFaults t)

/-! ## Directives of a table -/

/-- The verdicts of the chains that have one. -/
def verdictLines (t : Table) : List Directive :=
  t.chains.filterMap fun c => c.verdict.map (.verdict c.name)

/-- The chains that are not built in. -/
def newChainLines (t : Table) : List Directive :=
  (t.chains.filter fun c => !isBuiltin c.name t.name).map fun c => .newChain c.name

def ruleLines (t : Table) : List Directive :=
  let declared := t.chainNames
  t.chains.flatMap fun c => c.rules.map fun r => Directive.ofRule c r declared

def directives (t : Table) : List Directive :=
  .table t.name :: (verdictLines t ++ newChainLines t ++ ruleLines t ++ [.commit])

def compileTable (t : Table) : Except PolicyFault (List Directive) := do
  firstFault (faults t)
  return directives t

/-! ## Policies -/

/-- The report of a compiled table. -/
def compiled (t : Table) (ds : List Directive) : Record :=
  ⟨.debug, "fwpolicy.compiler.resolver",
    "Compiled table '" ++ t.name ++ "': " ++ Text.decimal t.chains.length ++ " chains, " ++
      Text.decimal ds.length ++ " lines"⟩

def compileReporting (t : Table) : Logged PolicyFault (List Directive) :=
  (Logged.ofExcept (compileTable t)).andThen fun ds =>
    (Logged.note (compiled t ds)).andThen fun _ => .ok ds

/-- Compiles a policy to the text of its ruleset, table by table. -/
def compile (p : Policy) : Logged PolicyFault String :=
  (Logged.mapList compileReporting p.tables).andThen fun tables => .ok (text tables.flatten)

end Firewall.Ruleset
