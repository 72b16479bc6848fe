import Firewall.Text.CaseMap
import Firewall.Value

/-!
# Policies

A policy is a list of tables, a table a list of chains, a chain a list of rules, all in the order in
which they are written. Names of verdicts, of built-in chains and of extension targets are known in
any letter case; names of declared chains are known exactly as written.
-/

namespace Firewall

/-! ## Verdicts -/

/-- What becomes of a packet; `back` resumes the chain that jumped here. -/
inductive Verdict where
  | accept
  | drop
  | reject
  | back
  deriving DecidableEq, Repr

namespace Verdict

def all : List Verdict := [.accept, .drop, .reject, .back]

def name : Verdict → String
  | .accept => "accept"
  | .drop => "drop"
  | .reject => "reject"
  | .back => "return"

/-- The verdict that a name in any letter case means. -/
def ofName? (s : String) : Option Verdict := all.find? fun v => v.name == Text.lower s

theorem lower_eq_of_ofName? {s : String} {v : Verdict} (h : ofName? s = some v) :
    Text.lower s = v.name := by
  have := List.find?_some h
  simpa using Eq.symm (by simpa using this)

/-- A verdict is known by its name in any letter case. -/
theorem ofName?_of_lower_eq {s : String} {v : Verdict} (h : Text.lower s = v.name) :
    ofName? s = some v := by
  rw [ofName?, h]
  cases v <;> rfl

theorem isSome_ofName?_iff {s : String} :
    (ofName? s).isSome = true ↔ ∃ v : Verdict, Text.lower s = v.name := by
  rw [Option.isSome_iff_exists]
  exact exists_congr fun v => ⟨lower_eq_of_ofName?, ofName?_of_lower_eq⟩

end Verdict

/-! ## Rules, chains, tables -/

/-- A key with its value: a condition on packets, or an option of an action. -/
structure Flag where
  key : String
  value : Value
  deriving Repr

/-- A rule: the conditions on a packet, and what to do with one that meets them all. -/
structure Rule where
  conditions : List Flag
  action : Option String
  options : List Flag
  deriving Repr

/-- A named list of rules. `verdict` decides about packets that no rule decides about, and
`defaultAction` is the action of rules that name none. -/
structure Chain where
  name : String
  verdict : Option Verdict
  defaultAction : Option String
  rules : List Rule
  deriving Repr

structure Table where
  name : String
  chains : List Chain
  deriving Repr

/-- A policy: its tables in order. -/
structure Policy where
  tables : List Table
  deriving Repr

namespace Table

def chainNames (t : Table) : List String := t.chains.map (·.name)

/-- The first chain with exactly this name. -/
def chain? (t : Table) (name : String) : Option Chain := t.chains.find? (·.name == name)

theorem chain?_isSome {t : Table} {name : String} :
    (t.chain? name).isSome = true ↔ name ∈ t.chainNames := by
  simp [chain?, chainNames]

end Table

/-! ## Built-in chains -/

/-- The chains that the kernel provides in each table, in lower case. -/
def builtinChains : List (String × List String) :=
  [("filter", ["input", "output", "forward"]),
   ("nat", ["prerouting", "postrouting", "output"]),
   ("mangle", ["prerouting", "input", "forward", "output", "postrouting"]),
   ("raw", ["prerouting", "output"]),
   ("security", ["input", "output", "forward"])]

/-- The chains that the kernel provides in a table, none in one that it does not know. -/
def builtinsOf (table : String) : List String :=
  (builtinChains.lookup (Text.lower table)).getD []

/-- Whether the kernel provides the chain in the table. -/
def isBuiltin (chain table : String) : Bool := (builtinsOf table).contains (Text.lower chain)

/-! ## Targets -/

/-- The targets that extensions provide, in lower case. -/
def extensionTargets : List String :=
  ["audit", "checksum", "classify", "connmark", "ct", "dnat", "dscp", "log", "mark", "masquerade",
   "netmap", "nflog", "nfqueue", "notrack", "redirect", "snat", "tcpmss", "tee", "tos", "tproxy",
   "ttl"]

/-- Whether an action is a verdict or an extension target and so no jump, given the names of the
declared chains. A declared chain hides the extension target of its name, but no verdict. -/
def isTarget (declared : List String) (action : String) : Bool :=
  if (Verdict.ofName? action).isSome then true
  else if declared.contains action then false
  else extensionTargets.contains (Text.lower action)

namespace Rule

/-- What a rule does: its action, else the default action of its chain, else accept. Empty texts do
not count as actions. -/
def effectiveAction (r : Rule) (c : Chain) : String :=
  ((r.action.filter (· ≠ "")).or (c.defaultAction.filter (· ≠ ""))).getD Verdict.accept.name

end Rule

end Firewall
