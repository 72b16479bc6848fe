import Firewall.Number.Read
import Firewall.Restore
import Firewall.Text.CaseMap

/-!
# Settings

The settings of a run and how the environment changes them. A number of seconds that is not greater
than zero means that there is no limit.
-/

namespace Firewall

structure Settings where
  command : String
  command6 : String
  limit : Option Restore.Seconds
  verbose : Bool
  deriving Repr

/-- An environment: names with their values. -/
abbrev Environment := List (String × String)

namespace Settings

/-- The settings when the environment is silent. -/
def standard : Settings :=
  ⟨"iptables-restore", "ip6tables-restore", some (.real (.ofRatio false 30 1)), false⟩

/-- The limit that a number of seconds means: none unless it is greater than zero. -/
def limitOf (x : Binary64) : Option Restore.Seconds :=
  if x.isPositive then some (.real x) else none

theorem limitOf_eq_none_iff {x : Binary64} : limitOf x = none ↔ x.isPositive = false := by
  simp [limitOf]

/-- The names of the variables that change the settings. -/
def commandVariable : String := "FWPOLICY_RESTORE_COMMAND"
def command6Variable : String := "FWPOLICY_RESTORE6_COMMAND"
def limitVariable : String := "FWPOLICY_TIMEOUT"
def verboseVariable : String := "FWPOLICY_VERBOSE"

def variableNames : List String :=
  [commandVariable, command6Variable, limitVariable, verboseVariable]

def nonEmpty? (env : Environment) (name : String) : Option String :=
  (env.lookup name).filter (· ≠ "")

/-- A time limit in the environment that is no number. -/
structure BadLimit where
  value : String
  deriving DecidableEq, Repr

def BadLimit.message (b : BadLimit) : String :=
  "Invalid value for " ++ limitVariable ++ ": " ++ Text.shown b.value ++
    " is not a number of seconds"

/-- The time limit that the environment sets, if it does. -/
def limitIn (env : Environment) : Except BadLimit (Option Restore.Seconds) :=
  match nonEmpty? env limitVariable with
  | none => .ok standard.limit
  | some s =>
    match Number.float? s.toList with
    | some x => .ok (limitOf x)
    | none => .error ⟨s⟩

def isYes (s : String) : Bool := ["1", "true", "yes"].contains (Text.lower s)

def ofEnvironment (env : Environment) : Except BadLimit Settings := do
  let limit ← limitIn env
  return {
    command := (nonEmpty? env commandVariable).getD standard.command
    command6 := (nonEmpty? env command6Variable).getD standard.command6
    limit
    verbose := isYes ((env.lookup verboseVariable).getD "") }

end Settings

end Firewall
