import Firewall.Log
import Firewall.Policy.Fault

/-!
# Policies from values

Builds a policy from the value of a policy text: a mapping of tables, each a mapping of chains, each
a mapping with a list of rules. Chains are built in order; each logs a warning for every key that
has no meaning there, and the first fault ends the building. Tables, chains, conditions and options
are named by the texts of their keys, so that such a key without a text is a fault, as is a value
without a text that the message of a fault would show.
-/

namespace Firewall

/-- The keys that a chain gives a meaning to. -/
def chainKeys : List String := ["default", "default_rule_action", "rules"]

/-- The keys of a rule that are no conditions. -/
def ruleKeys : List String := ["action", "action_options"]

/-- Whether a key is one of the texts. -/
def Value.isAmong (keys : List String) : Value → Bool
  | .str s => keys.contains s
  | _ => false

/-! ## Rules -/

namespace RuleFault

/-- The fault that shows some values, if they have texts. -/
def showing (shown : List Value) (f : RuleFault) : RuleFault :=
  if shown.all Value.hasText then f else .noText

def ofOption? (key value : Value) : Option RuleFault :=
  if value.isListOrMap then some (showing [key, value] (.optionNotScalar key.text value))
  else if value.isFalse then some (showing [key] (.optionFalse key.text))
  else none

/-- The values that a condition lists, itself if it is no list. -/
def listed : Value → List Value
  | .list items => items
  | v => [v]

def ofCondition? (f : Flag) : Option RuleFault :=
  if (listed f.value).any Value.isListOrMap then
    some (showing [f.value] (.conditionNotScalar f.key f.value))
  else if (listed f.value).any Value.isFalse then some (.conditionFalse f.key)
  else none

end RuleFault

/-- A condition keeps the values that it lists as a tuple. -/
def Flag.settled (f : Flag) : Flag :=
  match f.value with
  | .list items => ⟨f.key, .tuple items⟩
  | _ => f

/-- The flag of an entry: its key as text, and its value. -/
def Flag.ofEntry (e : Value × Value) : Except RuleFault Flag :=
  match e.1.text? with
  | some key => .ok ⟨key, e.2⟩
  | none => .error .noText

/-- The entries of a rule that are conditions. -/
def conditionEntries (entries : List (Value × Value)) : List (Value × Value) :=
  entries.filter fun e => !e.1.isAmong ruleKeys

namespace Rule

/-- The action that the entries of a rule state. -/
def actionOf (entries : List (Value × Value)) : Except RuleFault (Option String) :=
  match Value.field entries "action" with
  | .null => .ok none
  | .str s => .ok (some s)
  | v => .error (.showing [v] (.actionNotText v))

/-- The options that the entries of a rule state; an empty value of any kind states none. -/
def optionsOf (entries : List (Value × Value)) : Except RuleFault (List (Value × Value)) :=
  let v := Value.field entries "action_options"
  if v.isEmpty then .ok []
  else match v with
    | .map options => .ok options
    | _ => .error .optionsNotMapping

/-- Fails with the first fault. -/
def refuse : List RuleFault → Except RuleFault Unit
  | [] => .ok ()
  | f :: _ => .error f

def ofValue : Value → Except RuleFault Rule
  | .map entries => do
    let action ← actionOf entries
    let options ← optionsOf entries
    refuse (options.filterMap fun e => RuleFault.ofOption? e.1 e.2)
    let conditions ← (conditionEntries entries).mapM Flag.ofEntry
    refuse (conditions.filterMap RuleFault.ofCondition?)
    return ⟨conditions.map Flag.settled, action, ← options.mapM Flag.ofEntry⟩
  | v => .error (.showing [v] (.notMapping v))

end Rule

/-! ## Chains -/

/-- The warning about a key without a meaning. It is logged for a key without a text too: whoever
shows the record puts its message together. -/
def ignoredKey (table chain : String) (key : Value) : Record :=
  ⟨.warning, "fwpolicy.policy.loader",
    "Ignoring unknown key '" ++ key.text ++ "' in chain '" ++ chainPath table chain ++ "'"⟩

/-- The fault that shows a value, if it has a text. -/
def PolicyFault.showing (v : Value) (f : PolicyFault) : PolicyFault :=
  if v.hasText then f else .noText

/-- The name that a key is. -/
def nameOf (key : Value) : Logged PolicyFault String :=
  match key.text? with
  | some name => .ok name
  | none => .fail .noText

namespace Chain

/-- The chain without rules. -/
def bare (name : String) : Chain := ⟨name, none, none, []⟩

def verdictOf (table name : String) (entries : List (Value × Value)) :
    Except PolicyFault (Option Verdict) :=
  match Value.field entries "default" with
  | .null => .ok none
  | v =>
    match v.text?.bind Verdict.ofName? with
    | some verdict => .ok (some verdict)
    | none => .error (.showing v (.notVerdict table name v))

def defaultActionOf (table name : String) (entries : List (Value × Value)) :
    Except PolicyFault (Option String) :=
  match Value.field entries "default_rule_action" with
  | .null => .ok none
  | .str s =>
    if (Verdict.ofName? s).isSome then .ok (some s)
    else .error (.defaultActionNotVerdict table name (.str s))
  | v => .error (.showing v (.defaultActionNotVerdict table name v))

/-- The values of the rules of a chain; an empty value of any kind states none. -/
def ruleValuesOf (table name : String) (entries : List (Value × Value)) :
    Except PolicyFault (List Value) :=
  let v := Value.field entries "rules"
  if v.isEmpty then .ok []
  else match v with
    | .list items => .ok items
    | _ => .error (.rulesNotList table name)

/-- The rules of values, the first of them at a position. -/
def rulesFrom (table name : String) (position : Nat) : List Value → Except PolicyFault (List Rule)
  | [] => .ok []
  | v :: rest => do
    let rule ← (Rule.ofValue v).mapError (PolicyFault.rule table name position)
    return rule :: (← rulesFrom table name (position + 1) rest)

def ofEntries (table name : String) (entries : List (Value × Value)) :
    Except PolicyFault Chain := do
  let verdict ← verdictOf table name entries
  let defaultAction ← defaultActionOf table name entries
  let values ← ruleValuesOf table name entries
  return ⟨name, verdict, defaultAction, ← rulesFrom table name 1 values⟩

/-- The keys that have no meaning in a chain, in order. -/
def unknownKeys (entries : List (Value × Value)) : List Value :=
  (entries.filter fun e => !e.1.isAmong chainKeys).map Prod.fst

def ofValue (table name : String) : Value → Logged PolicyFault Chain
  | .null => .ok (bare name)
  | .map entries =>
    (Logged.notes ((unknownKeys entries).map (ignoredKey table name))).andThen fun _ =>
      .ofExcept (ofEntries table name entries)
  | _ => .fail (.chainNotMapping table name)

end Chain

/-! ## Tables and policies -/

def Table.ofValue (name : String) : Value → Logged PolicyFault Table
  | .null => .ok ⟨name, []⟩
  | .map entries =>
    (Logged.mapList (fun e => (nameOf e.1).andThen (Chain.ofValue name · e.2)) entries).andThen
      fun chains => .ok ⟨name, chains⟩
  | _ => .fail (.tableNotMapping name)

def Policy.ofValue : Value → Logged PolicyFault Policy
  | .null => .ok ⟨[]⟩
  | .map entries =>
    (Logged.mapList (fun e => (nameOf e.1).andThen (Table.ofValue · e.2)) entries).andThen
      fun tables => .ok ⟨tables⟩
  | _ => .fail .notMapping

end Firewall
