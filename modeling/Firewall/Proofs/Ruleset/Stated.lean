import Firewall.Proofs.Policy.Load
import Firewall.Proofs.Ruleset.Target

/-!
# The action that is stated

`writesStated_of_ruleAt`: a policy that is loaded and compiled has a line for every rule of its
value, and the word after the jump flag is what the rule states as its action, else what its chain
states as the default, else accept, in upper case. That holds unless the action is an empty text:
this is stated, but the rule then does what it would do without an action
(`not_writesStated_emptyAction`). Null states nothing, and no other value is loaded as an action.

1. A rule of the value is built at its place in the policy (`RuleAt.built`).
2. What a rule does is what is stated, as long as that is no empty text
   (`effectiveAction_of_action_ne`, `effectiveAction_of_action_empty`). A default action is never
   one.
-/

namespace Firewall

/-! ## Rules of a value -/

/-- The value has the rule with the given entries, at a place in the chain with the given fields,
which has a place in its table as that has in the value. -/
def RuleAt (v : Value) (table chain rule : Nat) (fields entries : List (Value × Value)) : Prop :=
  ∃ tables tableKey chains chainKey rules, v = .map tables ∧
    tables[table]? = some (tableKey, .map chains) ∧ chains[chain]? = some (chainKey, .map fields) ∧
    Value.field fields "rules" = .list rules ∧ rules[rule]? = some (.map entries)

/-- The rule is built at its place, from its entries, in a chain that is built from its fields. -/
theorem RuleAt.built {v : Value} {i j n : Nat} {fields entries : List (Value × Value)}
    (h : RuleAt v i j n fields entries) {p : Policy} (hp : (Policy.ofValue v).result = .ok p) :
    ∃ t c r, p.tables[i]? = some t ∧ t.chains[j]? = some c ∧ c.rules[n]? = some r ∧
      Chain.defaultActionOf t.name c.name fields = .ok c.defaultAction ∧
      Rule.actionOf entries = .ok r.action := by
  obtain ⟨tables, _, chains, _, rules, rfl, htable, hchain, hrules, hrule⟩ := h
  obtain ⟨hnull, -⟩ | ⟨es, hes, htables⟩ := Policy.result_ofValue_eq_ok_iff.1 hp
  · cases hnull
  cases hes
  obtain ⟨t, ht, tableName, -, hbuilt⟩ := getElem?_of_forall₂ htables htable
  obtain ⟨htname, ⟨hnull, -⟩ | ⟨es, hes, hchains⟩⟩ := Table.result_ofValue_eq_ok_iff.1 hbuilt
  · cases hnull
  cases hes
  obtain ⟨c, hc, chainName, -, hbuilt⟩ := getElem?_of_forall₂ hchains hchain
  obtain ⟨hnull, -⟩ | ⟨es, values, hes, hbuilt⟩ := Chain.result_ofValue_eq_ok_iff.1 hbuilt
  · cases hnull
  cases hes
  obtain rfl : values = rules :=
    Except.ok.inj (hbuilt.values_eq.symm.trans (Chain.ruleValuesOf_eq_ok_of_list hrules))
  obtain ⟨r, hr, hrbuilt⟩ := getElem?_of_forall₂ hbuilt.rules hrule
  obtain ⟨os, cs, hrbuilt⟩ := Rule.ofValue_map_eq_ok_iff.1 hrbuilt
  refine ⟨t, c, r, ht, hc, hr, ?_, hrbuilt.action⟩
  rw [htname, hbuilt.name_eq]
  exact hbuilt.defaultAction

/-- Every rule of a policy is built at its place in the value. -/
theorem exists_ruleAt {v : Value} {p : Policy} (hp : (Policy.ofValue v).result = .ok p)
    {i j n : Nat} {t : Table} {c : Chain} {r : Rule} (ht : p.tables[i]? = some t)
    (hc : t.chains[j]? = some c) (hr : c.rules[n]? = some r) :
    ∃ fields entries, RuleAt v i j n fields entries ∧ Rule.ofValue (.map entries) = .ok r := by
  obtain ⟨-, hnone⟩ | ⟨tables, rfl, htables⟩ := Policy.result_ofValue_eq_ok_iff.1 hp
  · rw [hnone] at ht
    cases ht
  obtain ⟨⟨tableKey, _⟩, htable, _, -, htableBuilt⟩ := getElem?_of_forall₂ htables.flip ht
  obtain ⟨-, ⟨-, hnone⟩ | ⟨chains, rfl, hchains⟩⟩ := Table.result_ofValue_eq_ok_iff.1 htableBuilt
  · rw [hnone] at hc
    cases hc
  obtain ⟨⟨chainKey, _⟩, hchain, _, -, hchainBuilt⟩ := getElem?_of_forall₂ hchains.flip hc
  obtain ⟨-, rfl⟩ | ⟨fields, values, rfl, hfrom⟩ :=
    Chain.result_ofValue_eq_ok_iff.1 hchainBuilt
  · cases hr
  obtain ⟨w, hw, hrule⟩ := getElem?_of_forall₂ hfrom.rules.flip hr
  obtain ⟨entries, _, _, rfl, -⟩ := Rule.ofValue_eq_ok_iff.1 hrule
  obtain rfl | hfield := Chain.eq_nil_or_field_of_ruleValuesOf hfrom.values_eq
  · cases hw
  · exact ⟨fields, entries,
      ⟨tables, tableKey, chains, chainKey, values, rfl, htable, hchain, hfield, hw⟩, hrule⟩

/-! ## What a rule does -/

/-- The action that the entries of a rule state, else the one that the fields of its chain state as
the default, else accept. -/
def statedAction (fields entries : List (Value × Value)) : String :=
  match Value.field entries "action", Value.field fields "default_rule_action" with
  | .str s, _ => s
  | _, .str s => s
  | _, _ => Verdict.accept.name

theorem Rule.actionOf_eq_ok_iff {entries : List (Value × Value)} {a : Option String} :
    actionOf entries = .ok a ↔
      Value.field entries "action" = .null ∧ a = none ∨
      ∃ s, Value.field entries "action" = .str s ∧ a = some s := by
  unfold actionOf
  cases Value.field entries "action" <;> simp [eq_comm]

/-- A default action is no empty text. -/
theorem Chain.defaultActionOf_eq_ok {table name : String} {fields : List (Value × Value)}
    {a : Option String} (h : defaultActionOf table name fields = .ok a) :
    Value.field fields "default_rule_action" = .null ∧ a = none ∨
      ∃ s, Value.field fields "default_rule_action" = .str s ∧ a = some s ∧ s ≠ "" := by
  unfold defaultActionOf at h
  split at h
  case h_1 hnull => exact .inl ⟨hnull, (Except.ok.inj h).symm⟩
  case h_2 s hs =>
    split at h
    case isTrue hname =>
      refine .inr ⟨s, hs, (Except.ok.inj h).symm, ?_⟩
      rintro rfl
      exact absurd hname (by decide)
    case isFalse => cases h
  case h_3 => cases h

theorem filter_some_of_ne_empty {s : String} (h : s ≠ "") :
    (some s).filter (· ≠ "") = some s :=
  Option.filter_eq_some_iff.2 ⟨rfl, decide_eq_true h⟩

section

variable {c : Chain} {r : Rule} {table name : String} {fields entries : List (Value × Value)}
  (hdefault : Chain.defaultActionOf table name fields = .ok c.defaultAction)
  (haction : Rule.actionOf entries = .ok r.action)

include hdefault

/-- What is stated without an action of the rule is no empty text. -/
theorem statedAction_nil_ne_empty : statedAction fields [] ≠ "" := by
  unfold statedAction
  obtain ⟨hnull, -⟩ | ⟨s, hs, -, hne⟩ := Chain.defaultActionOf_eq_ok hdefault
  · rw [hnull]; decide
  · rw [hs]; exact hne

include haction

/-- A rule does what is stated, unless that is an empty text. -/
theorem effectiveAction_of_action_ne (h : Value.field entries "action" ≠ .str "") :
    r.effectiveAction c = statedAction fields entries := by
  unfold Rule.effectiveAction statedAction
  obtain ⟨hnull, hnone⟩ | ⟨s, hs, hsome⟩ := Rule.actionOf_eq_ok_iff.1 haction
  · rw [hnull, hnone]
    obtain ⟨hd, hdnone⟩ | ⟨d, hd, hdsome, hne⟩ := Chain.defaultActionOf_eq_ok hdefault
    · rw [hd, hdnone]
      rfl
    · rw [hd, hdsome, filter_some_of_ne_empty hne]
      rfl
  · have hne : s ≠ "" := fun he => h (he ▸ hs)
    rw [hs, hsome, filter_some_of_ne_empty hne]
    rfl

/-- A rule whose action is an empty text does what it would do without an action. -/
theorem effectiveAction_of_action_empty (h : Value.field entries "action" = .str "") :
    r.effectiveAction c = statedAction fields [] := by
  have hempty : r.action = some "" := by
    obtain ⟨hnull, -⟩ | ⟨s, hs, hsome⟩ := Rule.actionOf_eq_ok_iff.1 haction
    · rw [h] at hnull
      cases hnull
    · rw [h] at hs
      cases hs
      exact hsome
  unfold Rule.effectiveAction statedAction
  rw [hempty]
  obtain ⟨hd, hdnone⟩ | ⟨d, hd, hdsome, hne⟩ := Chain.defaultActionOf_eq_ok hdefault
  · rw [hd, hdnone]
    rfl
  · rw [hd, hdsome, filter_some_of_ne_empty hne]
    rfl

end

/-! ## What is written -/

namespace Ruleset

/-- The word says what the entries of a rule and the fields of its chain state, in upper case. Where
the stated action is an empty text, it says instead what they state without it. -/
structure WritesStated (fields entries : List (Value × Value)) (word : String) : Prop where
  action : Value.field entries "action" = .null ∨ ∃ s, Value.field entries "action" = .str s
  defaultAction : Value.field fields "default_rule_action" = .null ∨
    ∃ s, Value.field fields "default_rule_action" = .str s
  stated_iff : word = Text.upper (statedAction fields entries) ↔
    Value.field entries "action" ≠ .str ""
  empty : Value.field entries "action" = .str "" → word = Text.upper (statedAction fields [])

theorem writesStated_upper {c : Chain} {r : Rule} {table name : String}
    {fields entries : List (Value × Value)}
    (hdefault : Chain.defaultActionOf table name fields = .ok c.defaultAction)
    (haction : Rule.actionOf entries = .ok r.action) :
    WritesStated fields entries (Text.upper (r.effectiveAction c)) where
  action := (Rule.actionOf_eq_ok_iff.1 haction).imp And.left fun ⟨s, hs, _⟩ => ⟨s, hs⟩
  defaultAction := (Chain.defaultActionOf_eq_ok hdefault).imp And.left fun ⟨s, hs, _⟩ => ⟨s, hs⟩
  stated_iff := by
    constructor
    · intro hword h
      rw [effectiveAction_of_action_empty hdefault haction h] at hword
      have hempty : Text.upper (statedAction fields entries) = "" := by
        rw [statedAction, h]
        rfl
      rw [hempty, Text.upper_eq_empty_iff] at hword
      exact statedAction_nil_ne_empty hdefault hword
    · intro h
      rw [effectiveAction_of_action_ne hdefault haction h]
  empty h := by rw [effectiveAction_of_action_empty hdefault haction h]

/-- **The action that is written.** Every rule of a value that is loaded and compiled has a line,
with one word after the jump flag, and it says what is stated unless the action is an empty text. -/
theorem writesStated_of_ruleAt {v : Value} {p : Policy} (hp : (Policy.ofValue v).result = .ok p)
    {txt : String} (htxt : (compile p).result = .ok txt) {i j n : Nat}
    {fields entries : List (Value × Value)} (h : RuleAt v i j n fields entries) :
    ∃ t c r word, p.tables[i]? = some t ∧ t.chains[j]? = some c ∧ c.rules[n]? = some r ∧
      Directive.ofRule c r t.chainNames ∈ p.tables.flatMap directives ∧
      text (p.tables.flatMap directives) = txt ∧
      (Directive.ofRule c r t.chainNames).tokens =
        "-A" :: chainName c.name :: (conditionTokens r.conditions ++
          "-j" :: word :: optionTokens r.options) ∧
      WritesStated fields entries word := by
  obtain ⟨t, c, r, ht, hc, hr, hdefault, haction⟩ := h.built hp
  obtain ⟨-, htext⟩ := result_compile_eq_ok_iff.1 htxt
  have hline : Directive.ofRule c r t.chainNames ∈ directives t :=
    ofRule_mem_directives (List.mem_of_getElem? hc) (List.mem_of_getElem? hr)
  refine ⟨t, c, r, targetWord t.chainNames (r.effectiveAction c), ht, hc, hr,
    List.mem_flatMap.2 ⟨t, List.mem_of_getElem? ht, hline⟩, htext, rfl, ?_⟩
  rw [targetWord_eq]
  exact writesStated_upper hdefault haction

/-- The entries of a rule with an action in mixed case. -/
def logEntries : List (Value × Value) := [(.str "action", .str "Log")]

/-- The fields of a chain with a default action, a rule without an action and a rule with one. -/
def dropFields : List (Value × Value) :=
  [(.str "default_rule_action", .str "drop"), (.str "rules", .list [.map [], .map logEntries])]

/-- The value of a policy with the chain that these fields state. -/
def dropValue : Value := .map [(.str "filter", .map [(.str "input", .map dropFields)])]

def dropPolicy : Policy :=
  ⟨[⟨"filter", [⟨"input", none, some "drop", [⟨[], none, []⟩, ⟨[], some "Log", []⟩]⟩]⟩]⟩

theorem writesStated_dropFields :
    (Policy.ofValue dropValue).result = .ok dropPolicy ∧
    (compile dropPolicy).result = .ok (text (dropPolicy.tables.flatMap directives)) ∧
    WritesStated dropFields [] "DROP" ∧ WritesStated dropFields logEntries "LOG" := by
  have hp : (Policy.ofValue dropValue).result = .ok dropPolicy := rfl
  have htxt := result_compile_of_isEmpty (p := dropPolicy) (by decide)
  obtain ⟨-, -, -, first, -, -, -, -, -, -, hfirst⟩ :=
    @writesStated_of_ruleAt _ _ hp _ htxt 0 0 0 dropFields []
      ⟨_, _, _, _, _, rfl, rfl, rfl, rfl, rfl⟩
  obtain ⟨-, -, -, second, -, -, -, -, -, -, hsecond⟩ :=
    @writesStated_of_ruleAt _ _ hp _ htxt 0 0 1 dropFields logEntries
      ⟨_, _, _, _, _, rfl, rfl, rfl, rfl, rfl⟩
  have hdrop : first = "DROP" :=
    (hfirst.stated_iff.2 fun h => by cases h).trans (by decide)
  have hlog : second = "LOG" :=
    (hsecond.stated_iff.2 fun h => absurd (Value.str.inj h) (by decide)).trans (by decide)
  exact ⟨hp, htxt, hdrop ▸ hfirst, hlog ▸ hsecond⟩

/-- The entries of a rule whose action is an empty text. -/
def emptyActionEntries : List (Value × Value) := [(.str "action", .str "")]

/-- The value of a policy with such a rule, and with a chain whose name is that text. -/
def emptyActionValue : Value :=
  .map [(.str "filter", .map [(.str "", .null),
    (.str "input", .map [(.str "rules", .list [.map emptyActionEntries])])])]

/-- The policy that is loaded from it. -/
def emptyActionPolicy : Policy :=
  ⟨[⟨"filter", [.bare "", ⟨"input", none, none, [⟨[], some "", []⟩]⟩]⟩]⟩

/-- The rule states an empty text, which is the name of a chain, and is written to accept. -/
theorem not_writesStated_emptyAction :
    (Policy.ofValue emptyActionValue).result = .ok emptyActionPolicy ∧
    (compile emptyActionPolicy).result = .ok "*filter\n-N \n-A INPUT -j ACCEPT\nCOMMIT\n" ∧
    RuleAt emptyActionValue 0 1 0 [(.str "rules", .list [.map emptyActionEntries])]
      emptyActionEntries ∧
    statedAction [(.str "rules", .list [.map emptyActionEntries])] emptyActionEntries = "" := by
  have htext : text (emptyActionPolicy.tables.flatMap directives) =
      "*filter\n-N \n-A INPUT -j ACCEPT\nCOMMIT\n" := by decide
  refine ⟨rfl, ?_, ⟨_, _, _, _, _, rfl, rfl, rfl, rfl, rfl⟩, rfl⟩
  rw [← htext]
  exact result_compile_of_isEmpty (by decide)

end Ruleset

end Firewall
