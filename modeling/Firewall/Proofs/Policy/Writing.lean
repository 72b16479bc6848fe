import Firewall.Proofs.Mapping
import Firewall.Proofs.Policy.Load

/-!
# Policies written out and loaded

A policy is written out as a mapping of tables, each a mapping of chains, each a mapping of fields,
with a mapping for each rule. There are many ways to do so: the fields of a chain come in any order,
the action and the options of a rule anywhere among its conditions, and what there is nothing to
write of is left out or null. `Policy.ofValue_of_writtenAs`: whichever way is taken, loading gives
back the policy and logs nothing.

1. A field of a mapping is found wherever it stands (`WritesField.field`).
2. The conditions are the entries under other keys, in their order
   (`conditionEntries_eq_of_sublist`).
3. Rules, chains, tables and the policy are built from what they are written as, level by level.
-/

namespace Firewall

/-! ## What can be written out -/

namespace Value

/-- Whether a rule can state a value as it is: a scalar that is not false. -/
def isStatable (v : Value) : Bool := v.isScalar && !v.isFalse

/-- Whether a condition can hold a value: one that a rule can state, or a tuple of such values. -/
def isStatableCondition : Value → Bool
  | .tuple items => items.all isStatable
  | v => v.isStatable

theorem isListOrMap_of_isStatable {v : Value} (h : v.isStatable = true) :
    v.isListOrMap = false := by
  cases v with
  | list _ | map _ => cases h
  | _ => rfl

theorem isFalse_of_isStatable {v : Value} (h : v.isStatable = true) : v.isFalse = false := by
  rw [isStatable, Bool.and_eq_true, Bool.not_eq_true'] at h
  exact h.2

end Value

/-- A rule that can be written out: no key twice, no condition under the key of a field, and values
that a rule can state. -/
structure Rule.Writable (r : Rule) : Prop where
  conditionKeys : (r.conditions.map (·.key)).Nodup
  conditionKey : ∀ f ∈ r.conditions, f.key ∉ ruleKeys
  conditionValue : ∀ f ∈ r.conditions, f.value.isStatableCondition = true
  optionKeys : (r.options.map (·.key)).Nodup
  optionValue : ∀ f ∈ r.options, f.value.isStatable = true

/-- A chain that can be written out: its default action, if any, names a verdict. -/
structure Chain.Writable (c : Chain) : Prop where
  defaultAction : ∀ s ∈ c.defaultAction, (Verdict.ofName? s).isSome = true
  rules : ∀ r ∈ c.rules, r.Writable

/-- A table that can be written out: no two chains have the same name. -/
structure Table.Writable (t : Table) : Prop where
  chainNames : t.chainNames.Nodup
  chains : ∀ c ∈ t.chains, c.Writable

/-- A policy that can be written out: no two tables have the same name. -/
structure Policy.Writable (p : Policy) : Prop where
  tableNames : (p.tables.map (·.name)).Nodup
  tables : ∀ t ∈ p.tables, t.Writable

/-! ## Ways to write out -/

/-- The entries write a field: left out or null if there is nothing to write, or a value that means
what there is. -/
inductive WritesField (name : String) (nothing : Prop) (means : Value → Prop) :
    List (Value × Value) → Prop
  | omitted (h : nothing) : WritesField name nothing means []
  | null (h : nothing) : WritesField name nothing means [(.str name, .null)]
  | stated {v : Value} (h : means v) : WritesField name nothing means [(.str name, v)]

/-- The entry of a flag. -/
def Flag.entry (f : Flag) : Value × Value := (.str f.key, f.value)

/-- The flag of a condition as it is written: what it keeps as a tuple is a list. -/
def Flag.unsettled (f : Flag) : Flag :=
  match f.value with
  | .tuple items => ⟨f.key, .list items⟩
  | _ => f

/-- The entries of the conditions of a rule. -/
def Rule.writtenConditions (r : Rule) : List (Value × Value) :=
  (r.conditions.map Flag.unsettled).map Flag.entry

/-- A way to write a rule: its conditions in their order, and its action and its options anywhere
among them. -/
structure Rule.Layout (r : Rule) where
  entries : List (Value × Value)
  action : List (Value × Value)
  options : List (Value × Value)
  writes_action : WritesField "action" (r.action = none)
    (fun v => ∃ s, r.action = some s ∧ v = .str s) action
  writes_options : WritesField "action_options" (r.options = [])
    (fun v => v = .ofEntries (r.options.map Flag.entry)) options
  perm : entries.Perm (r.writtenConditions ++ (action ++ options))
  ordered : r.writtenConditions.Sublist entries

def Rule.WrittenAs (r : Rule) (v : Value) : Prop := ∃ l : r.Layout, v = .ofEntries l.entries

/-- A way to write a chain: its verdict by its name in any letter case, its default action and its
rules, in any order. -/
structure Chain.Layout (c : Chain) where
  entries : List (Value × Value)
  verdict : List (Value × Value)
  defaultAction : List (Value × Value)
  rules : List (Value × Value)
  writes_verdict : WritesField "default" (c.verdict = none)
    (fun v => ∃ d s, c.verdict = some d ∧ Text.lower s = d.name ∧ v = .str s) verdict
  writes_defaultAction : WritesField "default_rule_action" (c.defaultAction = none)
    (fun v => ∃ s, c.defaultAction = some s ∧ v = .str s) defaultAction
  writes_rules : WritesField "rules" (c.rules = [])
    (fun v => ∃ vs, List.Forall₂ Rule.WrittenAs c.rules vs ∧ v = .list vs) rules
  perm : entries.Perm (verdict ++ (defaultAction ++ rules))

def Chain.WrittenAs (c : Chain) (v : Value) : Prop := ∃ l : c.Layout, v = .ofEntries l.entries

/-- The table is written as a mapping of its chains, in their order. -/
def Table.WrittenAs (t : Table) (v : Value) : Prop :=
  ∃ entries, List.Forall₂ (fun c e => e.1 = .str c.name ∧ c.WrittenAs e.2) t.chains entries ∧
    v = .ofEntries entries

/-- The policy is written as a mapping of its tables, in their order. -/
def Policy.WrittenAs (p : Policy) (v : Value) : Prop :=
  ∃ entries, List.Forall₂ (fun t e => e.1 = .str t.name ∧ t.WrittenAs e.2) p.tables entries ∧
    v = .ofEntries entries

/-! ## Fields -/

namespace WritesField

variable {name : String} {nothing : Prop} {means : Value → Prop} {fs : List (Value × Value)}

theorem key (h : WritesField name nothing means fs) : ∀ e ∈ fs, e.1 = .str name := by
  cases h with
  | omitted => exact List.forall_mem_nil _
  | null => exact List.forall_mem_singleton.2 rfl
  | stated => exact List.forall_mem_singleton.2 rfl

theorem textKeyed (h : WritesField name nothing means fs) : Value.TextKeyed fs where
  text e he := ⟨name, h.key e he⟩
  distinct := by
    cases h with
    | omitted => exact List.nodup_nil
    | null => exact by simp
    | stated => exact by simp

/-- A field of a mapping is found wherever it stands, if no other entry has its key. -/
theorem field {es : List (Value × Value)} (h : WritesField name nothing means fs)
    (hsame : ∀ v, (.str name, v) ∈ es ↔ (.str name, v) ∈ fs) :
    Value.field es name = .null ∧ nothing ∨ means (Value.field es name) := by
  cases h with
  | omitted h =>
    refine .inl ⟨Value.field_eq_null fun v hv => ?_, h⟩
    cases (hsame v).1 hv
  | null h =>
    refine .inl ⟨Value.field_eq_of_mem ((hsame _).2 List.mem_cons_self) fun w hw => ?_, h⟩
    simpa using (hsame w).1 hw
  | @stated v h =>
    rw [Value.field_eq_of_mem ((hsame v).2 List.mem_cons_self) fun w hw => by
      simpa using (hsame w).1 hw]
    exact .inr h

end WritesField

/-! ## Flags -/

theorem Flag.ofEntry_entry (f : Flag) : Flag.ofEntry f.entry = .ok f :=
  Flag.ofEntry_eq_ok_iff.2 ⟨Value.text?_str f.key, rfl⟩

@[simp] theorem Flag.key_unsettled (f : Flag) : f.unsettled.key = f.key := by
  rcases f with ⟨key, value⟩
  cases value <;> rfl

theorem Flag.settled_unsettled {f : Flag} (h : f.value.isStatableCondition = true) :
    f.unsettled.settled = f := by
  rcases f with ⟨key, value⟩
  cases value with
  | list _ => cases h
  | _ => rfl

theorem RuleFault.ofCondition?_unsettled {f : Flag} (h : f.value.isStatableCondition = true) :
    RuleFault.ofCondition? f.unsettled = none := by
  have hlisted : ∀ v ∈ listed f.unsettled.value, v.isStatable = true := by
    rcases f with ⟨key, value⟩
    cases value with
    | tuple items => simpa [Value.isStatableCondition, Flag.unsettled, listed] using h
    | list _ | map _ | set _ => cases h
    | _ => exact List.forall_mem_singleton.2 h
  have hshape : (listed f.unsettled.value).any Value.isListOrMap = false :=
    List.any_eq_false.2 fun v hv => by simp [Value.isListOrMap_of_isStatable (hlisted v hv)]
  have htrue : (listed f.unsettled.value).any Value.isFalse = false :=
    List.any_eq_false.2 fun v hv => by simp [Value.isFalse_of_isStatable (hlisted v hv)]
  rw [ofCondition?, hshape, htrue]
  rfl

theorem RuleFault.ofOption?_of_isStatable {key v : Value} (h : v.isStatable = true) :
    RuleFault.ofOption? key v = none := by
  rw [ofOption?, Value.isListOrMap_of_isStatable h, Value.isFalse_of_isStatable h]
  rfl

theorem Flag.textKeyed_entries {fs : List Flag} (h : (fs.map (·.key)).Nodup) :
    Value.TextKeyed (fs.map Flag.entry) where
  text e he := by
    obtain ⟨f, -, rfl⟩ := List.mem_map.1 he
    exact ⟨f.key, rfl⟩
  distinct := by
    have hmap : (fs.map Flag.entry).map Prod.fst = (fs.map (·.key)).map Value.str := by
      simp [Flag.entry]
    rw [hmap]
    exact List.Pairwise.map Value.str (fun _ _ hne heq => hne (Value.str.inj heq)) h

theorem Flag.forall₂_ofEntry (fs : List Flag) :
    List.Forall₂ (fun e f => Flag.ofEntry e = .ok f) (fs.map Flag.entry) fs := by
  rw [List.forall₂_map_left_iff, List.forall₂_same]
  exact fun f _ => f.ofEntry_entry

/-! ## Rules -/

/-- The conditions are the entries under other keys than those of fields, in their order. -/
theorem conditionEntries_eq_of_sublist {es conditions fields : List (Value × Value)}
    (hsub : conditions.Sublist es) (hperm : es.Perm (conditions ++ fields))
    (hconditions : ∀ e ∈ conditions, e.1.isAmong ruleKeys = false)
    (hfields : ∀ e ∈ fields, e.1.isAmong ruleKeys = true) : conditionEntries es = conditions := by
  have hkeep : conditionEntries conditions = conditions := by
    refine List.filter_eq_self.2 fun e he => ?_
    rw [hconditions e he]
    rfl
  have hdrop : conditionEntries fields = [] := by
    refine List.filter_eq_nil_iff.2 fun e he => ?_
    rw [hfields e he]
    exact Bool.noConfusion
  have hfilter : (conditionEntries es).Perm conditions := by
    have := hperm.filter fun e => !e.1.isAmong ruleKeys
    rwa [List.filter_append, ← conditionEntries, ← conditionEntries, ← conditionEntries, hkeep,
      hdrop, List.append_nil] at this
  have hordered : conditions.Sublist (conditionEntries es) := by
    have := hsub.filter fun e => !e.1.isAmong ruleKeys
    rwa [← conditionEntries, ← conditionEntries, hkeep] at this
  exact (hordered.eq_of_length hfilter.length_eq.symm).symm

namespace Rule

variable {r : Rule}

theorem Writable.key_of_mem (h : r.Writable) :
    ∀ e ∈ r.writtenConditions, ∃ s, e.1 = .str s ∧ s ∉ ruleKeys := by
  intro e he
  rw [writtenConditions, List.map_map, List.mem_map] at he
  obtain ⟨f, hf, rfl⟩ := he
  exact ⟨f.key, by simp [Flag.entry], h.conditionKey f hf⟩

theorem Writable.textKeyed_conditions (h : r.Writable) : Value.TextKeyed r.writtenConditions := by
  refine Flag.textKeyed_entries ?_
  rw [List.map_map]
  simpa [Function.comp_def] using h.conditionKeys

namespace Layout

variable (l : r.Layout)

/-- An entry that is no condition is written under the key of a field. -/
theorem key_of_mem : ∀ e ∈ l.action ++ l.options, ∃ name ∈ ruleKeys, e.1 = .str name := by
  intro e he
  obtain he | he := List.mem_append.1 he
  · exact ⟨"action", by simp [ruleKeys], l.writes_action.key e he⟩
  · exact ⟨"action_options", by simp [ruleKeys], l.writes_options.key e he⟩

theorem textKeyed (h : r.Writable) : Value.TextKeyed l.entries := by
  refine (h.textKeyed_conditions.append
    (l.writes_action.textKeyed.append l.writes_options.textKeyed ?_) ?_).of_perm l.perm
  · intro e he f hf
    rw [l.writes_action.key e he, l.writes_options.key f hf]
    simp
  · intro e he f hf
    obtain ⟨s, hs, hnot⟩ := h.key_of_mem e he
    obtain ⟨name, hname, hf⟩ := l.key_of_mem f hf
    rw [hs, hf]
    rintro ⟨⟩
    exact hnot hname

/-- The entries under the key of a field are among those that write fields. -/
theorem mem_entries_iff (h : r.Writable) {name : String} (hname : name ∈ ruleKeys) {v : Value} :
    (.str name, v) ∈ l.entries ↔ (.str name, v) ∈ l.action ∨ (.str name, v) ∈ l.options := by
  rw [l.perm.mem_iff, List.mem_append, List.mem_append]
  refine or_iff_right fun hv => ?_
  obtain ⟨s, hs, hnot⟩ := h.key_of_mem _ hv
  obtain rfl : name = s := Value.str.inj hs
  exact hnot hname

theorem actionOf_eq (h : r.Writable) : actionOf l.entries = .ok r.action := by
  have hsame : ∀ v, (.str "action", v) ∈ l.entries ↔ (.str "action", v) ∈ l.action := by
    intro v
    rw [l.mem_entries_iff h (by simp [ruleKeys])]
    exact or_iff_left fun hv => by simpa using l.writes_options.key _ hv
  rw [actionOf]
  obtain ⟨hnull, hnone⟩ | ⟨s, hsome, hs⟩ := l.writes_action.field hsame
  · rw [hnull, hnone]
  · rw [hs, hsome]

theorem optionsOf_eq (h : r.Writable) : optionsOf l.entries = .ok (r.options.map Flag.entry) := by
  have hsame : ∀ v,
      (.str "action_options", v) ∈ l.entries ↔ (.str "action_options", v) ∈ l.options := by
    intro v
    rw [l.mem_entries_iff h (by simp [ruleKeys])]
    exact or_iff_right fun hv => by simpa using l.writes_action.key _ hv
  rw [optionsOf]
  obtain ⟨hnull, hnone⟩ | hfield := l.writes_options.field hsame
  · rw [hnull, hnone]
    rfl
  · rw [hfield, Value.ofEntries_eq_map (Flag.textKeyed_entries h.optionKeys)]
    cases r.options <;> rfl

theorem conditionEntries_eq (h : r.Writable) :
    conditionEntries l.entries = r.writtenConditions := by
  refine conditionEntries_eq_of_sublist l.ordered l.perm ?_ ?_
  · intro e he
    obtain ⟨s, hs, hnot⟩ := h.key_of_mem e he
    rw [hs]
    simpa [Value.isAmong] using hnot
  · intro e he
    obtain ⟨name, hname, hkey⟩ := l.key_of_mem e he
    rw [hkey]
    simpa [Value.isAmong] using hname

/-- The rule is built from the entries of any of its layouts. -/
theorem builtFrom (h : r.Writable) :
    r.BuiltFrom l.entries (r.options.map Flag.entry) (r.conditions.map Flag.unsettled) where
  action := l.actionOf_eq h
  options_eq := l.optionsOf_eq h
  options_sound :=
    List.forall_mem_map.2 fun f hf => RuleFault.ofOption?_of_isStatable (h.optionValue f hf)
  options_flags := Flag.forall₂_ofEntry r.options
  conditions_flags := l.conditionEntries_eq h ▸ Flag.forall₂_ofEntry _
  conditions_sound :=
    List.forall_mem_map.2 fun f hf => RuleFault.ofCondition?_unsettled (h.conditionValue f hf)
  conditions_eq := by
    rw [List.map_map]
    refine (List.map_id _).symm.trans (List.map_congr_left fun f hf => ?_)
    exact (Flag.settled_unsettled (h.conditionValue f hf)).symm

end Layout

theorem Writable.ofValue_eq {v : Value} (h : r.Writable) (hv : r.WrittenAs v) :
    ofValue v = .ok r := by
  obtain ⟨l, rfl⟩ := hv
  rw [Value.ofEntries_eq_map (l.textKeyed h), ofValue_map_eq_ok_iff]
  exact ⟨_, _, l.builtFrom h⟩

end Rule

/-! ## Chains -/

namespace Chain

variable {c : Chain} {table : String}

namespace Layout

variable (l : c.Layout)

theorem mem_entries_iff {e : Value × Value} :
    e ∈ l.entries ↔ e ∈ l.verdict ∨ e ∈ l.defaultAction ∨ e ∈ l.rules := by
  rw [l.perm.mem_iff, List.mem_append, List.mem_append]

theorem textKeyed : Value.TextKeyed l.entries := by
  refine (l.writes_verdict.textKeyed.append
    (l.writes_defaultAction.textKeyed.append l.writes_rules.textKeyed ?_) ?_).of_perm l.perm
  · intro e he f hf
    rw [l.writes_defaultAction.key e he, l.writes_rules.key f hf]
    simp
  · intro e he f hf
    rw [l.writes_verdict.key e he]
    obtain hf | hf := List.mem_append.1 hf
    · rw [l.writes_defaultAction.key f hf]
      simp
    · rw [l.writes_rules.key f hf]
      simp

theorem verdictOf_eq : verdictOf table c.name l.entries = .ok c.verdict := by
  have hsame : ∀ v, (.str "default", v) ∈ l.entries ↔ (.str "default", v) ∈ l.verdict := by
    intro v
    rw [l.mem_entries_iff]
    refine or_iff_left ?_
    rintro (hv | hv)
    · simpa using l.writes_defaultAction.key _ hv
    · simpa using l.writes_rules.key _ hv
  rw [verdictOf]
  obtain ⟨hnull, hnone⟩ | ⟨d, s, hsome, hs, hfield⟩ := l.writes_verdict.field hsame
  · rw [hnull, hnone]
  · rw [hfield, hsome]
    simp [Verdict.ofName?_of_lower_eq hs]

theorem defaultActionOf_eq (h : c.Writable) :
    defaultActionOf table c.name l.entries = .ok c.defaultAction := by
  have hsame : ∀ v, (.str "default_rule_action", v) ∈ l.entries ↔
      (.str "default_rule_action", v) ∈ l.defaultAction := by
    intro v
    rw [l.mem_entries_iff]
    constructor
    · rintro (hv | hv | hv)
      · simpa using l.writes_verdict.key _ hv
      · exact hv
      · simpa using l.writes_rules.key _ hv
    · exact fun hv => .inr (.inl hv)
  rw [defaultActionOf]
  obtain ⟨hnull, hnone⟩ | ⟨s, hsome, hfield⟩ := l.writes_defaultAction.field hsame
  · rw [hnull, hnone]
  · rw [hfield, hsome]
    simp [h.defaultAction s hsome]

theorem exists_ruleValuesOf_eq :
    ∃ vs, ruleValuesOf table c.name l.entries = .ok vs ∧
      List.Forall₂ Rule.WrittenAs c.rules vs := by
  have hsame : ∀ v, (.str "rules", v) ∈ l.entries ↔ (.str "rules", v) ∈ l.rules := by
    intro v
    rw [l.mem_entries_iff, ← or_assoc]
    refine or_iff_right ?_
    rintro (hv | hv)
    · simpa using l.writes_verdict.key _ hv
    · simpa using l.writes_defaultAction.key _ hv
  rw [ruleValuesOf]
  obtain ⟨hnull, hnone⟩ | ⟨vs, hvs, hfield⟩ := l.writes_rules.field hsame
  · rw [hnull, hnone]
    exact ⟨[], rfl, .nil⟩
  · rw [hfield]
    exact ⟨vs, by cases vs <;> rfl, hvs⟩

theorem unknownKeys_eq_nil : unknownKeys l.entries = [] := by
  refine List.map_eq_nil_iff.2 (List.filter_eq_nil_iff.2 fun e he => ?_)
  obtain he | he | he := l.mem_entries_iff.1 he
  · simp [l.writes_verdict.key e he, Value.isAmong, chainKeys]
  · simp [l.writes_defaultAction.key e he, Value.isAmong, chainKeys]
  · simp [l.writes_rules.key e he, Value.isAmong, chainKeys]

end Layout

theorem Writable.ofValue_eq {v : Value} (h : c.Writable) (hv : c.WrittenAs v) :
    ofValue table c.name v = .ok c := by
  obtain ⟨l, rfl⟩ := hv
  obtain ⟨vs, hvalues, hrules⟩ := @Layout.exists_ruleValuesOf_eq c table l
  have hbuilt : c.BuiltFrom table c.name l.entries vs :=
    { name_eq := rfl
      verdict := l.verdictOf_eq
      defaultAction := l.defaultActionOf_eq h
      values_eq := hvalues
      rules := forall₂_flip_of_mem hrules fun r hr _ hw => (h.rules r hr).ofValue_eq hw }
  rw [Value.ofEntries_eq_map l.textKeyed, ofValue_map_eq, l.unknownKeys_eq_nil,
    ofEntries_eq_ok_iff.2 ⟨vs, hbuilt⟩]
  rfl

end Chain

/-! ## Tables and policies -/

/-- Where every part is written under its name, the keys are the names. -/
theorem textKeyed_of_forall₂ {α : Type} {W : α → Value → Prop} {name : α → String} {as : List α}
    {es : List (Value × Value)} (h : List.Forall₂ (fun a e => e.1 = .str (name a) ∧ W a e.2) as es)
    (hnames : (as.map name).Nodup) : Value.TextKeyed es := by
  have hkeys : es.map Prod.fst = (as.map name).map Value.str := by
    clear hnames
    induction h with
    | nil => rfl
    | cons hae _ ih => simp [hae.1, ih]
  refine ⟨fun e he => ?_, ?_⟩
  · have hmem : e.1 ∈ (as.map name).map Value.str := hkeys ▸ List.mem_map_of_mem he
    obtain ⟨s, -, hs⟩ := List.mem_map.1 hmem
    exact ⟨s, hs.symm⟩
  · rw [hkeys]
    exact List.Pairwise.map Value.str (fun _ _ hne heq => hne (Value.str.inj heq)) hnames

/-- A mapping is built part by part, if every part is built from its own entry. -/
theorem mapList_of_forall₂ {α : Type} {W : α → Value → Prop} {name : α → String}
    {build : String → Value → Logged PolicyFault α} {as : List α} {es : List (Value × Value)}
    (h : List.Forall₂ (fun a e => e.1 = .str (name a) ∧ W a e.2) as es)
    (hbuild : ∀ a ∈ as, ∀ v, W a v → build (name a) v = .ok a) :
    Logged.mapList (fun e => (nameOf e.1).andThen (build · e.2)) es = .ok as := by
  refine Logged.mapList_eq_ok (forall₂_flip_of_mem h ?_)
  rintro a ha ⟨k, v⟩ ⟨rfl, hw⟩
  exact hbuild a ha v hw

theorem Table.Writable.ofValue_eq {t : Table} {v : Value} (h : t.Writable) (hv : t.WrittenAs v) :
    Table.ofValue t.name v = .ok t := by
  obtain ⟨entries, hchains, rfl⟩ := hv
  rw [Value.ofEntries_eq_map (textKeyed_of_forall₂ hchains h.chainNames), Table.ofValue,
    mapList_of_forall₂ hchains fun c hc _ hw => (h.chains c hc).ofValue_eq hw]
  rfl

/-- **Written out and loaded.** Whichever way a policy is written out, loading gives it back and
logs nothing. -/
theorem Policy.ofValue_of_writtenAs {p : Policy} {v : Value} (h : p.Writable)
    (hv : p.WrittenAs v) : Policy.ofValue v = .ok p := by
  obtain ⟨entries, htables, rfl⟩ := hv
  rw [Value.ofEntries_eq_map (textKeyed_of_forall₂ htables h.tableNames), Policy.ofValue,
    mapList_of_forall₂ htables fun t ht _ hw => (h.tables t ht).ofValue_eq hw]
  rfl

/-- A rule that logs what comes from two networks. -/
def watchedRule : Rule :=
  ⟨[⟨"src", .tuple [.str "10.0.0.0/8", .str "172.16.0.0/12"]⟩, ⟨"dport", .int 22⟩], some "log",
    [⟨"log-prefix", .str "ssh "⟩]⟩

/-- A layout of it: the options first, the action among the conditions. -/
def watchedLayout : watchedRule.Layout where
  entries := [(.str "action_options", .ofEntries [(.str "log-prefix", .str "ssh ")]),
    (.str "src", .list [.str "10.0.0.0/8", .str "172.16.0.0/12"]), (.str "action", .str "log"),
    (.str "dport", .int 22)]
  action := [(.str "action", .str "log")]
  options := [(.str "action_options", .ofEntries [(.str "log-prefix", .str "ssh ")])]
  writes_action := .stated ⟨"log", rfl, rfl⟩
  writes_options := .stated rfl
  perm := by
    refine (@List.perm_append_comm _ [_] [_, _, _]).trans (.cons _ ?_)
    exact .swap _ _ _
  ordered := .cons _ (.cons_cons _ (.cons _ (.cons_cons _ .slnil)))

def blankRule : Rule := ⟨[], none, []⟩

/-- A layout of a rule that states nothing: the action is null. -/
def blankLayout : blankRule.Layout where
  entries := [(.str "action", .null)]
  action := [(.str "action", .null)]
  options := []
  writes_action := .null rfl
  writes_options := .omitted rfl
  perm := .refl _
  ordered := .cons _ .slnil

def watchedChain : Chain := ⟨"input", some .drop, some "Drop", [watchedRule, blankRule]⟩

/-- A layout of the chain: the rules first, the verdict last and in capitals. -/
def watchedChainLayout : watchedChain.Layout where
  entries := [
    (.str "rules", .list [.ofEntries watchedLayout.entries, .ofEntries blankLayout.entries]),
    (.str "default_rule_action", .str "Drop"), (.str "default", .str "DROP")]
  verdict := [(.str "default", .str "DROP")]
  defaultAction := [(.str "default_rule_action", .str "Drop")]
  rules :=
    [(.str "rules", .list [.ofEntries watchedLayout.entries, .ofEntries blankLayout.entries])]
  writes_verdict := .stated ⟨.drop, "DROP", rfl, by decide +kernel, rfl⟩
  writes_defaultAction := .stated ⟨"Drop", rfl, rfl⟩
  writes_rules := .stated ⟨_, .cons ⟨watchedLayout, rfl⟩ (.cons ⟨blankLayout, rfl⟩ .nil), rfl⟩
  perm := (List.reverse_perm [_, _, _]).symm

def declaredChain : Chain := ⟨"web", none, none, []⟩

def declaredChainLayout : declaredChain.Layout where
  entries := [(.str "rules", .null)]
  verdict := []
  defaultAction := []
  rules := [(.str "rules", .null)]
  writes_verdict := .omitted rfl
  writes_defaultAction := .omitted rfl
  writes_rules := .null rfl
  perm := .refl _

def watchedPolicy : Policy := ⟨[⟨"filter", [watchedChain, declaredChain]⟩, ⟨"nat", []⟩]⟩

def watchedValue : Value :=
  .ofEntries [(.str "filter", .ofEntries
      [(.str "input", .ofEntries watchedChainLayout.entries),
        (.str "web", .ofEntries declaredChainLayout.entries)]),
    (.str "nat", .ofEntries [])]

theorem ofValue_watchedValue :
    watchedPolicy.Writable ∧ watchedPolicy.WrittenAs watchedValue ∧
      Policy.ofValue watchedValue = .ok watchedPolicy := by
  have hrule : watchedRule.Writable :=
    ⟨by decide, by decide, by decide +kernel, by decide, by decide +kernel⟩
  have hblank : blankRule.Writable := ⟨by decide, by decide, by decide, by decide, by decide⟩
  have hpolicy : watchedPolicy.Writable :=
    { tableNames := by decide
      tables := by
        refine List.forall_mem_cons.2 ⟨⟨by decide, ?_⟩, List.forall_mem_singleton.2 ⟨by decide, ?_⟩⟩
        · refine List.forall_mem_cons.2 ⟨⟨by decide +kernel, ?_⟩,
            List.forall_mem_singleton.2 ⟨by decide, List.forall_mem_nil _⟩⟩
          exact List.forall_mem_cons.2 ⟨hrule, List.forall_mem_singleton.2 hblank⟩
        · exact List.forall_mem_nil _ }
  have hvalue : watchedPolicy.WrittenAs watchedValue :=
    ⟨_, .cons ⟨rfl, _, .cons ⟨rfl, watchedChainLayout, rfl⟩
      (.cons ⟨rfl, declaredChainLayout, rfl⟩ .nil), rfl⟩ (.cons ⟨rfl, _, .nil, rfl⟩ .nil), rfl⟩
  exact ⟨hpolicy, hvalue, Policy.ofValue_of_writtenAs hpolicy hvalue⟩

end Firewall
