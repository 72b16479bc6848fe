import Firewall.Policy.Read
import Firewall.Proofs.Failure
import Firewall.Proofs.Log
import Firewall.Proofs.Mapping

/-!
# How policies are built

What a policy is built from, level by level. A rule is built from the entries of a mapping
(`Rule.ofValue_eq_ok_iff`), a chain from the entries of a mapping with the values of its rules
(`Chain.ofEntries_eq_ok_iff`), and a table and a policy from one entry for each of their parts
(`Table.result_ofValue_eq_ok_iff`, `Policy.result_ofValue_eq_ok_iff`). So every rule of a policy is
built from a value that stands in that of the policy (`Policy.exists_ofValue_eq_ok`).
-/

namespace Firewall

/-! ## Rules -/

theorem Flag.ofEntry_eq_ok_iff {e : Value × Value} {f : Flag} :
    Flag.ofEntry e = .ok f ↔ e.1.text? = some f.key ∧ e.2 = f.value := by
  rcases f with ⟨key, value⟩
  unfold Flag.ofEntry
  cases e.1.text? <;> simp

namespace Rule

theorem refuse_eq_ok_iff {fs : List RuleFault} {u : Unit} : refuse fs = .ok u ↔ fs = [] := by
  cases fs <;> simp [refuse]

theorem mem_of_refuse_eq_error {fs : List RuleFault} {f : RuleFault} (h : refuse fs = .error f) :
    f ∈ fs := by
  cases fs with
  | nil => cases h
  | cons g rest =>
    cases h
    exact List.mem_cons_self

theorem eq_nil_or_field_of_optionsOf {entries options : List (Value × Value)}
    (h : optionsOf entries = .ok options) :
    options = [] ∨ Value.field entries "action_options" = .map options := by
  dsimp only [optionsOf] at h
  split at h
  · cases h
    exact .inl rfl
  · split at h
    case h_1 options' hfield =>
      cases h
      exact .inr hfield
    case h_2 => cases h

/-- The rule is built from the entries of a mapping: `options` are the entries of its options, and
`conditions` its conditions before they are settled. -/
structure BuiltFrom (r : Rule) (entries options : List (Value × Value))
    (conditions : List Flag) : Prop where
  action : actionOf entries = .ok r.action
  options_eq : optionsOf entries = .ok options
  options_sound : ∀ e ∈ options, RuleFault.ofOption? e.1 e.2 = none
  options_flags : List.Forall₂ (fun e f => Flag.ofEntry e = .ok f) options r.options
  conditions_flags :
    List.Forall₂ (fun e f => Flag.ofEntry e = .ok f) (conditionEntries entries) conditions
  conditions_sound : ∀ f ∈ conditions, RuleFault.ofCondition? f = none
  conditions_eq : r.conditions = conditions.map Flag.settled

theorem ofValue_map_eq_ok_iff {entries : List (Value × Value)} {r : Rule} :
    ofValue (.map entries) = .ok r ↔
      ∃ options conditions, r.BuiltFrom entries options conditions := by
  simp only [ofValue, bind_eq_ok_iff, refuse_eq_ok_iff, List.filterMap_eq_nil_iff, mapM_eq_ok_iff,
    pure_eq_ok_iff]
  constructor
  · rintro ⟨action, ha, options, ho, -, hos, conditions, hc, -, hcs, flags, hf, rfl⟩
    exact ⟨options, conditions, ha, ho, hos, hf, hc, hcs, rfl⟩
  · rintro ⟨options, conditions, h⟩
    rcases r with ⟨rconditions, action, flags⟩
    refine ⟨action, h.action, options, h.options_eq, (), h.options_sound, conditions,
      h.conditions_flags, (), h.conditions_sound, flags, h.options_flags, ?_⟩
    rw [← h.conditions_eq]

theorem ofValue_eq_ok_iff {v : Value} {r : Rule} :
    ofValue v = .ok r ↔
      ∃ entries options conditions, v = .map entries ∧ r.BuiltFrom entries options conditions := by
  cases v with
  | map entries => simp [ofValue_map_eq_ok_iff]
  | _ => simp [ofValue]

end Rule

/-! ## Chains -/

namespace Chain

variable {table name : String}

theorem rulesFrom_eq_ok_iff {position : Nat} {vs : List Value} {rs : List Rule} :
    rulesFrom table name position vs = .ok rs ↔
      List.Forall₂ (fun v r => Rule.ofValue v = .ok r) vs rs := by
  induction vs generalizing position rs with
  | nil => simp [rulesFrom, eq_comm]
  | cons v vs ih =>
    simp only [rulesFrom, bind_eq_ok_iff, mapError_eq_ok_iff, pure_eq_ok_iff, ih,
      List.forall₂_cons_left_iff, eq_comm (b := rs), exists_and_left]

theorem eq_nil_or_field_of_ruleValuesOf {entries : List (Value × Value)} {values : List Value}
    (h : ruleValuesOf table name entries = .ok values) :
    values = [] ∨ Value.field entries "rules" = .list values := by
  dsimp only [ruleValuesOf] at h
  split at h
  · cases h
    exact .inl rfl
  · split at h
    case h_1 values' hfield =>
      cases h
      exact .inr hfield
    case h_2 => cases h

theorem ruleValuesOf_eq_ok_of_list {entries : List (Value × Value)} {values : List Value}
    (h : Value.field entries "rules" = .list values) :
    ruleValuesOf table name entries = .ok values := by
  rw [ruleValuesOf, h]
  cases values <;> rfl

/-- The chain is built from the entries of a mapping: `values` are the values of its rules. -/
structure BuiltFrom (c : Chain) (table name : String) (entries : List (Value × Value))
    (values : List Value) : Prop where
  name_eq : c.name = name
  verdict : verdictOf table name entries = .ok c.verdict
  defaultAction : defaultActionOf table name entries = .ok c.defaultAction
  values_eq : ruleValuesOf table name entries = .ok values
  rules : List.Forall₂ (fun v r => Rule.ofValue v = .ok r) values c.rules

theorem ofEntries_eq_ok_iff {entries : List (Value × Value)} {c : Chain} :
    ofEntries table name entries = .ok c ↔ ∃ values, c.BuiltFrom table name entries values := by
  simp only [ofEntries, bind_eq_ok_iff, pure_eq_ok_iff, rulesFrom_eq_ok_iff]
  constructor
  · rintro ⟨verdict, hv, action, ha, values, hvs, rules, hr, rfl⟩
    exact ⟨values, rfl, hv, ha, hvs, hr⟩
  · rintro ⟨values, h⟩
    rcases c with ⟨cname, verdict, action, rules⟩
    refine ⟨verdict, h.verdict, action, h.defaultAction, values, h.values_eq, rules, h.rules, ?_⟩
    rw [← h.name_eq]

/-- A chain logs a warning for each key without a meaning before it is built from a mapping. -/
theorem ofValue_map_eq (table name : String) (entries : List (Value × Value)) :
    ofValue table name (.map entries) =
      ⟨(unknownKeys entries).map (ignoredKey table name), ofEntries table name entries⟩ := by
  rw [ofValue, Logged.notes, Logged.andThen, Logged.ofExcept, List.append_nil]

theorem result_ofValue_eq_ok_iff {v : Value} {c : Chain} :
    (ofValue table name v).result = .ok c ↔
      v = .null ∧ c = bare name ∨
      ∃ entries values, v = .map entries ∧ c.BuiltFrom table name entries values := by
  cases v with
  | null => simp [ofValue, eq_comm]
  | map entries => simp [ofValue_map_eq, ofEntries_eq_ok_iff]
  | _ => simp [ofValue]

end Chain

/-! ## Tables and policies -/

theorem result_nameOf_eq_ok_iff {key : Value} {name : String} :
    (nameOf key).result = .ok name ↔ key.text? = some name := by
  unfold nameOf
  cases key.text? <;> simp

theorem Table.result_ofValue_eq_ok_iff {name : String} {v : Value} {t : Table} :
    (Table.ofValue name v).result = .ok t ↔
      t.name = name ∧ (v = .null ∧ t.chains = [] ∨
        ∃ entries, v = .map entries ∧
          List.Forall₂ (fun e c => ∃ key, e.1.text? = some key ∧
            (Chain.ofValue name key e.2).result = .ok c) entries t.chains) := by
  rcases t with ⟨tname, chains⟩
  cases v with
  | null => simp [Table.ofValue, eq_comm]
  | map entries =>
    simp only [Table.ofValue, Logged.result_andThen_eq_ok_iff, Logged.result_mapList_eq_ok_iff,
      result_nameOf_eq_ok_iff, Logged.result_ok, Except.ok.injEq]
    simp [and_comm, eq_comm]
  | _ => simp [Table.ofValue]

/-- A policy is built from null, without tables, or from a mapping with an entry for each table. -/
theorem Policy.result_ofValue_eq_ok_iff {v : Value} {p : Policy} :
    (Policy.ofValue v).result = .ok p ↔
      v = .null ∧ p.tables = [] ∨
      ∃ entries, v = .map entries ∧
        List.Forall₂ (fun e t => ∃ key, e.1.text? = some key ∧
          (Table.ofValue key e.2).result = .ok t) entries p.tables := by
  rcases p with ⟨tables⟩
  cases v with
  | null => simp [Policy.ofValue, eq_comm]
  | map entries =>
    simp only [Policy.ofValue, Logged.result_andThen_eq_ok_iff, Logged.result_mapList_eq_ok_iff,
      result_nameOf_eq_ok_iff, Logged.result_ok, Except.ok.injEq]
    simp
  | _ => simp [Policy.ofValue]

/-- A policy is read from a text with a value that it is built from. -/
theorem Policy.result_read_eq_ok_iff {text : String} {p : Policy} :
    (Policy.read text).result = .ok p ↔
      ∃ v, Yaml.read text = .ok v ∧ (Policy.ofValue v).result = .ok p := by
  rw [Policy.read, Logged.result_andThen_eq_ok_iff]
  simp only [Logged.ofExcept, Logged.mapError, mapError_eq_ok_iff]

/-- Every rule of a policy is built from a value that stands in the value of the policy: what is
true of that and of null, and with a mapping or a list also of its values or its items, is true of
the value of the rule. -/
theorem Policy.exists_ofValue_eq_ok {P : Value → Prop} (hnull : P .null)
    (hmap : ∀ es, P (.map es) → ∀ e ∈ es, P e.2) (hlist : ∀ vs, P (.list vs) → ∀ v ∈ vs, P v)
    {v : Value} (hv : P v) {p : Policy} (h : (Policy.ofValue v).result = .ok p) {t : Table}
    (ht : t ∈ p.tables) {c : Chain} (hc : c ∈ t.chains) {r : Rule} (hr : r ∈ c.rules) :
    ∃ w, P w ∧ Rule.ofValue w = .ok r := by
  obtain ⟨-, hp⟩ | ⟨entries, rfl, htables⟩ := Policy.result_ofValue_eq_ok_iff.1 h
  · rw [hp] at ht
    cases ht
  obtain ⟨⟨_, _⟩, htableEntry, key, -, htable⟩ := exists_of_forall₂ htables ht
  obtain ⟨-, ⟨-, hchains⟩ | ⟨chainEntries, rfl, hchains⟩⟩ :=
    Table.result_ofValue_eq_ok_iff.1 htable
  · rw [hchains] at hc
    cases hc
  obtain ⟨⟨_, _⟩, hchainEntry, chainKey, -, hchain⟩ := exists_of_forall₂ hchains hc
  obtain ⟨-, rfl⟩ | ⟨ruleEntries, values, rfl, hbuilt⟩ := Chain.result_ofValue_eq_ok_iff.1 hchain
  · cases hr
  obtain ⟨w, hw, hrule⟩ := exists_of_forall₂ hbuilt.rules hr
  have htableP : P (.map chainEntries) := hmap entries hv _ htableEntry
  have hchainP : P (.map ruleEntries) := hmap chainEntries htableP _ hchainEntry
  have hfieldP : P (Value.field ruleEntries "rules") :=
    Value.field_induction hnull (hmap ruleEntries hchainP) "rules"
  obtain rfl | hfield := Chain.eq_nil_or_field_of_ruleValuesOf hbuilt.values_eq
  · cases hw
  · rw [hfield] at hfieldP
    exact ⟨w, hlist values hfieldP w hw, hrule⟩

end Firewall
