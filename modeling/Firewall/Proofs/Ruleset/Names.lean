import Firewall.Proofs.Ruleset.Checks
import Firewall.Proofs.Ruleset.Pieces
import Firewall.Proofs.Ruleset.Stated
import Firewall.Proofs.Yaml.Keys

/-!
# Names of tables, conditions and options

`nodup_names_iff`: in a policy that is loaded and compiled the names of tables are distinct, and so
the headers of the ruleset, exactly when no two keys of the value of its text are alike; likewise
the conditions and the options of every rule. No two keys of a mapping are the same, but a name is
the text of a key, and the texts of two keys may be: a text and another scalar are alike if they are
written the same, as are two keys that are nan. Chains are checked for that when they are compiled,
tables, conditions and options are not (`not_nodup_names_oneTwice`).

1. The names of a mapping are the texts of its keys (`Policy.names_of_ofValue`,
   `Rule.BuiltFrom.conditionKeys_eq`, `Rule.BuiltFrom.optionKeys_eq`).
2. These are distinct unless two keys are alike, for all mappings of a value that a text means
   (`Value.Keyed.nodup_text_iff`, `RuleAt.wellKeyed`).
-/

namespace Firewall

/-! ## Names are texts of keys -/

abbrev keyTexts (es : List (Value × Value)) : List String := es.map fun e => e.1.text

theorem Flag.keys_of_forall₂ {es : List (Value × Value)} {fs : List Flag}
    (h : List.Forall₂ (fun e f => Flag.ofEntry e = .ok f) es fs) :
    fs.map (·.key) = keyTexts es := by
  refine (map_eq_map_of_forall₂ h fun e f hef => ?_).symm
  obtain ⟨hkey, -⟩ := Flag.ofEntry_eq_ok_iff.1 hef
  exact (Value.text?_eq_some_iff.1 hkey).2

theorem Flag.key_settled (f : Flag) : f.settled.key = f.key := by
  unfold Flag.settled
  split <;> rfl

theorem Rule.eq_entries_of_optionsOf {entries options : List (Value × Value)}
    (h : optionsOf entries = .ok options) :
    options = (Value.field entries "action_options").entries := by
  dsimp only [optionsOf] at h
  split at h
  · next hempty =>
    cases h
    cases hfield : Value.field entries "action_options" with
    | map es =>
      rw [hfield] at hempty
      exact (List.isEmpty_iff.1 hempty).symm
    | _ => rfl
  · split at h
    · next hfield =>
      cases h
      rw [hfield]
      rfl
    · cases h

namespace Rule.BuiltFrom

variable {r : Rule} {entries options : List (Value × Value)} {conditions : List Flag}

theorem conditionKeys_eq (h : r.BuiltFrom entries options conditions) :
    r.conditions.map (·.key) = keyTexts (conditionEntries entries) := by
  rw [h.conditions_eq, List.map_map, ← Flag.keys_of_forall₂ h.conditions_flags]
  exact List.map_congr_left fun f _ => f.key_settled

theorem optionKeys_eq (h : r.BuiltFrom entries options conditions) :
    r.options.map (·.key) = keyTexts (Value.field entries "action_options").entries := by
  rw [Flag.keys_of_forall₂ h.options_flags, eq_entries_of_optionsOf h.options_eq]

end Rule.BuiltFrom

theorem Policy.names_of_ofValue {v : Value} {p : Policy} (h : (ofValue v).result = .ok p) :
    p.tables.map (·.name) = keyTexts v.entries := by
  obtain ⟨rfl, hp⟩ | ⟨es, rfl, htables⟩ := result_ofValue_eq_ok_iff.1 h
  · rw [hp]
    rfl
  · refine (map_eq_map_of_forall₂ htables fun e t het => ?_).symm
    obtain ⟨key, hkey, ht⟩ := het
    obtain ⟨hname, -⟩ := Table.result_ofValue_eq_ok_iff.1 ht
    rw [hname, (Value.text?_eq_some_iff.1 hkey).2]

/-! ## Mappings of a policy text -/

theorem RuleAt.wellKeyed {v : Value} {i j n : Nat} {fields entries : List (Value × Value)}
    (h : RuleAt v i j n fields entries) (hv : v.WellKeyed) : (Value.map entries).WellKeyed := by
  obtain ⟨tables, _, chains, _, rules, rfl, htable, hchain, hrules, hrule⟩ := h
  have hchains : (Value.map chains).WellKeyed :=
    hv.of_mem_map _ (List.mem_of_getElem? htable)
  have hfields : (Value.map fields).WellKeyed :=
    hchains.of_mem_map _ (List.mem_of_getElem? hchain)
  have hlist : (Value.field fields "rules").WellKeyed :=
    Value.field_induction (.scalar rfl) hfields.of_mem_map "rules"
  rw [hrules] at hlist
  exact hlist.of_mem_list _ (List.mem_of_getElem? hrule)

namespace Ruleset

/-- The name in the header of a table; no other directive has one. -/
def Directive.tableName? : Directive → Option String
  | .table name => some name
  | _ => none

theorem tableNames_directives (ts : List Table) :
    (ts.flatMap directives).filterMap Directive.tableName? = ts.map (·.name) := by
  induction ts with
  | nil => rfl
  | cons t ts ih =>
    have hnone : (verdictLines t ++ newChainLines t ++ ruleLines t ++ [Directive.commit]).filterMap
        Directive.tableName? = [] := by
      rw [List.filterMap_eq_nil_iff]
      simp only [List.forall_mem_append, forall_mem_verdictLines, forall_mem_newChainLines,
        ruleLines, List.forall_mem_flatMap, List.forall_mem_map, List.forall_mem_singleton]
      exact ⟨⟨⟨fun _ _ _ _ => rfl, fun _ _ _ => rfl⟩, fun _ _ _ _ => rfl⟩, rfl⟩
    rw [List.flatMap_cons, List.filterMap_append, ih, directives, List.filterMap_cons, hnone]
    rfl

/-- **Distinct names.** A policy that is loaded and compiled is built from the value of its text.
The headers of its ruleset, which are the names of its tables, are distinct exactly when no two keys
of that value are alike. Every rule is built from a mapping at its place in the value: its
conditions have distinct keys exactly when no two keys of that mapping are alike but for those of
the action and its options, and its options exactly when no two keys of their mapping are. -/
theorem nodup_names_iff {source ruleset : String} {p : Policy}
    (hp : (Policy.read source).result = .ok p) (hc : (compile p).result = .ok ruleset) :
    ∃ v, Yaml.read source = .ok v ∧ (Policy.ofValue v).result = .ok p ∧
      text (p.tables.flatMap directives) = ruleset ∧
      (p.tables.flatMap directives).filterMap Directive.tableName? = p.tables.map (·.name) ∧
      ((p.tables.map (·.name)).Nodup ↔ Value.Unlike v.entries) ∧
      ∀ (i j n : Nat) (t : Table) (c : Chain) (r : Rule),
        p.tables[i]? = some t → t.chains[j]? = some c → c.rules[n]? = some r →
        ∃ fields entries, RuleAt v i j n fields entries ∧
          ((r.conditions.map (·.key)).Nodup ↔ Value.Unlike (conditionEntries entries)) ∧
          ((r.options.map (·.key)).Nodup ↔
            Value.Unlike (Value.field entries "action_options").entries) := by
  obtain ⟨v, hv, hbuilt⟩ := Policy.result_read_eq_ok_iff.1 hp
  have hkeyed := Yaml.wellKeyed_of_read hv
  refine ⟨v, hv, hbuilt, (result_compile_eq_ok_iff.1 hc).2, tableNames_directives p.tables, ?_, ?_⟩
  · rw [Policy.names_of_ofValue hbuilt]
    exact hkeyed.keyed_entries.nodup_text_iff
  · intro i j n t c r ht hc hr
    obtain ⟨fields, entries, hat, hrule⟩ := exists_ruleAt hbuilt ht hc hr
    obtain ⟨options, conditions, hfrom⟩ := Rule.ofValue_map_eq_ok_iff.1 hrule
    have hentries := hat.wellKeyed hkeyed
    have hoptions : (Value.field entries "action_options").WellKeyed :=
      Value.field_induction (.scalar rfl) hentries.of_mem_map "action_options"
    refine ⟨fields, entries, hat, ?_, ?_⟩
    · rw [hfrom.conditionKeys_eq]
      exact (hentries.keyed_entries.filter _).nodup_text_iff
    · rw [hfrom.optionKeys_eq]
      exact hoptions.keyed_entries.nodup_text_iff

/-- A policy text with two conditions that are written alike, a number and a text. -/
def alikeConditions : String :=
  "filter: \x7binput: \x7brules: [\x7b1: a, '1': b\x7d]\x7d\x7d"

theorem nodup_names_alikeConditions :
    ∃ p ruleset, (Policy.read alikeConditions).result = .ok p ∧
      (compile p).result = .ok ruleset ∧
      ∃ v, Yaml.read alikeConditions = .ok v ∧
        ((p.tables.map (·.name)).Nodup ↔ Value.Unlike v.entries) ∧
        ∀ (i j n : Nat) (t : Table) (c : Chain) (r : Rule),
          p.tables[i]? = some t → t.chains[j]? = some c → c.rules[n]? = some r →
          ∃ fields entries, RuleAt v i j n fields entries ∧
            ((r.conditions.map (·.key)).Nodup ↔ Value.Unlike (conditionEntries entries)) ∧
            ((r.options.map (·.key)).Nodup ↔
              Value.Unlike (Value.field entries "action_options").entries) := by
  have hrun : ∃ p ∈ (Policy.read alikeConditions).result.toOption.toList,
      ∀ t ∈ p.tables, (faults t).isEmpty = true := by
    decide +kernel
  obtain ⟨p, hp, hfault⟩ := hrun
  have hc := result_compile_of_isEmpty hfault
  obtain ⟨v, hv, -, -, -, hnames, hrules⟩ := nodup_names_iff (eq_ok_of_mem_toList hp) hc
  exact ⟨p, _, eq_ok_of_mem_toList hp, hc, v, hv, hnames, hrules⟩

/-- A policy text with two tables, the one named by a number and the other by a text, which loads
and compiles to a ruleset with two blocks under the same header. -/
theorem not_nodup_names_oneTwice :
    ∃ p, (Policy.read "1: \x7b\x7d\n'1': \x7b\x7d\n").result = .ok p ∧
      (compile p).result = .ok "*1\nCOMMIT\n*1\nCOMMIT\n" ∧ ¬ (p.tables.map (·.name)).Nodup := by
  have hrun : ∃ p ∈ (Policy.read "1: \x7b\x7d\n'1': \x7b\x7d\n").result.toOption.toList,
      (∀ t ∈ p.tables, (faults t).isEmpty = true) ∧
      text (p.tables.flatMap directives) = "*1\nCOMMIT\n*1\nCOMMIT\n" ∧
      ¬ (p.tables.map (·.name)).Nodup := by
    decide +kernel
  obtain ⟨p, hp, hfault, htext, hnames⟩ := hrun
  exact ⟨p, eq_ok_of_mem_toList hp, htext ▸ result_compile_of_isEmpty hfault, hnames⟩

end Ruleset

end Firewall
