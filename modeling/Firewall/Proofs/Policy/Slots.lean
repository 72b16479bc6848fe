import Firewall.Proofs.Policy.Faults

/-!
# The shapes of what is loaded

`Policy.judgedBySlots`: a value is loaded as a policy only if every value in one of its slots (the
value itself, its tables, its chains with their fields, its rules with theirs) has a shape that is
documented for the slot, or is an empty value of any kind that stands for the rules of a chain or
for the options of a rule. So false, zero or an empty text is loaded there like null
(`not_documented_falseRules`). Any other value fails, and the first one with the fault of its slot.

1. A field has a result exactly if its value is accepted in its slot (`Slot.Decides`).
2. What is built from a mapping or a list is built from its parts (`Slot.builds_document_map_iff`,
   `Slot.builds_table_map_iff`, `Slot.builds_chain_map_iff`), so that whatever stands in it is built
   and accepted (`Slot.Stands.builds`).
3. A value that fails makes all around it fail with its fault, if what is read before it is built
   (`Slot.Stands.fails`).
-/

namespace Firewall

/-- A place in the value of a policy for which shapes are documented. -/
inductive Slot where
  | document
  | table (name : String)
  | chain (table name : String)
  | verdict (table chain : String)
  | defaultAction (table chain : String)
  | rules (table chain : String)
  | rule (table chain : String) (position : Nat)
  | action (table chain : String) (position : Nat)
  | options (table chain : String) (position : Nat)

namespace Slot

/-! ## Shapes -/

/-- The shapes that are documented for a slot. A field that is not written is null. -/
def Documented : Slot → Value → Prop
  | .document, v | .table _, v | .chain _ _, v | .options _ _ _, v => v = .null ∨ ∃ es, v = .map es
  | .verdict _ _, v => v = .null ∨ ∃ s, v.text? = some s ∧ ∃ d : Verdict, Text.lower s = d.name
  | .defaultAction _ _, v => v = .null ∨ ∃ s, v = .str s ∧ ∃ d : Verdict, Text.lower s = d.name
  | .rules _ _, v => v = .null ∨ ∃ vs, v = .list vs
  | .rule _ _ _, v => ∃ es, v = .map es
  | .action _ _ _, v => v = .null ∨ ∃ s, v = .str s

/-- Whether an empty value of any kind counts as none in a slot. -/
def isLenient : Slot → Bool
  | .rules _ _ | .options _ _ _ => true
  | _ => false

def Accepts (p : Slot) (v : Value) : Prop := p.Documented v ∨ p.isLenient = true ∧ v.isEmpty = true

theorem accepts_iff_documented {p : Slot} {v : Value} (h : p.isLenient = false) :
    p.Accepts v ↔ p.Documented v := by
  simp [Accepts, h]

/-- The kind of fault that is documented for a slot. -/
def kind : Slot → FaultKind
  | .rule _ _ _ | .action _ _ _ | .options _ _ _ => .malformedRule
  | _ => .malformedPolicy

/-- The fault of a value that is not accepted in a slot. -/
def fault : Slot → Value → PolicyFault
  | .document, _ => .notMapping
  | .table t, _ => .tableNotMapping t
  | .chain t c, _ => .chainNotMapping t c
  | .verdict t c, v => .showing v (.notVerdict t c v)
  | .defaultAction t c, v => .showing v (.defaultActionNotVerdict t c v)
  | .rules t c, _ => .rulesNotList t c
  | .rule t c n, v => .rule t c n (.showing [v] (.notMapping v))
  | .action t c n, v => .rule t c n (.showing [v] (.actionNotText v))
  | .options t c n, _ => .rule t c n .optionsNotMapping

/-- The fault is of the kind that is documented, unless the message would show a value without a
text. -/
theorem kind?_fault (p : Slot) (v : Value) :
    (p.fault v).kind? = some p.kind ∨ (p.fault v).kind? = none ∧ v.hasText = false := by
  cases p with
  | verdict t c | defaultAction t c =>
    cases hv : v.hasText with
    | true => exact .inl (by rw [fault, PolicyFault.showing, hv]; rfl)
    | false => exact .inr ⟨by rw [fault, PolicyFault.showing, hv]; rfl, rfl⟩
  | rule t c n | action t c n =>
    cases hv : v.hasText with
    | true => exact .inl (by simp [fault, RuleFault.showing, hv, PolicyFault.kind?, kind])
    | false => exact .inr ⟨by simp [fault, RuleFault.showing, hv, PolicyFault.kind?], rfl⟩
  | _ => exact .inl rfl

/-! ## Fields -/

/-- A field is read exactly if its value is accepted in its slot, and else has the fault of the
slot. -/
structure Decides {α : Type} (p : Slot) (v : Value) (x : Except PolicyFault α) : Prop where
  accepts : p.Accepts v → ∃ a, x = .ok a
  refuses : ¬ p.Accepts v → x = .error (p.fault v)

namespace Decides

variable {α : Type} {p : Slot} {v : Value} {x : Except PolicyFault α}

theorem of_ok {a : α} (h : p.Accepts v) (hx : x = .ok a) : p.Decides v x :=
  ⟨fun _ => ⟨a, hx⟩, fun hnot => absurd h hnot⟩

theorem of_error (h : ¬ p.Accepts v) (hx : x = .error (p.fault v)) : p.Decides v x :=
  ⟨fun hv => absurd hv h, fun _ => hx⟩

theorem accepts_of_ok {a : α} (h : p.Decides v x) (hx : x = .ok a) : p.Accepts v := by
  by_contra hnot
  rw [h.refuses hnot] at hx
  cases hx

end Decides

section Fields

variable {t c : String} {n : Nat} {es : List (Value × Value)}

theorem decides_verdictOf :
    Decides (.verdict t c) (Value.field es "default") (Chain.verdictOf t c es) := by
  unfold Chain.verdictOf
  split
  case h_1 hnull => exact .of_ok (.inl (.inl hnull)) rfl
  case h_2 hnull =>
    split
    case h_1 d hd =>
      obtain ⟨s, hs, hd⟩ := Option.bind_eq_some_iff.1 hd
      exact .of_ok (.inl (.inr ⟨s, hs, d, Verdict.lower_eq_of_ofName? hd⟩)) rfl
    case h_2 hnone =>
      refine .of_error (fun h => ?_) rfl
      obtain hv | ⟨s, hs, d, hd⟩ := (accepts_iff_documented rfl).1 h
      · exact hnull hv
      · rw [hs, Option.bind_some, Verdict.ofName?_of_lower_eq hd] at hnone
        cases hnone

theorem decides_defaultActionOf :
    Decides (.defaultAction t c) (Value.field es "default_rule_action")
      (Chain.defaultActionOf t c es) := by
  unfold Chain.defaultActionOf
  split
  case h_1 hnull => exact .of_ok (.inl (.inl hnull)) rfl
  case h_2 s hs =>
    by_cases hname : (Verdict.ofName? s).isSome = true
    · exact .of_ok (.inl (.inr ⟨s, hs, Verdict.isSome_ofName?_iff.1 hname⟩)) (if_pos hname)
    · rw [if_neg hname, hs]
      refine .of_error (fun h => ?_) rfl
      obtain hv | ⟨s', hs', hd⟩ := (accepts_iff_documented rfl).1 h
      · cases hv
      · cases hs'
        exact hname (Verdict.isSome_ofName?_iff.2 hd)
  case h_3 hnull hstr =>
    refine .of_error (fun h => ?_) rfl
    obtain hv | ⟨s, hs, -⟩ := (accepts_iff_documented rfl).1 h
    · exact hnull hv
    · exact hstr s hs

theorem decides_ruleValuesOf :
    Decides (.rules t c) (Value.field es "rules") (Chain.ruleValuesOf t c es) := by
  dsimp only [Chain.ruleValuesOf]
  by_cases hempty : (Value.field es "rules").isEmpty = true
  · exact .of_ok (.inr ⟨rfl, hempty⟩) (if_pos hempty)
  · rw [if_neg hempty]
    split
    case h_1 vs hvs => exact .of_ok (.inl (.inr ⟨vs, hvs⟩)) rfl
    case h_2 hlist =>
      refine .of_error (fun h => ?_) rfl
      obtain (hv | ⟨vs, hvs⟩) | ⟨-, hv⟩ := h
      · rw [hv] at hempty
        exact hempty rfl
      · exact hlist vs hvs
      · exact hempty hv

theorem decides_actionOf :
    Decides (.action t c n) (Value.field es "action")
      ((Rule.actionOf es).mapError (.rule t c n)) := by
  unfold Rule.actionOf
  split
  case h_1 hnull => exact .of_ok (.inl (.inl hnull)) rfl
  case h_2 s hs => exact .of_ok (.inl (.inr ⟨s, hs⟩)) rfl
  case h_3 hnull hstr =>
    refine .of_error (fun h => ?_) rfl
    obtain hv | ⟨s, hs⟩ := (accepts_iff_documented rfl).1 h
    · exact hnull hv
    · exact hstr s hs

theorem decides_optionsOf :
    Decides (.options t c n) (Value.field es "action_options")
      ((Rule.optionsOf es).mapError (.rule t c n)) := by
  dsimp only [Rule.optionsOf]
  by_cases hempty : (Value.field es "action_options").isEmpty = true
  · rw [if_pos hempty]
    exact .of_ok (.inr ⟨rfl, hempty⟩) rfl
  · rw [if_neg hempty]
    split
    case h_1 os hos => exact .of_ok (.inl (.inr ⟨os, hos⟩)) rfl
    case h_2 hmap =>
      refine .of_error (fun h => ?_) rfl
      obtain (hv | ⟨os, hos⟩) | ⟨-, hv⟩ := h
      · rw [hv] at hempty
        exact hempty rfl
      · exact hmap os hos
      · exact hempty hv

end Fields

/-! ## What is built -/

/-- What stands in the slot is built without a fault. -/
def Builds : Slot → Value → Prop
  | .document, v => ∃ p, (Policy.ofValue v).result = .ok p
  | .table t, v => ∃ x, (Table.ofValue t v).result = .ok x
  | .chain t c, v => ∃ x, (Chain.ofValue t c v).result = .ok x
  | .rules t c, v =>
    (rules t c).Accepts v ∧ ∀ vs, v = .list vs → ∀ u ∈ vs, ∃ r, Rule.ofValue u = .ok r
  | .rule _ _ _, v => ∃ r, Rule.ofValue v = .ok r
  | p, v => p.Accepts v

theorem Builds.accepts {p : Slot} {v : Value} (h : p.Builds v) : p.Accepts v := by
  cases p with
  | document =>
    obtain ⟨p, hp⟩ := h
    obtain ⟨rfl, -⟩ | ⟨es, rfl, -⟩ := Policy.result_ofValue_eq_ok_iff.1 hp
    · exact .inl (.inl rfl)
    · exact .inl (.inr ⟨es, rfl⟩)
  | table t =>
    obtain ⟨x, hx⟩ := h
    obtain ⟨-, ⟨rfl, -⟩ | ⟨es, rfl, -⟩⟩ := Table.result_ofValue_eq_ok_iff.1 hx
    · exact .inl (.inl rfl)
    · exact .inl (.inr ⟨es, rfl⟩)
  | chain t c =>
    obtain ⟨x, hx⟩ := h
    obtain ⟨rfl, -⟩ | ⟨es, -, rfl, -⟩ := Chain.result_ofValue_eq_ok_iff.1 hx
    · exact .inl (.inl rfl)
    · exact .inl (.inr ⟨es, rfl⟩)
  | rules t c => exact h.1
  | rule t c n =>
    obtain ⟨r, hr⟩ := h
    obtain ⟨es, -, -, rfl, -⟩ := Rule.ofValue_eq_ok_iff.1 hr
    exact .inl ⟨es, rfl⟩
  | _ => exact h

section Entries

variable {α : Type} {build : String → Value → Logged PolicyFault α}

theorem nameOf_andThen {k w : Value} (hk : k.hasText = true) :
    (nameOf k).andThen (build · w) = build k.text w := by
  have hname : k.text? = some k.text := Value.text?_eq_some_iff.2 ⟨hk, rfl⟩
  rw [nameOf, hname, Logged.ok_andThen]

theorem result_nameOf_andThen_eq_ok_iff {k w : Value} {a : α} :
    ((nameOf k).andThen (build · w)).result = .ok a ↔
      k.hasText = true ∧ (build k.text w).result = .ok a := by
  rw [Logged.result_andThen_eq_ok_iff]
  constructor
  · rintro ⟨name, hname, ha⟩
    obtain ⟨hk, rfl⟩ := Value.text?_eq_some_iff.1 (result_nameOf_eq_ok_iff.1 hname)
    exact ⟨hk, ha⟩
  · rintro ⟨hk, ha⟩
    exact ⟨k.text, result_nameOf_eq_ok_iff.2 (Value.text?_eq_some_iff.2 ⟨hk, rfl⟩), ha⟩

theorem exists_mapList_eq_ok_iff {es : List (Value × Value)} :
    (∃ as, (Logged.mapList (fun e => (nameOf e.1).andThen (build · e.2)) es).result = .ok as) ↔
      ∀ e ∈ es, e.1.hasText = true ∧ ∃ a, (build e.1.text e.2).result = .ok a := by
  simp only [Logged.result_mapList_eq_ok_iff, exists_forall₂_iff, result_nameOf_andThen_eq_ok_iff,
    exists_and_left]

theorem exists_andThen_eq_ok_iff {β : Type} {es : List (Value × Value)} {wrap : List α → β} :
    (∃ b, ((Logged.mapList (fun e => (nameOf e.1).andThen (build · e.2)) es).andThen
      fun as => .ok (wrap as)).result = .ok b) ↔
      ∀ e ∈ es, e.1.hasText = true ∧ ∃ a, (build e.1.text e.2).result = .ok a := by
  rw [← exists_mapList_eq_ok_iff]
  constructor
  · rintro ⟨b, hb⟩
    obtain ⟨as, has, -⟩ := Logged.result_andThen_eq_ok_iff.1 hb
    exact ⟨as, has⟩
  · rintro ⟨as, has⟩
    exact ⟨wrap as, Logged.result_andThen_eq_ok_iff.2 ⟨as, has, rfl⟩⟩

/-- What is put together from the parts of a mapping fails as the first that is not built. -/
theorem mapList_eq_error {before after : List (Value × Value)} {k w : Value} {f : PolicyFault}
    (hk : k.hasText = true)
    (hbefore : ∀ e ∈ before, e.1.hasText = true ∧ ∃ a, (build e.1.text e.2).result = .ok a)
    (hf : (build k.text w).result = .error f) :
    (Logged.mapList (fun e => (nameOf e.1).andThen (build · e.2))
      (before ++ (k, w) :: after)).result = .error f := by
  refine Logged.result_mapList_eq_error_iff.2 ⟨before, (k, w), after, rfl, fun e he => ?_, ?_⟩
  · obtain ⟨hkey, a, ha⟩ := hbefore e he
    exact ⟨a, result_nameOf_andThen_eq_ok_iff.2 ⟨hkey, ha⟩⟩
  · rw [nameOf_andThen hk, hf]

end Entries

theorem builds_document_map_iff {es : List (Value × Value)} :
    document.Builds (.map es) ↔ ∀ e ∈ es, e.1.hasText = true ∧ (table e.1.text).Builds e.2 :=
  exists_andThen_eq_ok_iff

theorem builds_table_map_iff {t : String} {es : List (Value × Value)} :
    (table t).Builds (.map es) ↔ ∀ e ∈ es, e.1.hasText = true ∧ (chain t e.1.text).Builds e.2 :=
  exists_andThen_eq_ok_iff

/-- A chain is built from a mapping whose fields are accepted and whose rules are built. -/
theorem builds_chain_map_iff {t c : String} {es : List (Value × Value)} :
    (chain t c).Builds (.map es) ↔
      (verdict t c).Accepts (Value.field es "default") ∧
      (defaultAction t c).Accepts (Value.field es "default_rule_action") ∧
      (rules t c).Builds (Value.field es "rules") := by
  constructor
  · rintro ⟨x, hx⟩
    rw [Chain.ofValue_map_eq] at hx
    obtain ⟨values, hbuilt⟩ := Chain.ofEntries_eq_ok_iff.1 hx
    refine ⟨decides_verdictOf.accepts_of_ok hbuilt.verdict,
      decides_defaultActionOf.accepts_of_ok hbuilt.defaultAction,
      decides_ruleValuesOf.accepts_of_ok hbuilt.values_eq, fun vs hvs => ?_⟩
    obtain rfl : values = vs :=
      Except.ok.inj (hbuilt.values_eq.symm.trans (Chain.ruleValuesOf_eq_ok_of_list hvs))
    exact exists_forall₂_iff.1 ⟨x.rules, hbuilt.rules⟩
  · rintro ⟨hverdict, haction, hrules, hbuilds⟩
    obtain ⟨d, hd⟩ := decides_verdictOf.accepts hverdict
    obtain ⟨a, ha⟩ := decides_defaultActionOf.accepts haction
    obtain ⟨vs, hvs⟩ := decides_ruleValuesOf.accepts hrules
    have hvalues : ∀ u ∈ vs, ∃ r, Rule.ofValue u = .ok r := by
      obtain rfl | hlist := Chain.eq_nil_or_field_of_ruleValuesOf hvs
      · simp
      · exact hbuilds vs hlist
    obtain ⟨rs, hrs⟩ := exists_forall₂_iff.2 hvalues
    refine ⟨⟨c, d, a, rs⟩, ?_⟩
    rw [Chain.ofValue_map_eq]
    exact Chain.ofEntries_eq_ok_iff.2 ⟨vs, rfl, hd, ha, hvs, hrs⟩

theorem accepts_of_builds_rule {t c : String} {n : Nat} {es : List (Value × Value)}
    (h : (rule t c n).Builds (.map es)) :
    (action t c n).Accepts (Value.field es "action") ∧
      (options t c n).Accepts (Value.field es "action_options") := by
  obtain ⟨r, hr⟩ := h
  obtain ⟨os, cs, hbuilt⟩ := Rule.ofValue_map_eq_ok_iff.1 hr
  exact ⟨decides_actionOf.accepts_of_ok (mapError_eq_ok_iff.2 hbuilt.action),
    decides_optionsOf.accepts_of_ok (mapError_eq_ok_iff.2 hbuilt.options_eq)⟩

/-! ## What stands in a slot -/

/-- The value stands in a slot of the value of a policy. An entry of a mapping stands under the text
of its key, and the rules of a chain are counted from one. If `built` is true, all that is read
before the value is built without a fault. -/
inductive Stands (built : Prop) (v : Value) : Slot → Value → Prop
  | document : Stands built v .document v
  | table {before after : List (Value × Value)} {k w : Value}
      (h : Stands built v .document (.map (before ++ (k, w) :: after)))
      (hbefore : built → k.hasText = true ∧
        ∀ e ∈ before, e.1.hasText = true ∧ (table e.1.text).Builds e.2) :
      Stands built v (.table k.text) w
  | chain {t : String} {before after : List (Value × Value)} {k w : Value}
      (h : Stands built v (.table t) (.map (before ++ (k, w) :: after)))
      (hbefore : built → k.hasText = true ∧
        ∀ e ∈ before, e.1.hasText = true ∧ (chain t e.1.text).Builds e.2) :
      Stands built v (.chain t k.text) w
  | verdict {t c : String} {es : List (Value × Value)}
      (h : Stands built v (.chain t c) (.map es)) :
      Stands built v (.verdict t c) (Value.field es "default")
  | defaultAction {t c : String} {es : List (Value × Value)}
      (h : Stands built v (.chain t c) (.map es))
      (hbefore : built → (verdict t c).Accepts (Value.field es "default")) :
      Stands built v (.defaultAction t c) (Value.field es "default_rule_action")
  | rules {t c : String} {es : List (Value × Value)} (h : Stands built v (.chain t c) (.map es))
      (hbefore : built → (verdict t c).Accepts (Value.field es "default") ∧
        (defaultAction t c).Accepts (Value.field es "default_rule_action")) :
      Stands built v (.rules t c) (Value.field es "rules")
  | rule {t c : String} {before after : List Value} {w : Value}
      (h : Stands built v (.rules t c) (.list (before ++ w :: after)))
      (hbefore : built → ∀ u ∈ before, ∃ r, Rule.ofValue u = .ok r) :
      Stands built v (.rule t c (before.length + 1)) w
  | action {t c : String} {n : Nat} {es : List (Value × Value)}
      (h : Stands built v (.rule t c n) (.map es)) :
      Stands built v (.action t c n) (Value.field es "action")
  | options {t c : String} {n : Nat} {es : List (Value × Value)}
      (h : Stands built v (.rule t c n) (.map es))
      (hbefore : built → (action t c n).Accepts (Value.field es "action")) :
      Stands built v (.options t c n) (Value.field es "action_options")

theorem Stands.builds {built : Prop} {v w : Value} {p : Slot} (h : Stands built v p w)
    (hv : Slot.document.Builds v) : p.Builds w := by
  induction h with
  | document => exact hv
  | table _ _ ih =>
    exact (builds_document_map_iff.1 ih _ (List.mem_append_right _ List.mem_cons_self)).2
  | chain _ _ ih =>
    exact (builds_table_map_iff.1 ih _ (List.mem_append_right _ List.mem_cons_self)).2
  | verdict _ ih => exact (builds_chain_map_iff.1 ih).1
  | defaultAction _ _ ih => exact (builds_chain_map_iff.1 ih).2.1
  | rules _ _ ih => exact (builds_chain_map_iff.1 ih).2.2
  | rule _ _ ih => exact ih.2 _ rfl _ (List.mem_append_right _ List.mem_cons_self)
  | action _ ih => exact (accepts_of_builds_rule ih).1
  | options _ _ ih => exact (accepts_of_builds_rule ih).2

/-! ## What fails -/

/-- What stands in the slot fails with the fault. -/
def Fails (f : PolicyFault) : Slot → Value → Prop
  | .document, v => (Policy.ofValue v).result = .error f
  | .table t, v => (Table.ofValue t v).result = .error f
  | .chain t c, v => (Chain.ofValue t c v).result = .error f
  | .rules t c, v => ¬ (rules t c).Accepts v ∧ f = (rules t c).fault v ∨
    ∃ vs, v = .list vs ∧ Chain.rulesFrom t c 1 vs = .error f
  | .rule t c n, v => (Rule.ofValue v).mapError (.rule t c n) = .error f
  | p, v => ¬ p.Accepts v ∧ f = p.fault v

theorem fails_fault {p : Slot} {v : Value} (h : ¬ p.Accepts v) : p.Fails (p.fault v) v := by
  cases p with
  | document | table t | chain t c =>
    cases v with
    | null => exact absurd (.inl (.inl rfl)) h
    | map es => exact absurd (.inl (.inr ⟨es, rfl⟩)) h
    | _ => rfl
  | rules t c => exact .inl ⟨h, rfl⟩
  | rule t c n =>
    cases v with
    | map es => exact absurd (.inl ⟨es, rfl⟩) h
    | _ => rfl
  | _ => exact ⟨h, rfl⟩

/-- The rules of a list fail as the first that is not built. -/
theorem rulesFrom_eq_error {t c : String} {n : Nat} {before after : List Value} {w : Value}
    {f : PolicyFault} (hbefore : ∀ u ∈ before, ∃ r, Rule.ofValue u = .ok r)
    (hf : (rule t c (n + before.length)).Fails f w) :
    Chain.rulesFrom t c n (before ++ w :: after) = .error f := by
  induction before generalizing n with
  | nil => exact bind_eq_error_of_error hf
  | cons u before ih =>
    obtain ⟨⟨r, hr⟩, hrest⟩ := List.forall_mem_cons.1 hbefore
    have htail : Chain.rulesFrom t c (n + 1) (before ++ w :: after) = .error f := by
      refine ih hrest ?_
      rwa [Nat.add_assoc, Nat.add_comm 1]
    exact bind_eq_error_of_ok (mapError_eq_ok_iff.2 hr) (bind_eq_error_of_error htail)

/-- A value that fails, with all before it built, makes the policy fail. -/
theorem Stands.fails {v w : Value} {p : Slot} {f : PolicyFault} (h : Stands True v p w)
    (hf : p.Fails f w) : (Policy.ofValue v).result = .error f := by
  -- from a slot outwards: what fails in it makes that fail which it stands in
  induction h with
  | document => exact hf
  | table _ hbefore ih =>
    obtain ⟨hk, hbefore⟩ := hbefore trivial
    exact ih (Logged.result_andThen_eq_error_iff.2 (.inl (mapList_eq_error hk hbefore hf)))
  | chain _ hbefore ih =>
    obtain ⟨hk, hbefore⟩ := hbefore trivial
    exact ih (Logged.result_andThen_eq_error_iff.2 (.inl (mapList_eq_error hk hbefore hf)))
  | verdict _ ih =>
    refine ih ?_
    rw [Fails, Chain.ofValue_map_eq, hf.2]
    exact bind_eq_error_of_error (decides_verdictOf.refuses hf.1)
  | defaultAction _ hbefore ih =>
    obtain ⟨d, hd⟩ := decides_verdictOf.accepts (hbefore trivial)
    refine ih ?_
    rw [Fails, Chain.ofValue_map_eq, hf.2]
    refine bind_eq_error_of_ok hd (bind_eq_error_of_error ?_)
    exact decides_defaultActionOf.refuses hf.1
  | rules _ hbefore ih =>
    obtain ⟨hverdict, haction⟩ := hbefore trivial
    obtain ⟨d, hd⟩ := decides_verdictOf.accepts hverdict
    obtain ⟨a, ha⟩ := decides_defaultActionOf.accepts haction
    refine ih ?_
    rw [Fails, Chain.ofValue_map_eq]
    refine bind_eq_error_of_ok hd (bind_eq_error_of_ok ha ?_)
    obtain ⟨hnot, rfl⟩ | ⟨vs, hvs, hrules⟩ := hf
    · exact bind_eq_error_of_error (decides_ruleValuesOf.refuses hnot)
    · exact bind_eq_error_of_ok (Chain.ruleValuesOf_eq_ok_of_list hvs)
        (bind_eq_error_of_error hrules)
  | rule _ hbefore ih =>
    refine ih (.inr ⟨_, rfl, rulesFrom_eq_error (hbefore trivial) ?_⟩)
    rwa [Nat.add_comm]
  | action _ ih =>
    obtain ⟨g, hg, hfault⟩ := mapError_eq_error_iff.1 (decides_actionOf.refuses hf.1)
    refine ih (mapError_eq_error_iff.2 ⟨g, bind_eq_error_of_error hg, ?_⟩)
    rw [hf.2, hfault]
  | options _ hbefore ih =>
    obtain ⟨a, ha⟩ := decides_actionOf.accepts (hbefore trivial)
    obtain ⟨g, hg, hfault⟩ := mapError_eq_error_iff.1 (decides_optionsOf.refuses hf.1)
    have hrule : Rule.ofValue (.map _) = .error g :=
      bind_eq_error_of_ok (mapError_eq_ok_iff.1 ha) (bind_eq_error_of_error hg)
    refine ih (mapError_eq_error_iff.2 ⟨g, hrule, ?_⟩)
    rw [hf.2, hfault]

end Slot

/-! ## What loading decides -/

namespace Policy

/-- What the values in the slots of a value decide about loading it. -/
structure JudgedBySlots (v : Value) : Prop where
  /-- Only accepted values are loaded. -/
  accepts : ∀ p : Policy, (ofValue v).result = .ok p → ∀ (s : Slot) (w : Value),
    Slot.Stands False v s w → s.Documented w ∨ s.isLenient = true ∧ w.isEmpty = true
  /-- Any other value fails. -/
  fails : ∀ (s : Slot) (w : Value), Slot.Stands False v s w → ¬ s.Accepts w →
    ∃ f, (ofValue v).result = .error f ∧ f.IsFaultOf v
  /-- The first one does so with the fault of its slot. -/
  fault : ∀ (s : Slot) (w : Value), Slot.Stands True v s w → ¬ s.Accepts w →
    (ofValue v).result = .error (s.fault w) ∧
      ((s.fault w).kind? = some s.kind ∨ (s.fault w).kind? = none ∧ w.hasText = false)
  /-- Every accepted value of a field is loaded. -/
  chain : ∀ (t c : String) (es : List (Value × Value)),
    (∃ x, (Chain.ofValue t c (.map es)).result = .ok x) ↔
      (Slot.verdict t c).Accepts (Value.field es "default") ∧
      (Slot.defaultAction t c).Accepts (Value.field es "default_rule_action") ∧
      (Slot.rules t c).Accepts (Value.field es "rules") ∧
      ∀ vs, Value.field es "rules" = .list vs → ∀ u ∈ vs, ∃ r, Rule.ofValue u = .ok r

/-- **Only the shapes that are documented for the slots are loaded, and besides them empty values
of any kind as rules and as options.** -/
theorem judgedBySlots (v : Value) : JudgedBySlots v where
  accepts p hp s w hw := (hw.builds ⟨p, hp⟩).accepts
  fails s w hw hnot := by
    cases hresult : (ofValue v).result with
    | error f => exact ⟨f, rfl, isFaultOf_of_result_ofValue hresult⟩
    | ok p => exact absurd (hw.builds ⟨p, hresult⟩).accepts hnot
  fault s w hw hnot := ⟨hw.fails (Slot.fails_fault hnot), s.kind?_fault w⟩
  chain t c es := Slot.builds_chain_map_iff

/-- The value of a policy with one chain, which has the given rules. -/
def oneChain (rules : Value) : Value :=
  .map [(.str "filter", .map [(.str "input", .map [(.str "rules", rules)])])]

theorem stands_oneChain (built : Prop) (rules : Value) :
    Slot.Stands built (oneChain rules) (.rules "filter" "input") rules := by
  have htable : Slot.Stands built (oneChain rules) (.table "filter")
      (.map [(.str "input", .map [(.str "rules", rules)])]) :=
    @Slot.Stands.table _ _ [] [] (.str "filter") _ .document fun _ => ⟨rfl, by simp⟩
  have hchain : Slot.Stands built (oneChain rules) (.chain "filter" "input")
      (.map [(.str "rules", rules)]) :=
    @Slot.Stands.chain _ _ _ [] [] (.str "input") _ htable fun _ => ⟨rfl, by simp⟩
  exact .rules hchain fun _ => ⟨.inl (.inl rfl), .inl (.inl rfl)⟩

/-- The entries of a rule with an action. -/
def entriesOfDrop : List (Value × Value) := [(.str "action", .str "drop")]

/-- The entries of a rule whose action is true. -/
def entriesOfTrue : List (Value × Value) := [(.str "action", .bool true)]

theorem judgedBySlots_trueAction :
    (ofValue (oneChain (.list [.map entriesOfDrop, .map entriesOfTrue]))).result =
      .error (.rule "filter" "input" 2 (.actionNotText (.bool true))) := by
  have hbefore : ∀ u ∈ [Value.map entriesOfDrop], ∃ r, Rule.ofValue u = .ok r :=
    List.forall_mem_singleton.2 ⟨⟨[], some "drop", []⟩, rfl⟩
  have hrule : Slot.Stands True (oneChain (.list [.map entriesOfDrop, .map entriesOfTrue]))
      (.rule "filter" "input" 2) (.map entriesOfTrue) :=
    @Slot.Stands.rule _ _ _ _ [.map entriesOfDrop] [] _ (stands_oneChain True _) fun _ => hbefore
  have hnot : ¬ (Slot.action "filter" "input" 2).Accepts (.bool true) := by
    simp [Slot.Accepts, Slot.Documented, Slot.isLenient]
  exact ((judgedBySlots _).fault _ _ (.action hrule) hnot).1

/-- False is loaded as the rules of a chain, and is neither null nor a list. -/
theorem not_documented_falseRules :
    (ofValue (oneChain (.bool false))).result = .ok ⟨[⟨"filter", [.bare "input"]⟩]⟩ ∧
    Slot.Stands False (oneChain (.bool false)) (.rules "filter" "input") (.bool false) ∧
    ¬ (Slot.rules "filter" "input").Documented (.bool false) :=
  ⟨rfl, stands_oneChain False (.bool false), by simp [Slot.Documented]⟩

end Policy

end Firewall
