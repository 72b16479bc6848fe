import Firewall.Proofs.Policy.Load

/-!
# Faults of building

`Policy.isFaultOf_of_result_ofValue`: building a policy from a value fails with a malformed policy
or a malformed rule. The one other fault is that a name or a message would need the text of a value
that has none; then the whole value has none.

1. A value without a text leaves every value around it without one (`Value.hasText_map_iff`).
2. Each level fails by itself or as one of its parts does, and a fault of a part is one of the whole
   (`PolicyFault.IsFaultOf.of_part`).
-/

namespace Firewall

/-! ## Texts of parts -/

namespace Value

theorem haveTexts_iff {vs : List Value} : haveTexts vs = true ↔ ∀ v ∈ vs, v.hasText = true := by
  induction vs with
  | nil => simp [haveTexts]
  | cons v vs ih => simp [haveTexts, ih]

theorem hasText_list_iff {vs : List Value} :
    (Value.list vs).hasText = true ↔ ∀ v ∈ vs, v.hasText = true := by
  rw [hasText, haveTexts_iff]

theorem hasText_map_iff {es : List (Value × Value)} :
    (Value.map es).hasText = true ↔ ∀ e ∈ es, e.1.hasText = true ∧ e.2.hasText = true := by
  rw [hasText]
  induction es with
  | nil => simp [entriesHaveTexts]
  | cons e es ih => simp [entriesHaveTexts, ih, and_assoc]

theorem hasText_field {es : List (Value × Value)} (h : (Value.map es).hasText = true)
    (name : String) : (field es name).hasText = true :=
  @field_induction es (·.hasText = true) rfl (fun e he => (hasText_map_iff.1 h e he).2) name

theorem hasText_eq_false_of_text? {v : Value} (h : v.text? = none) : v.hasText = false := by
  simpa [text?] using h

end Value

/-! ## Rules -/

namespace RuleFault

/-- A fault is that of a missing text only if the value has none. -/
def IsFaultOf (v : Value) (f : RuleFault) : Prop := v.hasText = true → f ≠ .noText

/-- A fault that shows values is that of a missing text only if one of them has none. -/
theorem showing_ne_noText {shown : List Value} {f : RuleFault} (hf : f ≠ .noText)
    (h : ∀ v ∈ shown, v.hasText = true) : showing shown f ≠ .noText := by
  rw [showing, List.all_eq_true.2 h]
  exact hf

theorem ofOption?_ne_noText {key value : Value} {f : RuleFault}
    (h : ofOption? key value = some f) (hkey : key.hasText = true)
    (hvalue : value.hasText = true) : f ≠ .noText := by
  unfold ofOption? at h
  split at h
  · cases h
    exact showing_ne_noText (by simp) (by simp [hkey, hvalue])
  · split at h
    · cases h
      exact showing_ne_noText (by simp) (by simp [hkey])
    · cases h

theorem ofCondition?_ne_noText {c : Flag} {f : RuleFault} (h : ofCondition? c = some f)
    (hvalue : c.value.hasText = true) : f ≠ .noText := by
  unfold ofCondition? at h
  split at h
  · cases h
    exact showing_ne_noText (by simp) (by simp [hvalue])
  · split at h
    · cases h
      simp
    · cases h

end RuleFault

theorem Flag.hasText_of_ofEntry_eq_error {e : Value × Value} {f : RuleFault}
    (h : Flag.ofEntry e = .error f) : e.1.hasText = false := by
  unfold Flag.ofEntry at h
  split at h
  · cases h
  case h_2 hnone => exact Value.hasText_eq_false_of_text? hnone

namespace Rule

theorem actionOf_ne_noText {es : List (Value × Value)} {f : RuleFault}
    (h : actionOf es = .error f) (hes : (Value.map es).hasText = true) : f ≠ .noText := by
  unfold actionOf at h
  split at h
  · cases h
  · cases h
  · cases h
    exact RuleFault.showing_ne_noText (by simp) (by simp [Value.hasText_field hes])

theorem optionsOf_ne_noText {es : List (Value × Value)} {f : RuleFault}
    (h : optionsOf es = .error f) : f ≠ .noText := by
  dsimp only [optionsOf] at h
  split at h
  · cases h
  · split at h
    · cases h
    · cases h
      simp

theorem hasText_of_optionsOf_eq_ok {es options : List (Value × Value)}
    (h : optionsOf es = .ok options) (hes : (Value.map es).hasText = true) :
    (Value.map options).hasText = true := by
  obtain rfl | hfield := eq_nil_or_field_of_optionsOf h
  · rfl
  · rw [← hfield]
    exact Value.hasText_field hes "action_options"

/-- A rule is refused for want of a text only if its value has none. -/
theorem isFaultOf_of_ofValue {v : Value} {f : RuleFault} (h : ofValue v = .error f) :
    f.IsFaultOf v := by
  intro hv
  cases v with
  | map es =>
    have hentries := Value.hasText_map_iff.1 hv
    have hconditions : ∀ e ∈ conditionEntries es, e.1.hasText = true ∧ e.2.hasText = true :=
      fun e he => hentries e (List.mem_of_mem_filter he)
    -- each step of the building may fail
    rw [ofValue, bind_eq_error_iff] at h
    obtain h | ⟨action, -, h⟩ := h
    · exact actionOf_ne_noText h hv
    rw [bind_eq_error_iff] at h
    obtain h | ⟨options, hoptions, h⟩ := h
    · exact optionsOf_ne_noText h
    have hoptions := Value.hasText_map_iff.1 (hasText_of_optionsOf_eq_ok hoptions hv)
    rw [bind_eq_error_iff] at h
    obtain h | ⟨-, -, h⟩ := h
    · obtain ⟨e, he, hf⟩ := List.mem_filterMap.1 (mem_of_refuse_eq_error h)
      exact RuleFault.ofOption?_ne_noText hf (hoptions e he).1 (hoptions e he).2
    rw [bind_eq_error_iff] at h
    obtain h | ⟨conditions, hflags, h⟩ := h
    · obtain ⟨e, he, hf⟩ := exists_of_mapM_eq_error h
      exact absurd (hconditions e he).1 (by simp [Flag.hasText_of_ofEntry_eq_error hf])
    rw [bind_eq_error_iff] at h
    obtain h | ⟨-, -, h⟩ := h
    · obtain ⟨c, hc, hf⟩ := List.mem_filterMap.1 (mem_of_refuse_eq_error h)
      obtain ⟨e, he, hentry⟩ := exists_of_forall₂ (mapM_eq_ok_iff.1 hflags) hc
      refine RuleFault.ofCondition?_ne_noText hf ?_
      rw [← (Flag.ofEntry_eq_ok_iff.1 hentry).2]
      exact (hconditions e he).2
    rw [bind_eq_error_iff] at h
    obtain h | ⟨flags, -, h⟩ := h
    · obtain ⟨e, he, hf⟩ := exists_of_mapM_eq_error h
      exact absurd (hoptions e he).1 (by simp [Flag.hasText_of_ofEntry_eq_error hf])
    · cases h
  | _ =>
    rw [← Except.error.inj h]
    exact RuleFault.showing_ne_noText (by simp) (List.forall_mem_singleton.2 hv)

end Rule

/-! ## Policies -/

namespace PolicyFault

/-- The fault is a malformed policy or a malformed rule. -/
def IsMalformed (f : PolicyFault) : Prop :=
  f.kind? = some .malformedPolicy ∨ f.kind? = some .malformedRule

/-- The fault is malformed, or it is of no kind and the value has no text. -/
def IsFaultOf (v : Value) (f : PolicyFault) : Prop :=
  f.IsMalformed ∨ f.kind? = none ∧ v.hasText = false

variable {v w : Value} {f : PolicyFault}

/-- A fault of a part of a value is a fault of the value. -/
theorem IsFaultOf.of_part (h : f.IsFaultOf w) (hpart : v.hasText = true → w.hasText = true) :
    f.IsFaultOf v := by
  refine h.imp_right fun ⟨hkind, hw⟩ => ⟨hkind, ?_⟩
  rw [← Bool.not_eq_true] at hw ⊢
  exact fun hv => hw (hpart hv)

theorem isFaultOf_noText (h : v.hasText = false) : PolicyFault.noText.IsFaultOf v := .inr ⟨rfl, h⟩

theorem isFaultOf_showing (hf : f.IsMalformed) : (showing v f).IsFaultOf v := by
  unfold showing
  split
  · exact .inl hf
  case isFalse h => exact isFaultOf_noText (Bool.not_eq_true _ ▸ h)

theorem isFaultOf_rule {f : RuleFault} (h : f.IsFaultOf v) (table chain : String) (position : Nat) :
    (PolicyFault.rule table chain position f).IsFaultOf v := by
  cases hv : v.hasText with
  | true =>
    have hne := h hv
    cases f with
    | noText => exact absurd rfl hne
    | _ => exact .inl (.inr rfl)
  | false =>
    cases f with
    | noText => exact .inr ⟨rfl, hv⟩
    | _ => exact .inl (.inr rfl)

end PolicyFault

theorem isFaultOf_of_nameOf {key : Value} {f : PolicyFault} (h : (nameOf key).result = .error f) :
    f.IsFaultOf key := by
  unfold nameOf at h
  split at h
  · cases h
  case h_2 hnone =>
    cases h
    exact PolicyFault.isFaultOf_noText (Value.hasText_eq_false_of_text? hnone)

namespace Chain

variable {table name : String} {es : List (Value × Value)} {f : PolicyFault}

theorem isFaultOf_of_verdictOf (h : verdictOf table name es = .error f) :
    f.IsFaultOf (.map es) := by
  unfold verdictOf at h
  split at h
  · cases h
  · split at h
    · cases h
    · cases h
      exact (PolicyFault.isFaultOf_showing (.inl rfl)).of_part fun hes =>
        Value.hasText_field hes "default"

theorem isFaultOf_of_defaultActionOf (h : defaultActionOf table name es = .error f) :
    f.IsFaultOf (.map es) := by
  unfold defaultActionOf at h
  split at h
  · cases h
  · split at h
    · cases h
    · cases h
      exact .inl (.inl rfl)
  · cases h
    exact (PolicyFault.isFaultOf_showing (.inl rfl)).of_part fun hes =>
      Value.hasText_field hes "default_rule_action"

theorem isMalformed_of_ruleValuesOf (h : ruleValuesOf table name es = .error f) :
    f.IsMalformed := by
  dsimp only [ruleValuesOf] at h
  split at h
  · cases h
  · split at h
    · cases h
    · cases h
      exact .inl rfl

/-- The values of the rules of a mapping with a text have texts. -/
theorem hasText_of_ruleValuesOf_eq_ok {vs : List Value} (h : ruleValuesOf table name es = .ok vs)
    (hes : (Value.map es).hasText = true) : (Value.list vs).hasText = true := by
  obtain rfl | hfield := eq_nil_or_field_of_ruleValuesOf h
  · rfl
  · rw [← hfield]
    exact Value.hasText_field hes "rules"

/-- The rules fail as one of them does. -/
theorem isFaultOf_of_rulesFrom {position : Nat} {vs : List Value}
    (h : rulesFrom table name position vs = .error f) : f.IsFaultOf (.list vs) := by
  induction vs generalizing position with
  | nil => cases h
  | cons v vs ih =>
    rw [rulesFrom, bind_eq_error_iff] at h
    obtain h | ⟨rule, -, h⟩ := h
    · obtain ⟨g, hg, rfl⟩ := mapError_eq_error_iff.1 h
      refine (PolicyFault.isFaultOf_rule (Rule.isFaultOf_of_ofValue hg) _ _ _).of_part fun hvs => ?_
      exact Value.hasText_list_iff.1 hvs v List.mem_cons_self
    · rw [bind_eq_error_iff] at h
      obtain h | ⟨rules, -, h⟩ := h
      · refine (ih h).of_part fun hvs => Value.hasText_list_iff.2 fun w hw => ?_
        exact Value.hasText_list_iff.1 hvs w (List.mem_cons_of_mem v hw)
      · cases h

theorem isFaultOf_of_ofEntries (h : ofEntries table name es = .error f) :
    f.IsFaultOf (.map es) := by
  rw [ofEntries, bind_eq_error_iff] at h
  obtain h | ⟨verdict, -, h⟩ := h
  · exact isFaultOf_of_verdictOf h
  rw [bind_eq_error_iff] at h
  obtain h | ⟨action, -, h⟩ := h
  · exact isFaultOf_of_defaultActionOf h
  rw [bind_eq_error_iff] at h
  obtain h | ⟨vs, hvs, h⟩ := h
  · exact .inl (isMalformed_of_ruleValuesOf h)
  rw [bind_eq_error_iff] at h
  obtain h | ⟨rules, -, h⟩ := h
  · exact (isFaultOf_of_rulesFrom h).of_part (hasText_of_ruleValuesOf_eq_ok hvs)
  · cases h

theorem isFaultOf_of_result_ofValue {v : Value} (h : (ofValue table name v).result = .error f) :
    f.IsFaultOf v := by
  cases v with
  | null => cases h
  | map es =>
    rw [ofValue_map_eq] at h
    exact isFaultOf_of_ofEntries h
  | _ =>
    cases h
    exact .inl (.inl rfl)

end Chain

/-- A mapping that is built part by part fails as the name or the value of a part does. -/
theorem isFaultOf_of_mapList {α : Type} {build : String → Value → Logged PolicyFault α}
    {es : List (Value × Value)} {f : PolicyFault}
    (hbuild : ∀ name v, (build name v).result = .error f → f.IsFaultOf v)
    (h : (Logged.mapList (fun e => (nameOf e.1).andThen (build · e.2)) es).result = .error f) :
    f.IsFaultOf (.map es) := by
  obtain ⟨e, he, h⟩ := Logged.exists_of_result_mapList_eq_error h
  rw [Logged.result_andThen_eq_error_iff] at h
  obtain h | ⟨name, -, h⟩ := h
  · exact (isFaultOf_of_nameOf h).of_part fun hes => (Value.hasText_map_iff.1 hes e he).1
  · exact (hbuild name e.2 h).of_part fun hes => (Value.hasText_map_iff.1 hes e he).2

theorem Table.isFaultOf_of_result_ofValue {name : String} {v : Value} {f : PolicyFault}
    (h : (Table.ofValue name v).result = .error f) : f.IsFaultOf v := by
  cases v with
  | null => cases h
  | map es =>
    rw [Table.ofValue, Logged.result_andThen_eq_error_iff] at h
    obtain h | ⟨chains, -, h⟩ := h
    · exact isFaultOf_of_mapList (fun _ _ => Chain.isFaultOf_of_result_ofValue) h
    · cases h
  | _ =>
    cases h
    exact .inl (.inl rfl)

/-- Building a policy fails with a malformed policy or a malformed rule, or the value has no
text. -/
theorem Policy.isFaultOf_of_result_ofValue {v : Value} {f : PolicyFault}
    (h : (Policy.ofValue v).result = .error f) : f.IsFaultOf v := by
  cases v with
  | null => cases h
  | map es =>
    rw [Policy.ofValue, Logged.result_andThen_eq_error_iff] at h
    obtain h | ⟨tables, -, h⟩ := h
    · exact isFaultOf_of_mapList (fun _ _ => Table.isFaultOf_of_result_ofValue) h
    · cases h
  | _ =>
    cases h
    exact .inl (.inl rfl)

end Firewall
