import Firewall.Proofs.Policy.Read
import Firewall.Proofs.Policy.Writing
import Firewall.Proofs.Ruleset.Checks
import Firewall.Proofs.Ruleset.Pieces
import Firewall.Proofs.Yaml.Shape

/-!
# Shapes of loaded rules

The values of a rule are meant to be scalars other than false, and in a condition also tuples of
such. `Policy.wellShaped_iff`: a rule that is loaded has these shapes exactly if no value of it is
or lists a set or a tuple, and then its line shows no false. The checks of a rule look at lists and
mappings alone, but a list of pairs lists tuples, and a set is a value of its own; false may stand
in either, and is then written into the line (`not_wellShaped_pairs`). Both come from nodes of these
types only, so that without them every rule is as it is meant to be.

1. A line shows the leaves of the values of its rule, those in lists and tuples at any depth
   (`Ruleset.Directive.tokens_ofRule`).
2. The value of a rule stands in that of the text, and so is put together in the same ways
   (`Yaml.MadeOf`); the checks leave the shapes `Passes` and `PassesCondition` of it.
-/

namespace Firewall

/-! ## False in values -/

namespace Value

mutual

/-- Whether false stands in a value, at any depth. -/
def holdsFalse : Value → Bool
  | .bool b => !b
  | .list items | .tuple items | .set items => anyHoldsFalse items
  | .map entries => anyEntryHoldsFalse entries
  | _ => false

/-- Whether false stands in an item of a collection. -/
def anyHoldsFalse : List Value → Bool
  | [] => false
  | v :: rest => holdsFalse v || anyHoldsFalse rest

def anyEntryHoldsFalse : List (Value × Value) → Bool
  | [] => false
  | (k, v) :: rest => holdsFalse k || holdsFalse v || anyEntryHoldsFalse rest

end

theorem holdsFalse_iff (v : Value) :
    v.holdsFalse = true ↔ ∃ w ∈ v.leaves, w.holdsFalse = true := by
  refine leaves.induct (fun v => v.holdsFalse = true ↔ ∃ w ∈ v.leaves, w.holdsFalse = true)
    (fun vs => anyHoldsFalse vs = true ↔ ∃ w ∈ leavesOf vs, w.holdsFalse = true)
    ?list ?tuple ?leaf ?nil ?cons v
  case list =>
    intro items ih
    rwa [holdsFalse, leaves]
  case tuple =>
    intro items ih
    rwa [holdsFalse, leaves]
  case leaf =>
    intro v hlist htuple
    rw [leaves.eq_3 v hlist htuple]
    simp
  case nil => simp [anyHoldsFalse, leavesOf]
  case cons =>
    intro v rest hv hrest
    rw [anyHoldsFalse, Bool.or_eq_true, hv, hrest, leavesOf]
    simp only [List.mem_append, or_and_right, exists_or]

theorem anyHoldsFalse_eq_false {vs : List Value} (h : ∀ v ∈ vs, v.holdsFalse = false) :
    anyHoldsFalse vs = false := by
  induction vs with
  | nil => rfl
  | cons v vs ih =>
    obtain ⟨hv, hvs⟩ := List.forall_mem_cons.1 h
    rw [anyHoldsFalse, hv, ih hvs]
    rfl

theorem holdsFalse_of_isStatable {v : Value} (h : v.isStatable = true) : v.holdsFalse = false := by
  cases v with
  | bool b =>
    cases b with
    | false => cases h
    | true => rfl
  | list _ | tuple _ | set _ | map _ => cases h
  | _ => rfl

theorem holdsFalse_of_isStatableCondition {v : Value} (h : v.isStatableCondition = true) :
    v.holdsFalse = false := by
  cases v with
  | tuple items =>
    have hitems : ∀ w ∈ items, w.isStatable = true := List.all_eq_true.1 h
    exact anyHoldsFalse_eq_false fun w hw => holdsFalse_of_isStatable (hitems w hw)
  | _ => exact holdsFalse_of_isStatable h

/-! ## Sets and tuples -/

def isSetOrTuple : Value → Bool
  | .set _ | .tuple _ => true
  | _ => false

/-- Whether a value is a set, or a tuple that lists a set or a tuple. -/
def listsSetOrTuple : Value → Bool
  | .tuple items => items.any isSetOrTuple
  | v => v.isSetOrTuple

theorem isSetOrTuple_of_isStatable {v : Value} (h : v.isStatable = true) :
    v.isSetOrTuple = false := by
  cases v with
  | set _ | tuple _ => cases h
  | _ => rfl

end Value

/-! ## What a line shows -/

namespace Ruleset

/-- The values that flags list, each with its flag. -/
def shownValues (flag : String → String) (fs : List Flag) : List (String × Value) :=
  fs.flatMap fun f => f.value.leaves.map (flag f.key, ·)

/-- The words of a flag with a value that is no list and no tuple. -/
def valueTokens (e : String × Value) : List String := (Group.ofLeaf e.1 e.2).tokens

theorem flatMap_valueTokens_shownValues (flag : String → String) (fs : List Flag) :
    (shownValues flag fs).flatMap valueTokens =
      fs.flatMap fun f => (Group.ofValue (flag f.key) f.value).flatMap Group.tokens := by
  rw [shownValues, List.flatMap_assoc]
  refine List.flatMap_congr fun f _ => ?_
  rw [List.flatMap_map, Group.ofValue_eq_map_leaves, List.flatMap_map]
  rfl

/-- The line of a rule shows the values that its conditions and its options list. -/
theorem Directive.tokens_ofRule (c : Chain) (r : Rule) (declared : List String) :
    (ofRule c r declared).tokens =
      "-A" :: chainName c.name :: ((shownValues conditionFlag r.conditions).flatMap valueTokens ++
        "-j" :: targetWord declared (r.effectiveAction c) ::
          (shownValues optionFlag r.options).flatMap valueTokens) := by
  rw [flatMap_valueTokens_shownValues, flatMap_valueTokens_shownValues]
  rfl

theorem exists_leaf_of_mem_shownValues {flag : String → String} {fs : List Flag}
    {e : String × Value} (h : e ∈ shownValues flag fs) : ∃ f ∈ fs, e.2 ∈ f.value.leaves := by
  obtain ⟨f, hf, he⟩ := List.mem_flatMap.1 h
  obtain ⟨v, hv, rfl⟩ := List.mem_map.1 he
  exact ⟨f, hf, hv⟩

end Ruleset

/-! ## Shapes of values read -/

namespace Yaml

/-- The document of the text has a node of the type. -/
def UsedIn (text : String) (tag : Tag) : Prop :=
  ∃ d, Document.ofText text = .ok (some d) ∧ d.nodes.Uses tag

theorem madeOf_of_read {text : String} {v : Value} (h : read text = .ok v) :
    MadeOf (UsedIn text) v := by
  obtain ⟨-, rfl⟩ | ⟨d, hd, hvalue⟩ := of_read_eq_ok h
  · exact .scalar rfl
  · exact (Document.madeOf_of_value hvalue).mono fun tag htag => ⟨d, hd, htag⟩

end Yaml

open Yaml

variable {used : Tag → Prop}

/-- The value is put together as `MadeOf` says, or is one of the pairs of a list of such. -/
def IsPart (used : Tag → Prop) (v : Value) : Prop :=
  MadeOf used v ∨ ∃ a b, v = .tuple [a, b]

theorem madeOf_of_isPart_map {es : List (Value × Value)} (h : IsPart used (.map es)) :
    ∀ e ∈ es, MadeOf used e.2 := by
  obtain h | ⟨a, b, h⟩ := h
  · cases h with
    | scalar hscalar => cases hscalar
    | map _ hvalue => exact hvalue
  · cases h

theorem isPart_of_isPart_list {vs : List Value} (h : IsPart used (.list vs)) :
    ∀ v ∈ vs, IsPart used v := by
  obtain h | ⟨a, b, h⟩ := h
  · cases h with
    | scalar hscalar => cases hscalar
    | list hitems => exact fun v hv => .inl (hitems v hv)
    | pairs htag hkey hvalue =>
      refine List.forall_mem_map.2 fun e _ => ?_
      exact .inr ⟨e.1, e.2, rfl⟩
  · cases h

/-! ## Shapes that the checks let through -/

/-- The checks let a single value through if it is a scalar other than false, or a set. -/
inductive Passes (used : Tag → Prop) : Value → Prop
  | statable {v : Value} (h : v.isStatable = true) : Passes used v
  | set {items : List Value} (htag : used .set) : Passes used (.set items)

/-- In a list they also let the pairs of a list of pairs through. -/
inductive PassesListed (used : Tag → Prop) : Value → Prop
  | single {v : Value} (h : Passes used v) : PassesListed used v
  | pair {a b : Value} (htag : used .omap ∨ used .pairs) : PassesListed used (.tuple [a, b])

/-- A condition has a single value or keeps several as a tuple. -/
inductive PassesCondition (used : Tag → Prop) : Value → Prop
  | single {v : Value} (h : Passes used v) : PassesCondition used v
  | listed {items : List Value} (h : ∀ v ∈ items, PassesListed used v) :
      PassesCondition used (.tuple items)

/-- A value that is neither refused as a list or a mapping nor as false passes. -/
theorem Passes.of_madeOf {v : Value} (h : MadeOf used v) (hshape : v.isListOrMap = false)
    (hfalse : v.isFalse = false) : Passes used v := by
  cases h with
  | scalar hscalar =>
    refine .statable ?_
    rw [Value.isStatable, hscalar, hfalse]
    rfl
  | list | map | pairs => cases hshape
  | set htag => exact .set htag

theorem Passes.of_ofOption? {key v : Value} (h : MadeOf used v)
    (hsound : RuleFault.ofOption? key v = none) : Passes used v := by
  unfold RuleFault.ofOption? at hsound
  split at hsound
  · cases hsound
  case isFalse hshape =>
    split at hsound
    · cases hsound
    case isFalse hfalse => exact .of_madeOf h (by simpa using hshape) (by simpa using hfalse)

/-- A condition without a fault lists no lists, no mappings and no false. -/
theorem RuleFault.forall_listed_of_ofCondition? {f : Flag} (h : ofCondition? f = none) :
    ∀ v ∈ listed f.value, v.isListOrMap = false ∧ v.isFalse = false := by
  unfold ofCondition? at h
  split at h
  · cases h
  case isFalse hshape =>
    split at h
    · cases h
    case isFalse hfalse =>
      rw [List.any_eq_true, not_exists] at hshape hfalse
      intro v hv
      exact ⟨by simpa [hv] using hshape v, by simpa [hv] using hfalse v⟩

theorem PassesCondition.of_ofCondition? {f : Flag} (h : MadeOf used f.value)
    (hsound : RuleFault.ofCondition? f = none) : PassesCondition used f.settled.value := by
  have hlisted := RuleFault.forall_listed_of_ofCondition? hsound
  rcases f with ⟨key, v⟩
  cases h with
  | @scalar v hscalar =>
    -- a scalar is no list: it is kept as it is, and the checks look at itself
    have hsettled : Flag.settled ⟨key, v⟩ = ⟨key, v⟩ := by cases v <;> first | rfl | cases hscalar
    have hself : RuleFault.listed v = [v] := by cases v <;> first | rfl | cases hscalar
    obtain ⟨hshape, hfalse⟩ := hlisted v (by rw [hself]; exact List.mem_singleton_self v)
    rw [hsettled]
    exact .single (.of_madeOf (.scalar hscalar) hshape hfalse)
  | list hitems =>
    refine .listed fun v hv => ?_
    exact .single (.of_madeOf (hitems v hv) (hlisted v hv).1 (hlisted v hv).2)
  | map => exact absurd (hlisted _ (List.mem_singleton_self _)).1 Bool.noConfusion
  | set htag => exact .single (.set htag)
  | pairs htag =>
    -- the checks do not look into a pair, so that nothing is known of what stands in it
    refine .listed (List.forall_mem_map.2 fun e _ => ?_)
    exact .pair htag

/-- The shapes of the values of a rule that is loaded. -/
structure Rule.Passed (used : Tag → Prop) (r : Rule) : Prop where
  conditions : ∀ f ∈ r.conditions, PassesCondition used f.value
  options : ∀ f ∈ r.options, Passes used f.value

theorem Rule.madeOf_of_optionsOf {entries options : List (Value × Value)}
    (h : optionsOf entries = .ok options) (hentries : ∀ e ∈ entries, MadeOf used e.2) :
    ∀ e ∈ options, MadeOf used e.2 := by
  have hmade : MadeOf used (Value.field entries "action_options") :=
    Value.field_induction (.scalar rfl) hentries "action_options"
  obtain rfl | hfield := Rule.eq_nil_or_field_of_optionsOf h
  · exact List.forall_mem_nil _
  · rw [hfield] at hmade
    exact madeOf_of_isPart_map (.inl hmade)

theorem Rule.passed_of_ofValue {v : Value} {r : Rule} (hv : IsPart used v)
    (h : Rule.ofValue v = .ok r) : r.Passed used := by
  obtain ⟨entries, options, conditions, rfl, hbuilt⟩ := Rule.ofValue_eq_ok_iff.1 h
  have hentries := madeOf_of_isPart_map hv
  constructor
  · rw [hbuilt.conditions_eq, List.forall_mem_map]
    intro f hf
    obtain ⟨e, he, hflag⟩ := exists_of_forall₂ hbuilt.conditions_flags hf
    have hmade : MadeOf used f.value :=
      (Flag.ofEntry_eq_ok_iff.1 hflag).2 ▸ hentries e (List.mem_of_mem_filter he)
    exact .of_ofCondition? hmade (hbuilt.conditions_sound f hf)
  · intro f hf
    obtain ⟨e, he, hflag⟩ := exists_of_forall₂ hbuilt.options_flags hf
    rw [← (Flag.ofEntry_eq_ok_iff.1 hflag).2]
    exact .of_ofOption? (Rule.madeOf_of_optionsOf hbuilt.options_eq hentries e he)
      (hbuilt.options_sound e he)

/-! ## Shapes that are meant -/

/-- The values of a rule as they are meant to be: scalars other than false, and in conditions also
tuples of such. -/
structure Rule.WellShaped (r : Rule) : Prop where
  conditions : ∀ f ∈ r.conditions, f.value.isStatableCondition = true
  options : ∀ f ∈ r.options, f.value.isStatable = true

section Shapes

variable {v : Value}

theorem Passes.isStatable_iff (h : Passes used v) :
    v.isStatable = true ↔ v.isSetOrTuple = false := by
  cases h with
  | statable h => simp [h, Value.isSetOrTuple_of_isStatable h]
  | set => exact ⟨Bool.noConfusion, Bool.noConfusion⟩

theorem PassesListed.isStatable_iff (h : PassesListed used v) :
    v.isStatable = true ↔ v.isSetOrTuple = false := by
  cases h with
  | single h => exact h.isStatable_iff
  | pair => exact ⟨Bool.noConfusion, Bool.noConfusion⟩

theorem Passes.isStatableCondition_eq (h : Passes used v) :
    v.isStatableCondition = v.isStatable := by
  cases h with
  | statable h => cases v <;> first | rfl | cases h
  | set => rfl

theorem Passes.listsSetOrTuple_eq (h : Passes used v) : v.listsSetOrTuple = v.isSetOrTuple := by
  cases h with
  | statable h => cases v <;> first | rfl | cases h
  | set => rfl

theorem PassesCondition.isStatableCondition_iff (h : PassesCondition used v) :
    v.isStatableCondition = true ↔ v.listsSetOrTuple = false := by
  cases h with
  | single h => rw [h.isStatableCondition_eq, h.listsSetOrTuple_eq, h.isStatable_iff]
  | @listed items h =>
    rw [Value.isStatableCondition, Value.listsSetOrTuple, List.all_eq_true, List.any_eq_false]
    refine forall₂_congr fun w hw => ?_
    rw [(h w hw).isStatable_iff, Bool.not_eq_true]

/-- Without sets, only scalars pass. -/
theorem Passes.isStatable_of_unused (h : Passes used v) (hset : ¬ used .set) :
    v.isStatable = true := by
  cases h with
  | statable h => exact h
  | set htag => exact absurd htag hset

theorem PassesCondition.isStatableCondition_of_unused (h : PassesCondition used v)
    (hset : ¬ used .set) (hpairs : ¬ (used .omap ∨ used .pairs)) :
    v.isStatableCondition = true := by
  cases h with
  | single h => rw [h.isStatableCondition_eq, h.isStatable_of_unused hset]
  | listed h =>
    refine List.all_eq_true.2 fun w hw => ?_
    cases h w hw with
    | single h => exact h.isStatable_of_unused hset
    | pair htag => exact absurd htag hpairs

end Shapes

namespace Rule.Passed

variable {r : Rule}

/-- A rule is as it is meant to be unless a value of it is or lists a set or a tuple. -/
theorem wellShaped_iff_listsSetOrTuple (h : r.Passed used) :
    r.WellShaped ↔ ∀ f ∈ r.conditions ++ r.options, f.value.listsSetOrTuple = false := by
  have hconditions : (∀ f ∈ r.conditions, f.value.isStatableCondition = true) ↔
      ∀ f ∈ r.conditions, f.value.listsSetOrTuple = false :=
    forall₂_congr fun f hf => (h.conditions f hf).isStatableCondition_iff
  have hoptions : (∀ f ∈ r.options, f.value.isStatable = true) ↔
      ∀ f ∈ r.options, f.value.listsSetOrTuple = false := by
    refine forall₂_congr fun f hf => ?_
    rw [(h.options f hf).listsSetOrTuple_eq, (h.options f hf).isStatable_iff]
  rw [List.forall_mem_append, ← hconditions, ← hoptions]
  exact ⟨fun hr => ⟨hr.conditions, hr.options⟩, fun ⟨hc, ho⟩ => ⟨hc, ho⟩⟩

theorem used_of_not_wellShaped (h : r.Passed used) (hr : ¬ r.WellShaped) :
    used .set ∨ used .omap ∨ used .pairs := by
  by_contra hnone
  obtain ⟨hset, hpairs⟩ := not_or.1 hnone
  exact hr ⟨fun f hf => (h.conditions f hf).isStatableCondition_of_unused hset hpairs,
    fun f hf => (h.options f hf).isStatable_of_unused hset⟩

/-- False stands only in values that are or list sets or tuples. -/
theorem listsSetOrTuple_of_holdsFalse (h : r.Passed used) {f : Flag}
    (hf : f ∈ r.conditions ++ r.options) (hfalse : f.value.holdsFalse = true) :
    f.value.listsSetOrTuple = true := by
  rw [← Bool.not_eq_false]
  intro hnone
  rw [← Bool.not_eq_false] at hfalse
  rcases List.mem_append.1 hf with hf | hf
  · rw [← (h.conditions f hf).isStatableCondition_iff] at hnone
    exact hfalse (Value.holdsFalse_of_isStatableCondition hnone)
  · rw [(h.options f hf).listsSetOrTuple_eq, ← (h.options f hf).isStatable_iff] at hnone
    exact hfalse (Value.holdsFalse_of_isStatable hnone)

end Rule.Passed

namespace Policy

open Ruleset

/-- The values of every rule that is loaded passed the checks. -/
theorem passed_of_read {text : String} {p : Policy} (h : (Policy.read text).result = .ok p)
    {t : Table} (ht : t ∈ p.tables) {c : Chain} (hc : c ∈ t.chains) {r : Rule} (hr : r ∈ c.rules) :
    r.Passed (UsedIn text) := by
  obtain ⟨v, hread, hvalue⟩ := Policy.result_read_eq_ok_iff.1 h
  have hpart : IsPart (UsedIn text) v := .inl (madeOf_of_read hread)
  obtain ⟨w, hw, hrule⟩ := exists_ofValue_eq_ok (.inl (.scalar rfl))
    (fun es hes e he => .inl (madeOf_of_isPart_map hes e he))
    (fun vs => isPart_of_isPart_list) hpart hvalue ht hc hr
  exact Rule.passed_of_ofValue hw hrule

/-- **Shapes of loaded rules.** The values of a loaded rule are scalars other than false, in
conditions also tuples of such, unless one of them is or lists a set or a tuple, which the text must
then have a node for. The line of the rule shows what its values list, and if false stands in that,
then it came in a value that is or lists a set or a tuple. -/
theorem wellShaped_iff {text : String} {p : Policy} (h : (Policy.read text).result = .ok p) :
    ∀ t ∈ p.tables, ∀ c ∈ t.chains, ∀ r ∈ c.rules,
      (r.WellShaped ↔ ∀ f ∈ r.conditions ++ r.options, f.value.listsSetOrTuple = false) ∧
      (¬ r.WellShaped → UsedIn text .set ∨ UsedIn text .omap ∨ UsedIn text .pairs) ∧
      (∀ declared, (Directive.ofRule c r declared).tokens =
        "-A" :: chainName c.name :: ((shownValues conditionFlag r.conditions).flatMap valueTokens ++
          "-j" :: targetWord declared (r.effectiveAction c) ::
            (shownValues optionFlag r.options).flatMap valueTokens)) ∧
      ∀ e ∈ shownValues conditionFlag r.conditions ++ shownValues optionFlag r.options,
        e.2.holdsFalse = true → ∃ f ∈ r.conditions ++ r.options,
          f.value.listsSetOrTuple = true ∧ e.2 ∈ f.value.leaves := by
  intro t ht c hc r hr
  have hpassed := passed_of_read h ht hc hr
  refine ⟨hpassed.wellShaped_iff_listsSetOrTuple, hpassed.used_of_not_wellShaped,
    Directive.tokens_ofRule c r, ?_⟩
  intro e he hfalse
  obtain ⟨f, hf, hleaf⟩ : ∃ f ∈ r.conditions ++ r.options, e.2 ∈ f.value.leaves := by
    rcases List.mem_append.1 he with he | he
    · obtain ⟨f, hf, hleaf⟩ := exists_leaf_of_mem_shownValues he
      exact ⟨f, List.mem_append_left _ hf, hleaf⟩
    · obtain ⟨f, hf, hleaf⟩ := exists_leaf_of_mem_shownValues he
      exact ⟨f, List.mem_append_right _ hf, hleaf⟩
  have hholds : f.value.holdsFalse = true :=
    (Value.holdsFalse_iff f.value).2 ⟨e.2, hleaf, hfalse⟩
  exact ⟨f, hf, hpassed.listsSetOrTuple_of_holdsFalse hf hholds, hleaf⟩

/-- A policy text with a list, a quoted no and an option. -/
def quotedNoText : String :=
  "filter: \x7binput: \x7brules: [\x7bsrc: [a, \"no\"], action: log, " ++
    "action_options: \x7blog-level: 4\x7d\x7d]\x7d\x7d"

theorem wellShaped_quotedNo :
    ∃ p, (Policy.read quotedNoText).result = .ok p ∧
      ∃ t ∈ p.tables, ∃ c ∈ t.chains, ∃ r ∈ c.rules, r.WellShaped := by
  have hrun : ∃ p ∈ (Policy.read quotedNoText).result.toOption.toList,
      ∃ t ∈ p.tables, ∃ c ∈ t.chains, ∃ r ∈ c.rules,
        ∀ f ∈ r.conditions ++ r.options, f.value.listsSetOrTuple = false := by
    decide +kernel
  obtain ⟨p, hp, t, ht, c, hc, r, hr, hnone⟩ := hrun
  have hread := eq_ok_of_mem_toList hp
  exact ⟨p, hread, t, ht, c, hc, r, hr, (wellShaped_iff hread t ht c hc r hr).1.2 hnone⟩

/-- A policy text with a list of pairs, which loads and compiles to a line with a false in it. -/
theorem not_wellShaped_pairs :
    ∃ p, (Policy.read
        "filter: \x7binput: \x7brules: [\x7bsrc: !!pairs [a: no]\x7d]\x7d\x7d").result = .ok p ∧
      (compile p).result = .ok "*filter\n-A INPUT -s a -s False -j ACCEPT\nCOMMIT\n" ∧
      ∃ t ∈ p.tables, ∃ c ∈ t.chains, ∃ r ∈ c.rules, ¬ r.WellShaped ∧
        ∃ e ∈ shownValues conditionFlag r.conditions, e.2.isFalse = true := by
  have hrun : ∃ p ∈ (Policy.read
        "filter: \x7binput: \x7brules: [\x7bsrc: !!pairs [a: no]\x7d]\x7d\x7d"
          ).result.toOption.toList,
      (∀ t ∈ p.tables, (faults t).isEmpty = true) ∧
      text (p.tables.flatMap directives) =
        "*filter\n-A INPUT -s a -s False -j ACCEPT\nCOMMIT\n" ∧
      ∃ t ∈ p.tables, ∃ c ∈ t.chains, ∃ r ∈ c.rules,
        (∃ f ∈ r.conditions, f.value.isStatableCondition = false) ∧
        ∃ e ∈ shownValues conditionFlag r.conditions, e.2.isFalse = true := by
    decide +kernel
  obtain ⟨p, hp, hfault, htext, t, ht, c, hc, r, hr, ⟨f, hf, hshape⟩, hfalse⟩ := hrun
  refine ⟨p, eq_ok_of_mem_toList hp, ?_, t, ht, c, hc, r, hr, fun h => ?_, hfalse⟩
  · exact result_compile_eq_ok_iff.2
      ⟨fun t ht => faults_eq_nil_iff.1 (List.isEmpty_iff.1 (hfault t ht)), htext⟩
  · rw [h.conditions f hf] at hshape
    exact Bool.noConfusion hshape

end Policy

end Firewall
