import Firewall.Policy.Read
import Firewall.Proofs.Failure
import Firewall.Proofs.Ruleset.Checks
import Firewall.Proofs.Ruleset.Pieces

/-!
# What conditions contribute

`restricts_iff`: a condition puts its flag into the line of its rule exactly when its value does not
list nothing. A value lists nothing if it is an empty list or tuple, or one of values that list
nothing. Such a condition leaves no trace: the line is that of the rule without it, which meets more
packets (`not_restricts_emptyList`).
-/

namespace Firewall

namespace Value

mutual

/-- Whether a value lists nothing: it is a list or a tuple, and all of its items list nothing. -/
def listsNothing : Value → Bool
  | .list items | .tuple items => allListNothing items
  | _ => false

def allListNothing : List Value → Bool
  | [] => true
  | v :: rest => listsNothing v && allListNothing rest

end

end Value

namespace Ruleset

/-- A value becomes no group only if it lists nothing. -/
theorem Group.ofValue_eq_nil_iff {flag : String} (v : Value) :
    ofValue flag v = [] ↔ v.listsNothing = true := by
  refine ofValue.induct (fun v => ofValue flag v = [] ↔ v.listsNothing = true)
    (fun vs => ofValues flag vs = [] ↔ Value.allListNothing vs = true)
    ?null ?alone ?list ?tuple ?scalar ?nil ?cons v
  case null => simp [ofValue, Value.listsNothing]
  case alone => simp [ofValue, Value.listsNothing]
  case list =>
    intro items ih
    rwa [ofValue, Value.listsNothing]
  case tuple =>
    intro items ih
    rwa [ofValue, Value.listsNothing]
  case scalar =>
    intro v hnull htrue hlist htuple
    rw [ofValue.eq_5 flag v hnull htrue hlist htuple, Value.listsNothing.eq_3 v hlist htuple]
    simp
  case nil => simp [ofValues, Value.allListNothing]
  case cons =>
    intro v rest hv hrest
    rw [ofValues, List.append_eq_nil_iff, hv, hrest, Value.allListNothing, Bool.and_eq_true]

/-- The words of the condition begin with its flag, after a mark of negation or at once. -/
def Restricts (f : Flag) : Prop :=
  [conditionFlag f.key] <+: conditionTokens [f] ∨ ["!", conditionFlag f.key] <+: conditionTokens [f]

theorem conditionTokens_singleton (f : Flag) :
    conditionTokens [f] =
      (Group.ofValue (conditionFlag f.key) f.value).flatMap Group.tokens := by
  rw [conditionTokens, List.flatMap_singleton]

/-- The words of a group begin with its flag, after a mark of negation or at once. -/
theorem Group.flag_prefix_tokens (g : Group) :
    [g.flag] <+: g.tokens ∨ ["!", g.flag] <+: g.tokens := by
  rcases g with ⟨negated, flag, argument⟩
  cases negated with
  | false => exact .inl ⟨(argument.map word).toList, rfl⟩
  | true => exact .inr ⟨(argument.map word).toList, rfl⟩

theorem conditionTokens_eq_nil_iff {f : Flag} :
    conditionTokens [f] = [] ↔ f.value.listsNothing = true := by
  rw [conditionTokens_singleton, ← @Group.ofValue_eq_nil_iff (conditionFlag f.key) f.value,
    List.flatMap_eq_nil_iff]
  constructor
  · intro h
    cases hg : Group.ofValue (conditionFlag f.key) f.value with
    | nil => rfl
    | cons g gs =>
      have htokens := h g (by rw [hg]; exact List.mem_cons_self)
      obtain hp | hp := g.flag_prefix_tokens
      · rw [htokens] at hp
        cases List.prefix_nil.1 hp
      · rw [htokens] at hp
        cases List.prefix_nil.1 hp
  · intro h g hg
    rw [h] at hg
    cases hg

theorem restricts_of_ne_nil {f : Flag} (h : conditionTokens [f] ≠ []) : Restricts f := by
  rw [conditionTokens_singleton] at h
  cases hg : Group.ofValue (conditionFlag f.key) f.value with
  | nil =>
    rw [hg] at h
    exact absurd rfl h
  | cons g gs =>
    have hflag : g.flag = conditionFlag f.key :=
      Group.flag_of_mem_ofValue f.value g (by rw [hg]; exact List.mem_cons_self)
    have htokens : g.tokens <+: conditionTokens [f] := by
      rw [conditionTokens_singleton, hg, List.flatMap_cons]
      exact List.prefix_append _ _
    unfold Restricts
    rw [← hflag]
    exact g.flag_prefix_tokens.imp (fun hp => hp.trans htokens) (fun hp => hp.trans htokens)

/-- A condition puts its flag into a line unless its value lists nothing. -/
theorem restricts_iff_listsSomething {f : Flag} : Restricts f ↔ f.value.listsNothing = false := by
  rw [← Bool.not_eq_true, ← conditionTokens_eq_nil_iff]
  refine ⟨fun h hnil => ?_, restricts_of_ne_nil⟩
  unfold Restricts at h
  rw [hnil] at h
  obtain hp | hp := h
  · cases List.prefix_nil.1 hp
  · cases List.prefix_nil.1 hp

/-- Words in the middle of a line make it longer. -/
theorem intercalate_eq_iff {as bs cs : List String} (ha : as ≠ []) (hc : cs ≠ []) :
    " ".intercalate (as ++ cs) = " ".intercalate (as ++ (bs ++ cs)) ↔ bs = [] := by
  constructor
  · intro h
    by_contra hb
    have hbc : bs ++ cs ≠ [] := by simp [hb]
    rw [String.intercalate_append_of_ne_nil ha hc, String.intercalate_append_of_ne_nil ha hbc,
      String.intercalate_append_of_ne_nil hb hc] at h
    have hlen := congrArg String.length h
    simp only [String.length_append] at hlen
    have hspace : " ".length = 1 := by decide
    omega
  · rintro rfl
    rfl

/-- **Conditions and lines.** A condition puts its flag into the line of its rule unless its value
lists nothing, and then the line is that of the rule without the condition. -/
theorem restricts_iff (declared : List String) (c : Chain) (before after : List Flag) (f : Flag)
    (action : Option String) (options : List Flag) :
    (Restricts f ↔ f.value.listsNothing = false) ∧
    ((Directive.ofRule c ⟨before ++ after, action, options⟩ declared).line =
        (Directive.ofRule c ⟨before ++ f :: after, action, options⟩ declared).line ↔
      f.value.listsNothing = true) := by
  refine ⟨restricts_iff_listsSomething, ?_⟩
  rw [← conditionTokens_eq_nil_iff]
  -- the words before those of the condition begin with the name of the chain, and those after
  -- them hold the jump flag
  have hline : ∀ fs, (Directive.ofRule c ⟨before ++ fs, action, options⟩ declared).line =
      " ".intercalate (("-A" :: chainName c.name :: conditionTokens before) ++
        (conditionTokens fs ++ actionTokens
          (Rule.effectiveAction ⟨before ++ fs, action, options⟩ c) options declared)) := by
    intro fs
    simp [Directive.line, Directive.ofRule, Directive.tokens]
  have hcons : conditionTokens (f :: after) = conditionTokens [f] ++ conditionTokens after :=
    conditionTokens_append [f] after
  rw [hline, hline, hcons, List.append_assoc]
  exact intercalate_eq_iff (by simp) (by simp [actionTokens])

/-- A policy text with a condition that lists no value, which loads and compiles to a rule that
accepts every packet. -/
theorem not_restricts_emptyList :
    ∃ p, (Policy.read "filter: \x7binput: \x7brules: [\x7bsrc: []\x7d]\x7d\x7d").result = .ok p ∧
      (compile p).result = .ok "*filter\n-A INPUT -j ACCEPT\nCOMMIT\n" ∧
      ∃ t ∈ p.tables, ∃ c ∈ t.chains, ∃ r ∈ c.rules, ∃ f ∈ r.conditions, ¬ Restricts f := by
  have hrun : ∃ p ∈ (Policy.read
        "filter: \x7binput: \x7brules: [\x7bsrc: []\x7d]\x7d\x7d").result.toOption.toList,
      (∀ t ∈ p.tables, (faults t).isEmpty = true) ∧
      text (p.tables.flatMap directives) = "*filter\n-A INPUT -j ACCEPT\nCOMMIT\n" ∧
      ∃ t ∈ p.tables, ∃ c ∈ t.chains, ∃ r ∈ c.rules, ∃ f ∈ r.conditions,
        f.value.listsNothing = true := by
    decide +kernel
  obtain ⟨p, hp, hfault, htext, t, ht, c, hc, r, hr, f, hf, hnothing⟩ := hrun
  refine ⟨p, eq_ok_of_mem_toList hp, ?_, t, ht, c, hc, r, hr, f, hf, ?_⟩
  · exact result_compile_eq_ok_iff.2
      ⟨fun t ht => faults_eq_nil_iff.1 (List.isEmpty_iff.1 (hfault t ht)), htext⟩
  · rw [restricts_iff_listsSomething, hnothing]
    exact Bool.noConfusion

end Ruleset

end Firewall
