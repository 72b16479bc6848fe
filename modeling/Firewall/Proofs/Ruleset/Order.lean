import Firewall.Proofs.Ruleset.Checks
import Mathlib.Data.Option.Basic

/-!
# The order of directives

`inOrder_of_compileTable`: the directives of a table that compiles come in blocks, the verdicts
before the new chains and those before the rules, and every chain that a rule belongs to or jumps to
is built in or introduced once, whatever the order in which chains are declared and however they
jump to each other.

1. No two chains are written alike (`SoundChains`), so a written name picks one chain out of the
   table (`filter_eq_singleton_of_nodup_map`), and with it at most one line out of a block.
2. Chains with verdicts are built in and new chains are not, so no chain has lines in both blocks
   (`nodup_declared`).
-/

namespace Firewall.Ruleset

/-- The chain that a directive declares, by its name as a ruleset writes it. -/
def Directive.declares? : Directive → Option String
  | .verdict chain _ | .newChain chain => some (chainName chain)
  | _ => none

/-- Whether a directive declares a chain that is written so. -/
def Directive.declares (name : String) (d : Directive) : Bool := d.declares? == some name

/-- The name belongs to a built-in chain of the table, or one line introduces it. -/
def Introduced (t : Table) (news : List Directive) (name : String) : Prop :=
  (∃ b ∈ t.chains, isBuiltin b.name t.name = true ∧ chainName b.name = chainName name) ∨
    (news.filter (Directive.declares (chainName name))).length = 1

/-- Directives of a table in order: its header, the verdicts of chains, the new chains, the rules,
and the commit. -/
structure InOrder (t : Table) (ds verdicts news rules : List Directive) : Prop where
  blocks : ds = .table t.name :: (verdicts ++ news ++ rules ++ [.commit])
  verdicts_only : ∀ d ∈ verdicts, ∃ chain v, d = .verdict chain v
  news_only : ∀ d ∈ news, ∃ chain, d = .newChain chain
  rules_eq : rules = t.chains.flatMap fun c => c.rules.map fun r => .ofRule c r t.chainNames
  verdict_once : ∀ c ∈ t.chains, ∀ v, c.verdict = some v → isBuiltin c.name t.name = true ∧
    verdicts.filter (Directive.declares (chainName c.name)) = [.verdict c.name v]
  new_once : ∀ c ∈ t.chains, isBuiltin c.name t.name = false →
    news.filter (Directive.declares (chainName c.name)) = [.newChain c.name]
  distinct : ((verdicts ++ news).map Directive.declares?).Nodup
  jumps : ∀ c ∈ t.chains, ∀ r ∈ c.rules, isTarget t.chainNames (r.effectiveAction c) = false →
    Introduced t news (r.effectiveAction c)
  owners : ∀ c ∈ t.chains, Introduced t news c.name

theorem filter_eq_singleton_of_nodup_map {α β : Type} [DecidableEq β] {key : α → β} {xs : List α}
    (h : (xs.map key).Nodup) {a : α} (ha : a ∈ xs) :
    xs.filter (fun x => key x == key a) = [a] := by
  induction xs with
  | nil => cases ha
  | cons x rest ih =>
    rw [List.map_cons, List.nodup_cons] at h
    obtain ⟨hx, hrest⟩ := h
    rcases List.mem_cons.1 ha with rfl | ha
    · have hnone : rest.filter (fun x => key x == key a) = [] := by
        rw [List.filter_eq_nil_iff]
        intro y hy hk
        exact hx (List.mem_map.2 ⟨y, hy, by simpa using hk⟩)
      rw [List.filter_cons, if_pos (by simp), hnone]
    · have hne : ¬ (key x == key a) = true := by
        intro hk
        exact hx (List.mem_map.2 ⟨a, ha, by simpa using Eq.symm (by simpa using hk)⟩)
      rw [List.filter_cons, if_neg hne, ih hrest ha]

/-! ## The lines of one chain -/

variable {t : Table}

theorem filter_chains (h : SoundChains t) {c : Chain} (hc : c ∈ t.chains) :
    t.chains.filter (fun d => chainName d.name == chainName c.name) = [c] :=
  filter_eq_singleton_of_nodup_map h.nodup hc

/-- The lines of a block that declare a name are the lines of the chains that are written so. -/
theorem filter_verdictLines (name : String) :
    (verdictLines t).filter (Directive.declares name) =
      (t.chains.filter fun d => chainName d.name == name).filterMap
        fun c => c.verdict.map (.verdict c.name) := by
  unfold verdictLines
  induction t.chains with
  | nil => rfl
  | cons c rest ih =>
    cases hv : c.verdict <;> by_cases hn : chainName c.name = name <;>
      simp [hv, hn, ih, Directive.declares, Directive.declares?]

theorem filter_newChainLines (name : String) :
    (newChainLines t).filter (Directive.declares name) =
      ((t.chains.filter fun d => chainName d.name == name).filter
        fun c => !isBuiltin c.name t.name).map fun c => .newChain c.name := by
  unfold newChainLines
  rw [List.filter_map, List.filter_filter, List.filter_filter]
  refine congrArg (List.map _) (List.filter_congr fun c _ => ?_)
  simp [Directive.declares, Directive.declares?, Bool.and_comm]

theorem filter_verdictLines_of_chain (h : SoundChains t) {c : Chain} (hc : c ∈ t.chains)
    {v : Verdict} (hv : c.verdict = some v) :
    (verdictLines t).filter (Directive.declares (chainName c.name)) = [.verdict c.name v] := by
  rw [filter_verdictLines, filter_chains h hc]
  simp [hv]

theorem filter_newChainLines_of_chain (h : SoundChains t) {c : Chain} (hc : c ∈ t.chains)
    (hb : isBuiltin c.name t.name = false) :
    (newChainLines t).filter (Directive.declares (chainName c.name)) = [.newChain c.name] := by
  rw [filter_newChainLines, filter_chains h hc]
  simp [hb]

/-! ## All names that lines declare -/

theorem map_declares?_verdictLines :
    (verdictLines t).map Directive.declares? =
      (t.chains.filter fun c => c.verdict.isSome).map fun c => some (chainName c.name) := by
  unfold verdictLines
  induction t.chains with
  | nil => rfl
  | cons c rest ih => cases hv : c.verdict <;> simp [hv, ih, Directive.declares?]

theorem map_declares?_newChainLines :
    (newChainLines t).map Directive.declares? =
      (t.chains.filter fun c => !isBuiltin c.name t.name).map
        fun c => some (chainName c.name) := by
  unfold newChainLines
  rw [List.map_map]
  rfl

theorem nodup_declared (h : SoundChains t) :
    ((verdictLines t ++ newChainLines t).map Directive.declares?).Nodup := by
  have hall : (t.chains.map fun c => some (chainName c.name)).Nodup := by
    have := h.nodup.map (Option.some_injective _)
    rwa [writtenNames, List.map_map] at this
  rw [List.map_append, map_declares?_verdictLines, map_declares?_newChainLines,
    List.nodup_append]
  refine ⟨hall.sublist (List.filter_sublist.map _), hall.sublist (List.filter_sublist.map _), ?_⟩
  intro x hx y hy hxy
  obtain ⟨c, hc, rfl⟩ := List.mem_map.1 hx
  obtain ⟨d, hd, rfl⟩ := List.mem_map.1 hy
  obtain ⟨hc, hv⟩ := List.mem_filter.1 hc
  obtain ⟨hd, hb⟩ := List.mem_filter.1 hd
  -- the two lines would belong to one chain, built in and not
  have hcd := h.eq_of_chainName_eq hc hd (Option.some_injective _ hxy)
  rw [← hcd, h.verdict_builtin c hc hv] at hb
  cases hb

/-! ## The order -/

theorem introduced_of_mem (h : SoundChains t) {c : Chain} (hc : c ∈ t.chains) :
    Introduced t (newChainLines t) c.name := by
  cases hb : isBuiltin c.name t.name with
  | true => exact .inl ⟨c, hc, hb, rfl⟩
  | false =>
    right
    rw [filter_newChainLines_of_chain h hc hb]
    rfl

/-- **Order of directives.** A table that compiles has its directives in order. -/
theorem inOrder_of_compileTable {ds : List Directive} (h : compileTable t = .ok ds) :
    ∃ verdicts news rules, InOrder t ds verdicts news rules := by
  obtain ⟨hf, rfl⟩ := compileTable_eq_ok_iff.1 h
  have hs := hf.toSoundChains
  refine ⟨verdictLines t, newChainLines t, ruleLines t, ?_⟩
  refine
    { blocks := rfl
      verdicts_only := ?_
      news_only := ?_
      rules_eq := rfl
      verdict_once := ?_
      new_once := fun c hc hb => filter_newChainLines_of_chain hs hc hb
      distinct := nodup_declared hs
      jumps := ?_
      owners := fun c hc => introduced_of_mem hs hc }
  · intro d hd
    obtain ⟨c, -, hv⟩ := List.mem_filterMap.1 hd
    obtain ⟨v, -, rfl⟩ := Option.map_eq_some_iff.1 hv
    exact ⟨c.name, v, rfl⟩
  · intro d hd
    obtain ⟨c, -, rfl⟩ := List.mem_map.1 hd
    exact ⟨c.name, rfl⟩
  · intro c hc v hv
    exact ⟨hs.verdict_builtin c hc (by rw [hv]; rfl), filter_verdictLines_of_chain hs hc hv⟩
  · intro c hc r hr ht
    have hn := (hf.resolves c hc r hr).resolve_left (by rw [ht]; exact Bool.false_ne_true)
    obtain ⟨d, hd, hdn⟩ := List.mem_map.1 hn
    exact hdn ▸ introduced_of_mem hs hd

/-- A table whose chains jump forward, backward and to themselves. -/
def cycleTable : Table :=
  ⟨"filter", [⟨"a", none, none, [⟨[], some "b", []⟩, ⟨[], some "a", []⟩]⟩,
    ⟨"input", some .drop, none, [⟨[], some "b", []⟩, ⟨[], some "input", []⟩]⟩,
    ⟨"b", none, some "return", [⟨[], some "a", []⟩, ⟨[], none, []⟩]⟩]⟩

theorem inOrder_cycleTable :
    compileTable cycleTable = .ok (directives cycleTable) ∧
    ∃ verdicts news rules, InOrder cycleTable (directives cycleTable) verdicts news rules := by
  have h := compileTable_of_isEmpty (t := cycleTable) (by decide +kernel)
  exact ⟨h, inOrder_of_compileTable h⟩

end Firewall.Ruleset
