import Firewall.Proofs.Ruleset.Checks

/-!
# Names as they are resolved and as they are written

A declared chain is looked up by its exact name and written in upper case. `jumpsTo_iff`: where no
two chains are written alike, an action is a jump to a chain exactly when the two are written alike,
the action is the exact name of a declared chain, and it is no verdict. The last two conditions are
needed (`not_jumpsTo_of_readsAs`).
-/

namespace Firewall.Ruleset

/-- The action is a jump, and to this chain. -/
def JumpsTo (t : Table) (action : String) (c : Chain) : Prop :=
  isTarget t.chainNames action = false ∧ t.chain? action = some c

/-- A ruleset writes the action as it writes the name of the chain. -/
def ReadsAs (action : String) (c : Chain) : Prop := chainName action = chainName c.name

variable {t : Table} {action : String}

theorem isTarget_eq_true_iff {declared : List String} :
    isTarget declared action = true ↔ (Verdict.ofName? action).isSome = true ∨
      action ∉ declared ∧ Text.lower action ∈ extensionTargets := by
  cases hv : Verdict.ofName? action <;> by_cases hd : action ∈ declared <;> simp [isTarget, hv, hd]

theorem isTarget_eq_false_of_declared {declared : List String}
    (hv : Verdict.ofName? action = none) (hd : action ∈ declared) :
    isTarget declared action = false := by
  rw [← Bool.not_eq_true, isTarget_eq_true_iff, hv]
  simp [hd]

theorem jumpsTo_iff_name (h : SoundChains t) {c : Chain} (hc : c ∈ t.chains) :
    JumpsTo t action c ↔ c.name = action ∧ Verdict.ofName? action = none := by
  unfold JumpsTo
  rw [h.chain?_eq_some_iff]
  constructor
  · rintro ⟨ht, -, hn⟩
    refine ⟨hn, ?_⟩
    rw [← Bool.not_eq_true, isTarget_eq_true_iff, not_or] at ht
    simpa using ht.1
  · rintro ⟨rfl, hv⟩
    exact ⟨isTarget_eq_false_of_declared hv (List.mem_map_of_mem hc), hc, rfl⟩

theorem name_eq_of_readsAs (h : SoundChains t) {c : Chain} (hc : c ∈ t.chains)
    (hr : ReadsAs action c) (hn : action ∈ t.chainNames) : c.name = action := by
  obtain ⟨d, hd, rfl⟩ := List.mem_map.1 hn
  rw [h.eq_of_chainName_eq hd hc hr]

/-- **Resolving and writing.** In a table whose chains can be told apart, an action is a jump to a
chain exactly when it is written like the chain, spelled like a declared chain, and no verdict. A
target that is written like a chain is a verdict or spelled like no chain, and a jump that is
refused is spelled like no chain. -/
theorem jumpsTo_iff (h : checkChains t = .ok ()) {c : Chain} (hc : c ∈ t.chains)
    (action : String) :
    (JumpsTo t action c ↔
      ReadsAs action c ∧ action ∈ t.chainNames ∧ Verdict.ofName? action = none) ∧
    (ReadsAs action c → isTarget t.chainNames action = true →
      (Verdict.ofName? action).isSome = true ∨ action ∉ t.chainNames) ∧
    (∀ chain position, ReadsAs action c →
      checkJumps t = .error (.unresolvedJump t.name chain position action) →
        action ∉ t.chainNames) := by
  have hs := checkChains_eq_ok_iff.1 h
  refine ⟨?_, ?_, ?_⟩
  · rw [jumpsTo_iff_name hs hc]
    constructor
    · rintro ⟨rfl, hv⟩
      exact ⟨rfl, List.mem_map_of_mem hc, hv⟩
    · rintro ⟨hr, hn, hv⟩
      exact ⟨name_eq_of_readsAs hs hc hr hn, hv⟩
  · intro _ ht
    exact (isTarget_eq_true_iff.1 ht).imp_right And.left
  · intro chain position _ he
    obtain ⟨d, -, r, -, n, hf⟩ := exists_of_mem_jumpFaults (mem_of_firstFault_eq_error he)
    obtain ⟨ha, -, hn⟩ := eq_of_jumpFault?_eq_some hf
    rw [PolicyFault.unresolvedJump.injEq] at ha
    exact ha.2.2.2 ▸ hn

/-- A chain named like no verdict and no extension target. -/
def webChain : Chain := ⟨"web", none, none, []⟩

/-- Two chains, one that jumps to the other, goes back, and logs. -/
def jumpTable : Table :=
  ⟨"filter", [⟨"input", none, none, [⟨[], some "web", []⟩, ⟨[], some "Return", []⟩,
    ⟨[], some "LOG", []⟩]⟩, webChain]⟩

theorem jumpsTo_jumpTable :
    checkChains jumpTable = .ok () ∧ webChain ∈ jumpTable.chains ∧
    JumpsTo jumpTable "web" webChain := by
  have h : checkChains jumpTable = .ok () :=
    firstFault_eq_ok_iff.2 (List.isEmpty_iff.1 (by decide +kernel))
  have hc : webChain ∈ jumpTable.chains := by simp [jumpTable]
  exact ⟨h, hc, (jumpsTo_iff h hc "web").1.2 ⟨rfl, by decide +kernel, by decide +kernel⟩⟩

/-- A chain named like a verdict. -/
def acceptChain : Chain := ⟨"Accept", none, none, []⟩

/-- A chain named like an extension target. -/
def logChain : Chain := ⟨"log", none, none, []⟩

/-- Rules whose actions are written like chains and are no jumps to them. -/
def lookalikeTable : Table :=
  ⟨"filter", [⟨"input", none, none, [⟨[], some "accept", []⟩, ⟨[], some "LOG", []⟩,
    ⟨[], some "Web", []⟩]⟩, acceptChain, logChain, webChain]⟩

theorem not_jumpsTo_of_readsAs :
    checkChains lookalikeTable = .ok () ∧
    (ReadsAs "accept" acceptChain ∧ ¬ JumpsTo lookalikeTable "accept" acceptChain) ∧
    (ReadsAs "LOG" logChain ∧ ¬ JumpsTo lookalikeTable "LOG" logChain) ∧
    (ReadsAs "Web" webChain ∧ ¬ JumpsTo lookalikeTable "Web" webChain ∧
      checkJumps lookalikeTable = .error (.unresolvedJump "filter" "input" 3 "Web")) := by
  refine ⟨firstFault_eq_ok_iff.2 (List.isEmpty_iff.1 (by decide +kernel)), ⟨?_, ?_⟩, ⟨?_, ?_⟩, ?_,
    ?_, ?_⟩
  · show chainName _ = _; decide +kernel
  · intro h; have := h.1; revert this; decide +kernel
  · show chainName _ = _; decide +kernel
  · intro h; have := h.1; revert this; decide +kernel
  · show chainName _ = _; decide +kernel
  · intro h
    have hn := Table.chain?_isSome.1 (Option.isSome_of_eq_some h.2)
    revert hn
    decide +kernel
  · rfl

end Firewall.Ruleset
