import Firewall.Proofs.Log
import Firewall.Ruleset.Compile
import Mathlib.Data.List.Basic
import Mathlib.Data.List.Nodup

/-!
# Tables without faults

`compileTable_eq_ok_iff`: a table compiles exactly when it is `Faultless`, and then to its
directives. The search for a chain that clashes with an earlier one, with its growing list of names,
comes down to the names of chains as they are written being pairwise distinct
(`chainFaults_eq_nil_iff`).
-/

namespace Firewall.Ruleset

/-- The names of the chains of a table as a ruleset writes them. -/
def writtenNames (t : Table) : List String := t.chains.map fun c => chainName c.name

/-- The chains of a table can be told apart, and only built-in ones have verdicts. -/
structure SoundChains (t : Table) : Prop where
  nodup : (writtenNames t).Nodup
  verdict_builtin : ∀ c ∈ t.chains, c.verdict.isSome = true → isBuiltin c.name t.name = true

/-- Every action of a table is a target or names a chain that it declares. -/
def JumpsResolve (t : Table) : Prop :=
  ∀ c ∈ t.chains, ∀ r ∈ c.rules,
    isTarget t.chainNames (r.effectiveAction c) = true ∨ r.effectiveAction c ∈ t.chainNames

/-- All that a table needs in order to compile. -/
structure Faultless (t : Table) : Prop extends SoundChains t where
  resolves : JumpsResolve t
  writable : ∀ c ∈ t.chains, ∀ r ∈ c.rules, isWritable r = true

theorem firstFault_eq_ok_iff {fs : List PolicyFault} {u : Unit} :
    firstFault fs = .ok u ↔ fs = [] := by
  cases fs <;> simp [firstFault]

theorem mem_of_firstFault_eq_error {fs : List PolicyFault} {f : PolicyFault}
    (h : firstFault fs = .error f) : f ∈ fs := by
  cases fs with
  | nil => cases h
  | cons g rest =>
    cases h
    exact List.mem_cons_self

/-! ## Faults of chains -/

variable {t : Table} {earlier : List (String × String)}

theorem clash?_eq_none_iff {c : Chain} :
    clash? t earlier c = none ↔ chainName c.name ∉ earlier.map (·.1) := by
  simp only [clash?, Option.map_eq_none_iff, List.lookup_eq_none_iff, List.mem_map, not_exists,
    not_and, bne_iff_ne, ne_eq]
  exact forall₂_congr fun _ _ => not_congr eq_comm

theorem misplacedVerdict?_eq_none_iff {c : Chain} :
    misplacedVerdict? t c = none ↔ (c.verdict.isSome = true → isBuiltin c.name t.name = true) := by
  unfold misplacedVerdict?
  cases c.verdict <;> cases isBuiltin c.name t.name <;> simp

theorem chainFaultsAfter_eq_nil_iff {cs : List Chain} :
    chainFaultsAfter t earlier cs = [] ↔
      (earlier.map (·.1)).Disjoint (cs.map fun c => chainName c.name) ∧
      (cs.map fun c => chainName c.name).Nodup ∧
      ∀ c ∈ cs, c.verdict.isSome = true → isBuiltin c.name t.name = true := by
  induction cs generalizing earlier with
  | nil => simp [chainFaultsAfter]
  | cons c rest ih =>
    simp only [chainFaultsAfter, List.append_eq_nil_iff, Option.toList_eq_nil_iff,
      clash?_eq_none_iff, misplacedVerdict?_eq_none_iff, ih, List.map_append, List.map_cons,
      List.map_nil, List.disjoint_append_left, List.singleton_disjoint, List.disjoint_cons_right,
      List.nodup_cons, List.forall_mem_cons]
    tauto

theorem chainFaults_eq_nil_iff : chainFaults t = [] ↔ SoundChains t := by
  unfold chainFaults
  rw [chainFaultsAfter_eq_nil_iff]
  constructor
  · rintro ⟨-, hn, hv⟩
    exact ⟨hn, hv⟩
  · intro h
    exact ⟨List.disjoint_nil_left _, h.nodup, h.verdict_builtin⟩

theorem checkChains_eq_ok_iff : checkChains t = .ok () ↔ SoundChains t := by
  rw [checkChains, firstFault_eq_ok_iff, chainFaults_eq_nil_iff]

/-! ## Faults of jumps and of texts -/

theorem jumpFault?_eq_none_iff {c : Chain} {position : Nat} {r : Rule} :
    jumpFault? t c position r = none ↔
      isTarget t.chainNames (r.effectiveAction c) = true ∨ r.effectiveAction c ∈ t.chainNames := by
  cases h : isTarget t.chainNames (r.effectiveAction c) <;> simp [jumpFault?, h]

theorem jumpFaultsFrom_eq_nil_iff {c : Chain} {position : Nat} {rs : List Rule} :
    jumpFaultsFrom t c position rs = [] ↔
      ∀ r ∈ rs, isTarget t.chainNames (r.effectiveAction c) = true ∨
        r.effectiveAction c ∈ t.chainNames := by
  induction rs generalizing position with
  | nil => simp [jumpFaultsFrom]
  | cons r rest ih =>
    simp only [jumpFaultsFrom, List.append_eq_nil_iff, Option.toList_eq_nil_iff,
      jumpFault?_eq_none_iff, ih, List.forall_mem_cons]

theorem jumpFaults_eq_nil_iff : jumpFaults t = [] ↔ JumpsResolve t := by
  simp only [jumpFaults, List.flatMap_eq_nil_iff, jumpFaultsFrom_eq_nil_iff, JumpsResolve]

theorem eq_of_jumpFault?_eq_some {c : Chain} {position : Nat} {r : Rule} {f : PolicyFault}
    (h : jumpFault? t c position r = some f) :
    f = .unresolvedJump t.name c.name position (r.effectiveAction c) ∧
      isTarget t.chainNames (r.effectiveAction c) = false ∧
      r.effectiveAction c ∉ t.chainNames := by
  have hn : ¬ jumpFault? t c position r = none := by rw [h]; exact Option.some_ne_none f
  rw [jumpFault?_eq_none_iff, not_or, Bool.not_eq_true] at hn
  refine ⟨?_, hn⟩
  simp only [jumpFault?, hn.1, List.contains_eq_mem, hn.2, decide_false, Bool.or_self,
    Bool.false_eq_true, if_false, Option.some.injEq] at h
  exact h.symm

theorem exists_of_mem_jumpFaultsFrom {c : Chain} {position : Nat} {rs : List Rule}
    {f : PolicyFault} (h : f ∈ jumpFaultsFrom t c position rs) :
    ∃ r ∈ rs, ∃ n, jumpFault? t c n r = some f := by
  induction rs generalizing position with
  | nil => cases h
  | cons r rest ih =>
    rcases List.mem_append.1 h with hr | hrest
    · exact ⟨r, List.mem_cons_self, position, by simpa using hr⟩
    · obtain ⟨s, hs, n, hn⟩ := ih hrest
      exact ⟨s, List.mem_cons_of_mem _ hs, n, hn⟩

theorem exists_of_mem_jumpFaults {f : PolicyFault} (h : f ∈ jumpFaults t) :
    ∃ c ∈ t.chains, ∃ r ∈ c.rules, ∃ n, jumpFault? t c n r = some f := by
  obtain ⟨c, hc, hf⟩ := List.mem_flatMap.1 h
  exact ⟨c, hc, exists_of_mem_jumpFaultsFrom hf⟩

theorem textFaults_eq_nil_iff :
    textFaults t = [] ↔ ∀ c ∈ t.chains, ∀ r ∈ c.rules, isWritable r = true := by
  simp [textFaults, List.flatMap_eq_nil_iff]

/-! ## Compiling -/

theorem faults_eq_nil_iff : faults t = [] ↔ Faultless t := by
  unfold faults
  rw [List.append_eq_nil_iff, List.append_eq_nil_iff, chainFaults_eq_nil_iff,
    jumpFaults_eq_nil_iff, textFaults_eq_nil_iff]
  constructor
  · rintro ⟨⟨hc, hj⟩, ht⟩
    exact ⟨hc, hj, ht⟩
  · intro h
    exact ⟨⟨h.toSoundChains, h.resolves⟩, h.writable⟩

/-- A table compiles exactly when it has no fault, and then to its directives. -/
theorem compileTable_eq_ok_iff {ds : List Directive} :
    compileTable t = .ok ds ↔ Faultless t ∧ directives t = ds := by
  rw [← faults_eq_nil_iff]
  unfold compileTable
  cases h : faults t with
  | nil => simp [firstFault, bind, Except.bind, pure, Except.pure]
  | cons f fs => simp [firstFault, bind, Except.bind]

theorem compileTable_of_isEmpty (h : (faults t).isEmpty = true) :
    compileTable t = .ok (directives t) :=
  compileTable_eq_ok_iff.2 ⟨faults_eq_nil_iff.1 (List.isEmpty_iff.1 h), rfl⟩

theorem result_compileReporting_eq_ok_iff {ds : List Directive} :
    (compileReporting t).result = .ok ds ↔ Faultless t ∧ directives t = ds := by
  rw [compileReporting, Logged.result_andThen_eq_ok_iff, ← compileTable_eq_ok_iff]
  simp [Logged.result_andThen_eq_ok_iff, Logged.ofExcept, Logged.note]

/-- A policy compiles exactly when none of its tables has a fault, and then to the text of all their
directives. -/
theorem result_compile_eq_ok_iff {p : Policy} {txt : String} :
    (compile p).result = .ok txt ↔
      (∀ t ∈ p.tables, Faultless t) ∧ text (p.tables.flatMap directives) = txt := by
  have hmap : ∀ dss, List.Forall₂ (fun t ds => directives t = ds) p.tables dss ↔
      p.tables.map directives = dss := by
    intro dss
    rw [← List.forall₂_map_left_iff (R := Eq), List.forall₂_eq_eq_eq]
  rw [compile, Logged.result_andThen_eq_ok_iff]
  simp only [Logged.result_mapList_eq_ok_iff, result_compileReporting_eq_ok_iff,
    List.forall₂_and_left, hmap, Logged.result_ok, Except.ok.injEq, and_assoc, List.flatMap_def]
  constructor
  · rintro ⟨dss, hf, rfl, rfl⟩
    exact ⟨hf, rfl⟩
  · rintro ⟨hf, rfl⟩
    exact ⟨_, hf, rfl, rfl⟩

theorem result_compile_of_isEmpty {p : Policy} (h : ∀ t ∈ p.tables, (faults t).isEmpty = true) :
    (compile p).result = .ok (text (p.tables.flatMap directives)) :=
  result_compile_eq_ok_iff.2
    ⟨fun t ht => faults_eq_nil_iff.1 (List.isEmpty_iff.1 (h t ht)), rfl⟩

theorem ofRule_mem_directives {c : Chain} (hc : c ∈ t.chains) {r : Rule} (hr : r ∈ c.rules) :
    Directive.ofRule c r t.chainNames ∈ directives t := by
  have : Directive.ofRule c r t.chainNames ∈ ruleLines t :=
    List.mem_flatMap.2 ⟨c, hc, List.mem_map_of_mem hr⟩
  simp [directives, this]

/-! ## Chains by name -/

theorem SoundChains.eq_of_chainName_eq (h : SoundChains t) {c d : Chain} (hc : c ∈ t.chains)
    (hd : d ∈ t.chains) (e : chainName c.name = chainName d.name) : c = d :=
  List.inj_on_of_nodup_map h.nodup hc hd e

theorem SoundChains.chain?_eq_some_iff (h : SoundChains t) {name : String} {c : Chain} :
    t.chain? name = some c ↔ c ∈ t.chains ∧ c.name = name := by
  constructor
  · intro hf
    exact ⟨List.mem_of_find?_eq_some hf, by simpa using List.find?_some hf⟩
  · rintro ⟨hc, rfl⟩
    have hs : (t.chain? c.name).isSome = true :=
      Table.chain?_isSome.2 (List.mem_map_of_mem hc)
    obtain ⟨d, hd⟩ := Option.isSome_iff_exists.1 hs
    have hn : d.name = c.name := by simpa using List.find?_some hd
    rw [hd, h.eq_of_chainName_eq (List.mem_of_find?_eq_some hd) hc (by rw [hn])]

end Firewall.Ruleset
