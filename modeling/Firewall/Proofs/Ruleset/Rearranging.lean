import Firewall.Proofs.Ruleset.Order
import Firewall.Proofs.Ruleset.Target

/-!
# The order of chains

`compileTable_rearranged`: in whatever order the chains of a table are declared, the table compiles
or not, and every chain has the same lines. Only the order of the lines follows the declaration:
each block has the lines of its chains in the order of the chains (`arranged`).

1. What a table needs in order to compile speaks of its chains and not of their order
   (`faultless_rearranged_iff`).
2. A block is put together from lines that depend on the chain alone, but for the declared names,
   which only say of an action whether it is one of them (`directives_eq_arranged`).
-/

namespace Firewall.Ruleset

/-! ## The lines of each chain -/

def ownVerdict (c : Chain) : List Directive := (c.verdict.map (Directive.verdict c.name)).toList

/-- The introduction of a chain that is not built in. -/
def ownIntroduction (table : String) (c : Chain) : List Directive :=
  if isBuiltin c.name table then [] else [.newChain c.name]

/-- The rules of a chain, given the names of the declared chains. -/
def ownRules (declared : List String) (c : Chain) : List Directive :=
  c.rules.map fun r => .ofRule c r declared

/-- The lines of chains, block by block, each block in the order of the chains. -/
def arranged (table : String) (declared : List String) (cs : List Chain) : List Directive :=
  .table table :: (cs.flatMap ownVerdict ++ cs.flatMap (ownIntroduction table) ++
    cs.flatMap (ownRules declared) ++ [.commit])

theorem filter_map_eq_flatMap {α β : Type} (p : α → Bool) (f : α → β) (as : List α) :
    (as.filter fun a => !p a).map f = as.flatMap fun a => if p a then [] else [f a] := by
  induction as with
  | nil => rfl
  | cons a as ih => cases h : p a <;> simp [h, ih]

theorem directives_eq_arranged (t : Table) :
    directives t = arranged t.name t.chainNames t.chains := by
  have hverdicts : verdictLines t = t.chains.flatMap ownVerdict :=
    List.filterMap_eq_flatMap_toList _ _
  have hnews : newChainLines t = t.chains.flatMap (ownIntroduction t.name) :=
    filter_map_eq_flatMap _ _ _
  rw [directives, hverdicts, hnews]
  rfl

/-! ## Another order -/

variable {t : Table} {cs : List Chain}

theorem isTarget_congr {declared names : List String} (h : ∀ n, n ∈ declared ↔ n ∈ names)
    (action : String) : isTarget declared action = isTarget names action := by
  simp [isTarget, h]

/-- A line of a rule does not depend on the names of the declared chains. -/
theorem ofRule_congr (c : Chain) (r : Rule) (declared names : List String) :
    Directive.ofRule c r declared = .ofRule c r names := by
  simp only [Directive.ofRule, actionTokens, targetWord_eq]

theorem mem_chainNames_rearranged (h : cs.Perm t.chains) (n : String) :
    n ∈ (⟨t.name, cs⟩ : Table).chainNames ↔ n ∈ t.chainNames :=
  (h.map _).mem_iff

/-- A table has no fault in whatever order its chains are declared. -/
theorem faultless_rearranged (h : cs.Perm t.chains) (hf : Faultless t) :
    Faultless ⟨t.name, cs⟩ where
  nodup := (h.map _).nodup_iff.2 hf.nodup
  verdict_builtin c hc := hf.verdict_builtin c (h.mem_iff.1 hc)
  resolves c hc r hr := by
    rw [isTarget_congr (mem_chainNames_rearranged h), mem_chainNames_rearranged h]
    exact hf.resolves c (h.mem_iff.1 hc) r hr
  writable c hc := hf.writable c (h.mem_iff.1 hc)

theorem faultless_rearranged_iff (h : cs.Perm t.chains) :
    Faultless ⟨t.name, cs⟩ ↔ Faultless t :=
  ⟨fun hf => @faultless_rearranged ⟨t.name, cs⟩ t.chains h.symm hf, faultless_rearranged h⟩

theorem directives_rearranged :
    directives ⟨t.name, cs⟩ = arranged t.name t.chainNames cs := by
  rw [directives_eq_arranged, arranged, arranged]
  have hrules : ownRules (⟨t.name, cs⟩ : Table).chainNames = ownRules t.chainNames := by
    funext c
    exact List.map_congr_left fun r _ => ofRule_congr c r _ _
  rw [hrules]

theorem perm_arranged {table : String} {declared : List String} {ds : List Chain}
    (h : cs.Perm ds) : (arranged table declared cs).Perm (arranged table declared ds) := by
  refine List.Perm.cons _ (List.Perm.append_right _ (.append (.append ?_ ?_) ?_))
  · exact h.flatMap_right _
  · exact h.flatMap_right _
  · exact h.flatMap_right _

/-! ## The rules of one chain -/

/-- Whether a directive is a rule of the chain that is written so. -/
def Directive.appendsTo (name : String) : Directive → Bool
  | .rule chain _ => chainName chain == name
  | _ => false

theorem filter_ownVerdict (name : String) (c : Chain) :
    (ownVerdict c).filter (Directive.appendsTo name) = [] := by
  cases hv : c.verdict <;> simp [ownVerdict, hv, Directive.appendsTo]

theorem filter_ownIntroduction (name table : String) (c : Chain) :
    (ownIntroduction table c).filter (Directive.appendsTo name) = [] := by
  unfold ownIntroduction
  split <;> rfl

theorem filter_ownRules (name : String) (declared : List String) (c : Chain) :
    (ownRules declared c).filter (Directive.appendsTo name) =
      if chainName c.name == name then ownRules declared c else [] := by
  have hrule : ∀ r, Directive.appendsTo name (.ofRule c r declared) = (chainName c.name == name) :=
    fun _ => rfl
  unfold ownRules
  rw [List.filter_map]
  cases hn : chainName c.name == name <;> simp [Function.comp_def, hrule, hn]

/-- The rules of a chain among all lines are those of the chains that are written so. -/
theorem filter_arranged (table name : String) (declared : List String) (cs : List Chain) :
    (arranged table declared cs).filter (Directive.appendsTo name) =
      (cs.filter fun c => chainName c.name == name).flatMap (ownRules declared) := by
  have hrules : cs.flatMap (fun c => (ownRules declared c).filter (Directive.appendsTo name)) =
      (cs.filter fun c => chainName c.name == name).flatMap (ownRules declared) := by
    induction cs with
    | nil => rfl
    | cons c cs ih =>
      rw [List.flatMap_cons, ih, filter_ownRules, List.filter_cons]
      cases chainName c.name == name <;> rfl
  have hnone : cs.flatMap (fun _ => ([] : List Directive)) = [] :=
    List.flatMap_eq_nil_iff.2 fun _ _ => rfl
  simp only [arranged, List.filter_cons, List.filter_append, List.filter_flatMap,
    filter_ownVerdict, filter_ownIntroduction, hrules, hnone]
  simp [Directive.appendsTo]

/-- In a table whose chains can be told apart, these are the rules of the one chain. -/
theorem filter_directives (h : SoundChains t) {c : Chain} (hc : c ∈ t.chains) :
    (directives t).filter (Directive.appendsTo (chainName c.name)) = ownRules t.chainNames c := by
  rw [directives_eq_arranged, filter_arranged, filter_chains h hc, List.flatMap_singleton]

/-- **The order of chains.** A table compiles in every order of its chains or in none. Its lines in
two orders are the same but for their places: the header and the commit stay, each block follows the
order of the chains, and the rules of a chain stay together in their order. -/
theorem compileTable_rearranged (h : cs.Perm t.chains) :
    ((∃ es, compileTable ⟨t.name, cs⟩ = .ok es) ↔ ∃ ds, compileTable t = .ok ds) ∧
    ∀ ds es, compileTable t = .ok ds → compileTable ⟨t.name, cs⟩ = .ok es →
      es.Perm ds ∧
      (ds.head? = some (.table t.name) ∧ es.head? = some (.table t.name)) ∧
      (ds.getLast? = some .commit ∧ es.getLast? = some .commit) ∧
      (ds = arranged t.name t.chainNames t.chains ∧ es = arranged t.name t.chainNames cs) ∧
      ∀ c ∈ t.chains,
        ds.filter (Directive.appendsTo (chainName c.name)) = ownRules t.chainNames c ∧
        es.filter (Directive.appendsTo (chainName c.name)) = ownRules t.chainNames c := by
  have hlast : ∀ ds : List Chain,
      (arranged t.name t.chainNames ds).getLast? = some .commit := by
    intro ds
    rw [arranged, ← List.cons_append, List.getLast?_append]
    rfl
  refine ⟨?_, fun ds es hds hes => ?_⟩
  · simp only [compileTable_eq_ok_iff, exists_and_left, exists_eq', and_true]
    exact faultless_rearranged_iff h
  · obtain ⟨hf, rfl⟩ := compileTable_eq_ok_iff.1 hds
    obtain ⟨-, rfl⟩ := compileTable_eq_ok_iff.1 hes
    have hrules := fun c hc => @filter_directives t hf.toSoundChains c hc
    rw [directives_eq_arranged t] at hrules ⊢
    rw [directives_rearranged]
    refine ⟨perm_arranged h, ⟨rfl, rfl⟩, ⟨hlast _, hlast _⟩, ⟨rfl, rfl⟩, fun c hc => ?_⟩
    refine ⟨hrules c hc, ?_⟩
    have hfilter := h.filter fun d => chainName d.name == chainName c.name
    rw [filter_chains hf.toSoundChains hc, List.perm_singleton] at hfilter
    rw [filter_arranged, hfilter, List.flatMap_singleton]

/-- The table whose chains jump to each other, with its chains in the reverse order. -/
theorem compileTable_rearranged_cycleTable :
    cycleTable.chains.reverse.Perm cycleTable.chains ∧
    ∃ ds es, compileTable cycleTable = .ok ds ∧
      compileTable ⟨cycleTable.name, cycleTable.chains.reverse⟩ = .ok es ∧ es.Perm ds ∧ es ≠ ds := by
  have hperm : cycleTable.chains.reverse.Perm cycleTable.chains := List.reverse_perm _
  obtain ⟨hiff, hlines⟩ := compileTable_rearranged hperm
  have hds := compileTable_of_isEmpty (t := cycleTable) (by decide +kernel)
  obtain ⟨es, hes⟩ := hiff.2 ⟨_, hds⟩
  obtain ⟨hsame, -⟩ := hlines _ es hds hes
  refine ⟨hperm, _, es, hds, hes, hsame, ?_⟩
  obtain ⟨-, rfl⟩ := compileTable_eq_ok_iff.1 hes
  decide +kernel

end Firewall.Ruleset
