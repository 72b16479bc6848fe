import Firewall.Proofs.Ruleset.Rearranging
import Firewall.Proofs.Ruleset.Resolution

/-!
# A new chain

`compileTable_inserted`: a chain without rules that is written like no other may be declared
anywhere in a table that compiles. The table still compiles, each block of its lines keeps its lines
and gets at most one of the new chain, and the rules are the same. A rule may change its meaning: an
action that was an extension target is a jump if the new chain has its name. It is accepted and
written as before.

1. An action that is a target stays one unless it is the name of the new chain
   (`isTarget_cons_iff`), and then it is declared.
2. With the new chain in front the table has no fault (`Faultless.cons`), and so it has none
   wherever the chain stands.
3. A line of a rule does not depend on the declared names (`ownRules_congr`).
-/

namespace Firewall.Ruleset

/-! ## One more declared name -/

theorem isTarget_cons_iff {declared : List String} {name action : String} :
    isTarget (name :: declared) action = true ↔
      isTarget declared action = true ∧
        (action = name → (Verdict.ofName? action).isSome = true) := by
  rw [isTarget_eq_true_iff, isTarget_eq_true_iff, List.mem_cons, not_or]
  constructor
  · rintro (hv | ⟨⟨hne, hd⟩, he⟩)
    · exact ⟨.inl hv, fun _ => hv⟩
    · exact ⟨.inr ⟨hd, he⟩, fun h => absurd h hne⟩
  · rintro ⟨hv | ⟨hd, he⟩, hname⟩
    · exact .inl hv
    · by_cases hne : action = name
      · exact .inl (hname hne)
      · exact .inr ⟨⟨hne, hd⟩, he⟩

/-- An action that leads somewhere still does so after one more declaration. -/
theorem resolves_cons {declared : List String} {name action : String}
    (h : isTarget declared action = true ∨ action ∈ declared) :
    isTarget (name :: declared) action = true ∨ action ∈ name :: declared := by
  by_cases hne : action = name
  · exact .inr (hne ▸ List.mem_cons_self)
  · refine h.imp (fun ht => isTarget_cons_iff.2 ⟨ht, fun hname => absurd hname hne⟩) ?_
    exact List.mem_cons_of_mem name

/-! ## The new chain in front -/

variable {table : String} {cs before after : List Chain} {c : Chain}

theorem Faultless.cons (h : Faultless ⟨table, cs⟩) (hrules : c.rules = [])
    (hname : chainName c.name ∉ writtenNames ⟨table, cs⟩)
    (hverdict : c.verdict.isSome = true → isBuiltin c.name table = true) :
    Faultless ⟨table, c :: cs⟩ where
  nodup := List.nodup_cons.2 ⟨hname, h.nodup⟩
  verdict_builtin := List.forall_mem_cons.2 ⟨hverdict, h.verdict_builtin⟩
  resolves := by
    refine List.forall_mem_cons.2 ⟨?_, fun d hd r hr => resolves_cons (h.resolves d hd r hr)⟩
    rw [hrules]
    exact List.forall_mem_nil _
  writable := by
    refine List.forall_mem_cons.2 ⟨?_, h.writable⟩
    rw [hrules]
    exact List.forall_mem_nil _

theorem ownRules_congr (declared names : List String) (c : Chain) :
    ownRules declared c = ownRules names c :=
  List.map_congr_left fun r _ => ofRule_congr c r declared names

theorem ruleLines_inserted (hrules : c.rules = []) :
    ruleLines ⟨table, before ++ c :: after⟩ = ruleLines ⟨table, before ++ after⟩ := by
  show (before ++ c :: after).flatMap (ownRules _) = (before ++ after).flatMap (ownRules _)
  have hnone (declared : List String) : ownRules declared c = [] := by
    rw [ownRules, hrules, List.map_nil]
  rw [List.flatMap_append, List.flatMap_cons, hnone, List.nil_append, List.flatMap_append]
  congr 1 <;> exact List.flatMap_congr fun d _ => ownRules_congr _ _ d

/-- **A new chain.** A chain without rules that is written like no other chain, and has a verdict
only if it is built in, may be inserted anywhere among the chains of a table that compiles. The new
table compiles to the same lines with those of the new chain inserted: its verdict, if it has one,
among the verdicts, and its introduction, if it is not built in, among the introductions. An action
that is no target any more is the name of the new chain and of an extension target. -/
theorem compileTable_inserted {ds : List Directive}
    (h : compileTable ⟨table, before ++ after⟩ = .ok ds) (hrules : c.rules = [])
    (hname : chainName c.name ∉ writtenNames ⟨table, before ++ after⟩)
    (hverdict : c.verdict.isSome = true → isBuiltin c.name table = true) :
    ∃ rules, rules = ruleLines ⟨table, before ++ after⟩ ∧
      ds = .table table ::
        ((before.flatMap ownVerdict ++ after.flatMap ownVerdict) ++
          (before.flatMap (ownIntroduction table) ++ after.flatMap (ownIntroduction table)) ++
          rules ++ [.commit]) ∧
      compileTable ⟨table, before ++ c :: after⟩ = .ok (.table table ::
        ((before.flatMap ownVerdict ++ ownVerdict c ++ after.flatMap ownVerdict) ++
          (before.flatMap (ownIntroduction table) ++ ownIntroduction table c ++
            after.flatMap (ownIntroduction table)) ++
          rules ++ [.commit])) ∧
      ∀ action, isTarget (Table.chainNames ⟨table, before ++ after⟩) action = true →
        isTarget (Table.chainNames ⟨table, before ++ c :: after⟩) action = false →
        action = c.name ∧ Text.lower action ∈ extensionTargets := by
  obtain ⟨hf, rfl⟩ := compileTable_eq_ok_iff.1 h
  have hperm : (before ++ c :: after).Perm (c :: (before ++ after)) := List.perm_middle
  refine ⟨_, rfl, ?_, compileTable_eq_ok_iff.2 ⟨?_, ?_⟩, fun action ht hn => ?_⟩
  · rw [directives_eq_arranged, arranged, List.flatMap_append, List.flatMap_append]
    rfl
  · exact @faultless_rearranged ⟨table, _⟩ _ hperm (hf.cons hrules hname hverdict)
  · have hblock (lines : Chain → List Directive) :
        (before ++ c :: after).flatMap lines =
          before.flatMap lines ++ lines c ++ after.flatMap lines := by
      rw [List.flatMap_append, List.flatMap_cons, List.append_assoc]
    rw [← ruleLines_inserted hrules, directives_eq_arranged, arranged]
    dsimp only
    rw [hblock ownVerdict, hblock (ownIntroduction table)]
    rfl
  · have hmem (n : String) : n ∈ Table.chainNames ⟨table, before ++ c :: after⟩ ↔
        n ∈ c.name :: Table.chainNames ⟨table, before ++ after⟩ := (hperm.map _).mem_iff
    rw [isTarget_congr hmem, ← Bool.not_eq_true, isTarget_cons_iff, and_iff_right ht,
      Classical.not_imp] at hn
    obtain ⟨haction, hv⟩ := hn
    exact ⟨haction, ((isTarget_eq_true_iff.1 ht).resolve_left hv).2⟩

/-- A chain with a rule whose action is an extension target. -/
def loggingChain : Chain :=
  ⟨"input", none, none, [⟨[], some "log", [⟨"log-prefix", .str "in: "⟩]⟩]⟩

def droppingChain : Chain := ⟨"output", some .drop, none, []⟩

/-- A chain with the name of the extension target makes the rule a jump to it, and only introduces
itself. -/
theorem compileTable_inserted_logChain :
    isTarget ["input", "output"] "log" = true ∧ isTarget ["input", "log", "output"] "log" = false ∧
    ∃ rules, compileTable ⟨"filter", [loggingChain, droppingChain]⟩ =
        .ok (.table "filter" :: .verdict "output" .drop :: (rules ++ [.commit])) ∧
      compileTable ⟨"filter", [loggingChain, logChain, droppingChain]⟩ =
        .ok (.table "filter" :: .verdict "output" .drop :: .newChain "log" ::
          (rules ++ [.commit])) := by
  have h : compileTable ⟨"filter", [loggingChain, droppingChain]⟩ = .ok _ :=
    compileTable_of_isEmpty (by decide +kernel)
  obtain ⟨rules, -, hds, hes, -⟩ :=
    @compileTable_inserted "filter" [loggingChain] [droppingChain] logChain _ h rfl
      (by decide +kernel) (fun hv => absurd hv (by decide))
  have hnews : [loggingChain].flatMap (ownIntroduction "filter") = [] ∧
      ownIntroduction "filter" logChain = [.newChain "log"] ∧
      [droppingChain].flatMap (ownIntroduction "filter") = [] := by
    decide +kernel
  obtain ⟨hbefore, hnew, hafter⟩ := hnews
  rw [hbefore, hafter] at hds hes
  rw [hnew] at hes
  exact ⟨by decide +kernel, by decide +kernel, rules, h.trans (congrArg _ hds), hes⟩

end Firewall.Ruleset
