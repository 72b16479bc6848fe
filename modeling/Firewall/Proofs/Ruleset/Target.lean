import Firewall.Proofs.Ruleset.Checks
import Firewall.Proofs.Text.LetterCase

/-!
# Where actions lead

Whether a name is known is decided in lower case, and it is written in upper case. The two agree for
verdicts and for declared chains. For extension targets they agree up to Kelvin signs, whose lower
case is a letter and whose upper case is not: `denotes_targetWord_iff` gives the word after the jump
flag of every rule, and says when it is what the action denotes.
-/

namespace Firewall.Ruleset

open Text (kelvinSign readKelvin isAscii)

/-- The word that an action denotes in a table: a verdict in any letter case, else the declared
chain of exactly that name, else an extension target in any letter case. -/
inductive Denotes (t : Table) (action : String) : String → Prop
  | verdict {v : Verdict} (hv : Verdict.ofName? action = some v) :
      Denotes t action (Text.upper v.name)
  | chain {c : Chain} (hv : Verdict.ofName? action = none) (hc : t.chain? action = some c) :
      Denotes t action (chainName c.name)
  | extension (hv : Verdict.ofName? action = none) (hc : t.chain? action = none)
      (he : Text.lower action ∈ extensionTargets) : Denotes t action (Text.lower action).toUpper

theorem targetWord_eq (declared : List String) (action : String) :
    targetWord declared action = Text.upper action := by
  unfold targetWord chainName
  split <;> rfl

/-! ## Names in ASCII -/

theorem ascii_verdict_name (v : Verdict) : ∀ d ∈ v.name.toList, isAscii d = true := by
  have h : v.name.toList.all isAscii = true := by cases v <;> decide +kernel
  exact List.all_eq_true.1 h

theorem ascii_extensionTargets :
    ∀ n ∈ extensionTargets, ∀ d ∈ n.toList, isAscii d = true := by
  have h : ∀ n ∈ extensionTargets, n.toList.all isAscii = true := by decide +kernel
  exact fun n hn => List.all_eq_true.1 (h n hn)

theorem kelvinSign_not_mem_of_ofName? {action : String} {v : Verdict}
    (hv : Verdict.ofName? action = some v) : kelvinSign ∉ action.toList := by
  intro hk
  have hmem : 'k' ∈ (Text.lower action).toList := by
    rw [Text.toList_lower]
    exact List.mem_flatMap.2 ⟨kelvinSign, hk, by decide +kernel⟩
  rw [Verdict.lower_eq_of_ofName? hv] at hmem
  revert hmem
  cases v <;> decide +kernel

theorem ascii_lower_of_ofName? {action : String} {v : Verdict}
    (hv : Verdict.ofName? action = some v) :
    ∀ d ∈ (Text.lower action).toList, isAscii d = true :=
  Verdict.lower_eq_of_ofName? hv ▸ ascii_verdict_name v

theorem upper_of_ofName? {action : String} {v : Verdict}
    (hv : Verdict.ofName? action = some v) : Text.upper action = Text.upper v.name := by
  rw [(Text.upper_eq_toUpper_lower_iff (ascii_lower_of_ofName? hv)).2
    (kelvinSign_not_mem_of_ofName? hv), Verdict.lower_eq_of_ofName? hv]
  cases v <;> decide +kernel

/-! ## The word of an action -/

variable {t : Table} {action : String}

theorem chain?_eq_none_iff : t.chain? action = none ↔ action ∉ t.chainNames := by
  rw [← Table.chain?_isSome, ← Option.not_isSome_iff_eq_none]

/-- An action that resolves is a verdict, a declared chain or an extension target. -/
theorem action_cases (h : isTarget t.chainNames action = true ∨ action ∈ t.chainNames) :
    (∃ v, Verdict.ofName? action = some v) ∨
    (Verdict.ofName? action = none ∧ ∃ c, t.chain? action = some c) ∨
    (Verdict.ofName? action = none ∧ t.chain? action = none ∧
      Text.lower action ∈ extensionTargets) := by
  cases hv : Verdict.ofName? action with
  | some v => exact .inl ⟨v, rfl⟩
  | none =>
    cases hc : t.chain? action with
    | some c => exact .inr (.inl ⟨rfl, c, rfl⟩)
    | none =>
      have hn := chain?_eq_none_iff.1 hc
      exact .inr (.inr ⟨rfl, rfl, by simpa [isTarget, hv, hn] using h⟩)

theorem denotes_upper_of_verdict {v : Verdict} (hv : Verdict.ofName? action = some v) :
    Denotes t action (Text.upper action) :=
  upper_of_ofName? hv ▸ .verdict hv

theorem denotes_upper_of_chain {c : Chain} (hv : Verdict.ofName? action = none)
    (hc : t.chain? action = some c) : Denotes t action (Text.upper action) := by
  have hn : c.name = action := by simpa using List.find?_some hc
  exact hn ▸ .chain (hn ▸ hv) (hn ▸ hc)

/-- An extension target denotes its name in upper case, and no other word. -/
theorem denotes_iff_of_extension {word : String} (hv : Verdict.ofName? action = none)
    (hc : t.chain? action = none) (he : Text.lower action ∈ extensionTargets) :
    Denotes t action word ↔ word = (Text.lower action).toUpper := by
  constructor
  · rintro (⟨hv'⟩ | ⟨-, hc'⟩ | -)
    · rw [hv] at hv'; cases hv'
    · rw [hc] at hc'; cases hc'
    · rfl
  · rintro rfl
    exact .extension hv hc he

/-- **Targets of rules.** The line of every rule of a table that compiles has one word after its
jump flag. It is what the action denotes, except for an extension target spelled with a Kelvin sign;
and there it is so again once its Kelvin signs are read as letters. -/
theorem denotes_targetWord_iff {ds : List Directive} (h : compileTable t = .ok ds) {c : Chain}
    (hc : c ∈ t.chains) {r : Rule} (hr : r ∈ c.rules) :
    Directive.ofRule c r t.chainNames ∈ ds ∧
    (Directive.ofRule c r t.chainNames).tokens =
      "-A" :: chainName c.name :: (conditionTokens r.conditions ++
        "-j" :: targetWord t.chainNames (r.effectiveAction c) :: optionTokens r.options) ∧
    (Denotes t (r.effectiveAction c) (targetWord t.chainNames (r.effectiveAction c)) ↔
      r.effectiveAction c ∈ t.chainNames ∨ kelvinSign ∉ (r.effectiveAction c).toList) ∧
    (r.effectiveAction c ∉ t.chainNames → Denotes t (r.effectiveAction c)
      ((targetWord t.chainNames (r.effectiveAction c)).map readKelvin)) := by
  obtain ⟨hf, rfl⟩ := compileTable_eq_ok_iff.1 h
  refine ⟨ofRule_mem_directives hc hr, rfl, ?_⟩
  rw [targetWord_eq]
  generalize ha : r.effectiveAction c = action
  obtain ⟨v, hv⟩ | ⟨hv, d, hd⟩ | ⟨hv, hd, he⟩ := action_cases (ha ▸ hf.resolves c hc r hr)
  · have hk := kelvinSign_not_mem_of_ofName? hv
    have hascii := ascii_lower_of_ofName? hv
    have hd : Denotes t action (Text.upper action) := denotes_upper_of_verdict hv
    rw [Text.upper_readKelvin hascii, ← (Text.upper_eq_toUpper_lower_iff hascii).2 hk]
    exact ⟨⟨fun _ => .inr hk, fun _ => hd⟩, fun _ => hd⟩
  · have hn : action ∈ t.chainNames := by
      by_contra hn
      rw [chain?_eq_none_iff.2 hn] at hd
      cases hd
    exact ⟨⟨fun _ => .inl hn, fun _ => denotes_upper_of_chain hv hd⟩, fun h => absurd hn h⟩
  · have hascii := ascii_extensionTargets _ he
    have hn := chain?_eq_none_iff.1 hd
    rw [Text.upper_readKelvin hascii, denotes_iff_of_extension hv hd he,
      Text.upper_eq_toUpper_lower_iff hascii]
    exact ⟨by simp [hn], fun _ => .extension hv hd he⟩

/-- A rule that names an extension target in mixed case. -/
def redirectRule : Rule :=
  ⟨[⟨"protocol", .str "tcp"⟩], some "Redirect", [⟨"to-ports", .int 80⟩]⟩

/-- A chain with a default verdict, a jump to a chain that hides an extension target, and an
extension target. -/
def outputChain : Chain :=
  ⟨"Output", some .accept, some "Drop", [⟨[], none, []⟩, ⟨[], some "mark", []⟩, redirectRule]⟩

/-- A table with targets of every kind. -/
def mixedTargets : Table := ⟨"nat", [outputChain, ⟨"mark", none, none, []⟩]⟩

theorem denotes_mixedTargets :
    compileTable mixedTargets = .ok (directives mixedTargets) ∧
    outputChain ∈ mixedTargets.chains ∧ redirectRule ∈ outputChain.rules ∧
    Denotes mixedTargets "Redirect" "REDIRECT" := by
  have h := compileTable_of_isEmpty (t := mixedTargets) (by decide +kernel)
  have hc : outputChain ∈ mixedTargets.chains := by simp [mixedTargets]
  have hr : redirectRule ∈ outputChain.rules := by simp [outputChain]
  have hd := (denotes_targetWord_iff h hc hr).2.2.1.2 (.inr (by decide +kernel))
  have hw : targetWord mixedTargets.chainNames (redirectRule.effectiveAction outputChain) =
      "REDIRECT" := by decide +kernel
  exact ⟨h, hc, hr, hw ▸ hd⟩

/-- A table whose only rule names an extension target with a Kelvin sign. -/
def kelvinTable : Table := ⟨"filter", [⟨"input", none, none, [⟨[], some "mar\u212A", []⟩]⟩]⟩

/-- The table compiles, and its rule leads to a word that denotes no verdict, no declared chain and
no extension target. -/
theorem not_denotes_kelvinTable :
    compileTable kelvinTable = .ok (directives kelvinTable) ∧
    (directives kelvinTable).map (·.tokens) =
      [["*filter"], ["-A", "INPUT", "-j", "MAR\u212A"], ["COMMIT"]] ∧
    ¬ Denotes kelvinTable "mar\u212A" "MAR\u212A" := by
  have hv : Verdict.ofName? "mar\u212A" = none := by decide +kernel
  have hc : kelvinTable.chain? "mar\u212A" = none := chain?_eq_none_iff.2 (by decide +kernel)
  have he : Text.lower "mar\u212A" ∈ extensionTargets := by decide +kernel
  refine ⟨compileTable_of_isEmpty (by decide +kernel), by decide +kernel, ?_⟩
  rw [denotes_iff_of_extension hv hc he]
  decide +kernel

end Firewall.Ruleset
