import Firewall.Proofs.Failure
import Firewall.Proofs.Ruleset.Resolution

/-!
# The fault that is reported

`reports_iff`: a table fails to compile exactly when two of its chains are written alike, a chain
that is not built in has a verdict, an action leads nowhere, or a value has no text, and it fails
with the first fault. Faults of chains come before faults of jumps, wherever they stand, and both
before values without texts; of faults of one sort the first one in order of declaration counts. A
policy fails as the first of its tables that does. The last sort of fault is needed
(`not_reports_longNumber`).

1. The faults after some chains are those that come after them in the whole table
   (`chainFaultsAfter_append`), so that the first one belongs to a chain before which there is none
   (`head?_chainFaultsAfter`).
2. Among chains that can be told apart, the one that a later chain clashes with is unique
   (`clash?_eq_some_iff`).
-/

namespace Firewall.Ruleset

/-- The action is no verdict, no extension target, and no exact name of a declared chain. -/
structure Unresolved (t : Table) (action : String) : Prop where
  not_verdict : Verdict.ofName? action = none
  not_extension : Text.lower action ∉ extensionTargets
  not_declared : action ∉ t.chainNames

/-- What a table reports: the first of its faults. -/
inductive Reports (t : Table) : PolicyFault → Prop
  /-- The chain is written like exactly one of those before it, which have no fault. -/
  | sameName {before : List Chain} {c : Chain} {after : List Chain} {first : Chain}
      (chains : t.chains = before ++ c :: after) (sound : SoundChains ⟨t.name, before⟩)
      (mem : first ∈ before) (alike : chainName first.name = chainName c.name)
      (unique : ∀ d ∈ before, chainName d.name = chainName c.name → d = first) :
      Reports t (.sameName t.name first.name c.name (chainName c.name))
  /-- The chain has a verdict and is not built in, and is written like none of those before it,
  which have no fault. -/
  | misplacedVerdict {before : List Chain} {c : Chain} {after : List Chain}
      (chains : t.chains = before ++ c :: after) (sound : SoundChains ⟨t.name, before⟩)
      (new : ∀ d ∈ before, chainName d.name ≠ chainName c.name)
      (verdict : c.verdict.isSome = true) (custom : isBuiltin c.name t.name = false) :
      Reports t (.misplacedVerdict t.name c.name)
  /-- The chains have no fault, and the rule is the first one whose action leads nowhere. -/
  | unresolvedJump {before : List Chain} {c : Chain} {after : List Chain} {earlier : List Rule}
      {r : Rule} {later : List Rule} (sound : SoundChains t)
      (chains : t.chains = before ++ c :: after) (rules : c.rules = earlier ++ r :: later)
      (before_resolved : ∀ d ∈ before, ∀ q ∈ d.rules, ¬ Unresolved t (q.effectiveAction d))
      (earlier_resolved : ∀ q ∈ earlier, ¬ Unresolved t (q.effectiveAction c))
      (unresolved : Unresolved t (r.effectiveAction c)) :
      Reports t (.unresolvedJump t.name c.name (earlier.length + 1) (r.effectiveAction c))
  /-- The chains and the jumps have no fault, and a rule has a value without a text. -/
  | noText {c : Chain} {r : Rule} (sound : SoundChains t)
      (resolved : ∀ d ∈ t.chains, ∀ q ∈ d.rules, ¬ Unresolved t (q.effectiveAction d))
      (chain_mem : c ∈ t.chains) (rule_mem : r ∈ c.rules) (unwritable : isWritable r = false) :
      Reports t .noText

variable {t : Table} {f : PolicyFault}

theorem firstFault_eq_error_iff {fs : List PolicyFault} :
    firstFault fs = .error f ↔ fs.head? = some f := by
  cases fs <;> simp [firstFault]

theorem compileTable_eq_error_iff : compileTable t = .error f ↔ (faults t).head? = some f := by
  rw [compileTable, bind_eq_error_iff, firstFault_eq_error_iff]
  simp [pure, Except.pure]

/-! ## Chains -/

/-- The names of chains as a ruleset writes them, with the names as they are declared. -/
def writtenPairs (cs : List Chain) : List (String × String) :=
  cs.map fun c => (chainName c.name, c.name)

theorem chainFaultsAfter_append {earlier : List (String × String)} {before after : List Chain} :
    chainFaultsAfter t earlier (before ++ after) =
      chainFaultsAfter t earlier before ++
        chainFaultsAfter t (earlier ++ writtenPairs before) after := by
  induction before generalizing earlier with
  | nil => simp [chainFaultsAfter, writtenPairs]
  | cons c rest ih => simp [chainFaultsAfter, writtenPairs, ih]

/-- The first fault of chains is that of a chain before which there is none. -/
theorem head?_chainFaultsAfter {earlier : List (String × String)} {cs : List Chain} :
    (chainFaultsAfter t earlier cs).head? = some f ↔
      ∃ before c after, cs = before ++ c :: after ∧ chainFaultsAfter t earlier before = [] ∧
        (clash? t (earlier ++ writtenPairs before) c = some f ∨
          clash? t (earlier ++ writtenPairs before) c = none ∧ misplacedVerdict? t c = some f) := by
  constructor
  · intro h
    induction cs generalizing earlier with
    | nil => cases h
    | cons c rest ih =>
      rw [chainFaultsAfter, List.head?_append, List.head?_append, Option.head?_toList,
        Option.head?_toList, Option.or_eq_some_iff, Option.or_eq_some_iff] at h
      obtain hc | ⟨hnone, hrest⟩ := h
      · exact ⟨[], c, rest, rfl, rfl, by simpa [writtenPairs] using hc⟩
      · obtain ⟨before, d, after, rfl, hbefore, hd⟩ := ih hrest
        obtain ⟨hclash, hmisplaced⟩ := Option.or_eq_none_iff.1 hnone
        refine ⟨c :: before, d, after, rfl, ?_, ?_⟩
        · rw [chainFaultsAfter, hclash, hmisplaced, hbefore]
          rfl
        · simpa [writtenPairs] using hd
  · rintro ⟨before, c, after, rfl, hbefore, hc⟩
    rw [chainFaultsAfter_append, hbefore, List.nil_append, chainFaultsAfter, List.head?_append,
      List.head?_append, Option.head?_toList, Option.head?_toList]
    obtain hc | ⟨hnone, hc⟩ := hc
    · rw [hc]
      rfl
    · rw [hnone, hc]
      rfl

/-- The declared name of a written one is that of the first chain that is written so. -/
theorem lookup_writtenPairs {cs : List Chain} {name : String} :
    (writtenPairs cs).lookup name =
      (cs.find? fun c => chainName c.name == name).map (·.name) := by
  induction cs with
  | nil => rfl
  | cons c rest ih =>
    unfold writtenPairs at ih ⊢
    rw [List.map_cons, List.lookup_cons, List.find?_cons, ih, BEq.comm]
    cases chainName c.name == name <;> rfl

/-- Among chains that can be told apart, at most one is written like another chain. -/
theorem clash?_eq_some_iff {before : List Chain} {c : Chain}
    (h : SoundChains ⟨t.name, before⟩) :
    clash? t (writtenPairs before) c = some f ↔
      ∃ first ∈ before, chainName first.name = chainName c.name ∧
        (∀ d ∈ before, chainName d.name = chainName c.name → d = first) ∧
        f = .sameName t.name first.name c.name (chainName c.name) := by
  rw [clash?, lookup_writtenPairs, Option.map_map, Option.map_eq_some_iff]
  constructor
  · rintro ⟨first, hfind, rfl⟩
    have hmem : first ∈ before := List.mem_of_find?_eq_some hfind
    have halike : chainName first.name = chainName c.name := by
      simpa using List.find?_some hfind
    refine ⟨first, hmem, halike, fun d hd hdc => ?_, rfl⟩
    exact h.eq_of_chainName_eq hd hmem (hdc.trans halike.symm)
  · rintro ⟨first, hmem, halike, hunique, rfl⟩
    have hsome : (before.find? fun d => chainName d.name == chainName c.name).isSome = true := by
      rw [List.find?_isSome]
      exact ⟨first, hmem, by simpa using halike⟩
    obtain ⟨d, hd⟩ := Option.isSome_iff_exists.1 hsome
    have hdc : chainName d.name = chainName c.name := by simpa using List.find?_some hd
    refine ⟨d, hd, ?_⟩
    rw [← hunique d (List.mem_of_find?_eq_some hd) hdc]
    rfl

theorem misplacedVerdict?_eq_some_iff {c : Chain} :
    misplacedVerdict? t c = some f ↔
      c.verdict.isSome = true ∧ isBuiltin c.name t.name = false ∧
        f = .misplacedVerdict t.name c.name := by
  unfold misplacedVerdict?
  cases c.verdict <;> cases isBuiltin c.name t.name <;> simp [eq_comm]

theorem chainFaultsAfter_nil_eq_nil_iff {cs : List Chain} :
    chainFaultsAfter t [] cs = [] ↔ SoundChains ⟨t.name, cs⟩ := by
  rw [← chainFaults_eq_nil_iff, chainFaultsAfter_eq_nil_iff, chainFaults,
    chainFaultsAfter_eq_nil_iff]

/-! ## Jumps -/

theorem unresolved_iff {action : String} :
    Unresolved t action ↔ isTarget t.chainNames action = false ∧ action ∉ t.chainNames := by
  rw [← Bool.not_eq_true, isTarget_eq_true_iff, not_or, Option.not_isSome_iff_eq_none]
  constructor
  · intro h
    exact ⟨⟨h.not_verdict, fun hn => h.not_extension hn.2⟩, h.not_declared⟩
  · rintro ⟨⟨hv, hn⟩, hd⟩
    exact ⟨hv, fun he => hn ⟨hd, he⟩, hd⟩

theorem jumpFault?_eq_some_iff {c : Chain} {position : Nat} {r : Rule} :
    jumpFault? t c position r = some f ↔
      Unresolved t (r.effectiveAction c) ∧
        f = .unresolvedJump t.name c.name position (r.effectiveAction c) := by
  constructor
  · intro h
    obtain ⟨hf, hu⟩ := eq_of_jumpFault?_eq_some h
    exact ⟨unresolved_iff.2 hu, hf⟩
  · rintro ⟨hu, rfl⟩
    obtain ⟨ht, hd⟩ := unresolved_iff.1 hu
    simp [jumpFault?, ht, hd]

theorem jumpFault?_eq_none_iff_not {c : Chain} {position : Nat} {r : Rule} :
    jumpFault? t c position r = none ↔ ¬ Unresolved t (r.effectiveAction c) := by
  rw [jumpFault?_eq_none_iff, unresolved_iff, not_and_or, Bool.not_eq_false, not_not]

theorem jumpFaultsFrom_eq_nil_iff_not {c : Chain} {position : Nat} {rs : List Rule} :
    jumpFaultsFrom t c position rs = [] ↔ ∀ r ∈ rs, ¬ Unresolved t (r.effectiveAction c) := by
  rw [jumpFaultsFrom_eq_nil_iff]
  refine forall₂_congr fun r _ => ?_
  rw [← @jumpFault?_eq_none_iff_not t c position r, jumpFault?_eq_none_iff]

theorem jumpsResolve_iff_not :
    JumpsResolve t ↔ ∀ c ∈ t.chains, ∀ r ∈ c.rules, ¬ Unresolved t (r.effectiveAction c) := by
  rw [← jumpFaults_eq_nil_iff, jumpFaults, List.flatMap_eq_nil_iff]
  exact forall₂_congr fun c _ => jumpFaultsFrom_eq_nil_iff_not

/-- The first fault of the jumps of a chain is that of the first rule whose action leads nowhere, at
its position. -/
theorem head?_jumpFaultsFrom {c : Chain} {position : Nat} {rs : List Rule} :
    (jumpFaultsFrom t c position rs).head? = some f ↔
      ∃ earlier r later, rs = earlier ++ r :: later ∧
        (∀ q ∈ earlier, ¬ Unresolved t (q.effectiveAction c)) ∧
        Unresolved t (r.effectiveAction c) ∧
        f = .unresolvedJump t.name c.name (earlier.length + position) (r.effectiveAction c) := by
  induction rs generalizing position with
  | nil => simp [jumpFaultsFrom]
  | cons r rest ih =>
    rw [jumpFaultsFrom, List.head?_append, Option.head?_toList, Option.or_eq_some_iff, ih,
      jumpFault?_eq_some_iff, jumpFault?_eq_none_iff_not]
    constructor
    · rintro (⟨hu, rfl⟩ | ⟨hr, earlier, q, later, rfl, hearlier, hu, rfl⟩)
      · exact ⟨[], r, rest, rfl, by simp, hu, by simp⟩
      · refine ⟨r :: earlier, q, later, rfl, List.forall_mem_cons.2 ⟨hr, hearlier⟩, hu, ?_⟩
        rw [List.length_cons, Nat.add_right_comm, Nat.add_assoc]
    · rintro ⟨earlier, q, later, h, hearlier, hu, rfl⟩
      obtain ⟨rfl, hh⟩ | ⟨earlier, rfl, rfl⟩ := List.cons_eq_append_iff.1 h
      · obtain ⟨rfl, rfl⟩ := List.cons.inj hh
        exact .inl ⟨hu, by simp⟩
      · obtain ⟨hr, hearlier⟩ := List.forall_mem_cons.1 hearlier
        refine .inr ⟨hr, earlier, q, later, rfl, hearlier, hu, ?_⟩
        rw [List.length_cons, Nat.add_right_comm, Nat.add_assoc]

/-! ## The first fault -/

theorem head?_chainFaults :
    (chainFaults t).head? = some f ↔
      ∃ before c after, t.chains = before ++ c :: after ∧ SoundChains ⟨t.name, before⟩ ∧
        (clash? t (writtenPairs before) c = some f ∨
          clash? t (writtenPairs before) c = none ∧ misplacedVerdict? t c = some f) := by
  simp only [chainFaults, head?_chainFaultsAfter, chainFaultsAfter_nil_eq_nil_iff, List.nil_append]

theorem head?_jumpFaults :
    (jumpFaults t).head? = some f ↔
      ∃ before c after, t.chains = before ++ c :: after ∧
        (jumpFaultsFrom t c 1 c.rules).head? = some f ∧
        ∀ d ∈ before, ∀ q ∈ d.rules, ¬ Unresolved t (q.effectiveAction d) := by
  rw [jumpFaults, List.head?_flatMap, List.findSome?_eq_some_iff]
  simp only [List.head?_eq_none_iff, jumpFaultsFrom_eq_nil_iff_not]

theorem head?_textFaults :
    (textFaults t).head? = some f ↔
      f = .noText ∧ ∃ c ∈ t.chains, ∃ r ∈ c.rules, isWritable r = false := by
  have hall : ∀ g ∈ textFaults t, g = .noText := by
    intro g hg
    simp only [textFaults, List.mem_flatMap, List.mem_map] at hg
    obtain ⟨-, -, -, -, rfl⟩ := hg
    rfl
  have hnil : textFaults t ≠ [] ↔ ∃ c ∈ t.chains, ∃ r ∈ c.rules, isWritable r = false := by
    rw [Ne, textFaults_eq_nil_iff]
    simp
  rw [← hnil]
  cases h : textFaults t with
  | nil => simp
  | cons g rest =>
    have hg : g = .noText := hall g (by rw [h]; exact List.mem_cons_self)
    simp [hg, eq_comm]

/-- A table fails to compile exactly with what it reports. -/
theorem compileTable_eq_error_iff_reports : compileTable t = .error f ↔ Reports t f := by
  rw [compileTable_eq_error_iff, faults, List.append_assoc, List.head?_append, List.head?_append,
    Option.or_eq_some_iff, Option.or_eq_some_iff, List.head?_eq_none_iff, List.head?_eq_none_iff,
    chainFaults_eq_nil_iff, jumpFaults_eq_nil_iff, jumpsResolve_iff_not, head?_chainFaults,
    head?_jumpFaults, head?_textFaults]
  constructor
  · rintro (⟨before, c, after, hchains, hsound, hc⟩ |
      ⟨hsound, ⟨before, c, after, hchains, hc, hbefore⟩ | ⟨hresolved, rfl, c, hc, r, hr, hw⟩⟩)
    · rw [clash?_eq_some_iff hsound, misplacedVerdict?_eq_some_iff, clash?_eq_none_iff] at hc
      obtain ⟨first, hmem, halike, hunique, rfl⟩ | ⟨hnew, hverdict, hcustom, rfl⟩ := hc
      · exact .sameName hchains hsound hmem halike hunique
      · refine .misplacedVerdict hchains hsound (fun d hd hdc => hnew ?_) hverdict hcustom
        rw [writtenPairs, List.map_map, List.mem_map]
        exact ⟨d, hd, hdc⟩
    · obtain ⟨earlier, r, later, hrules, hearlier, hu, rfl⟩ := head?_jumpFaultsFrom.1 hc
      exact .unresolvedJump hsound hchains hrules hbefore hearlier hu
    · exact .noText hsound hresolved hc hr hw
  · rintro (⟨hchains, hsound, hmem, halike, hunique⟩ | ⟨hchains, hsound, hnew, hverdict, hcustom⟩ |
      ⟨hsound, hchains, hrules, hbefore, hearlier, hu⟩ | ⟨hsound, hresolved, hc, hr, hw⟩)
    · refine .inl ⟨_, _, _, hchains, hsound, .inl ?_⟩
      exact (clash?_eq_some_iff hsound).2 ⟨_, hmem, halike, hunique, rfl⟩
    · refine .inl ⟨_, _, _, hchains, hsound, .inr ⟨?_, ?_⟩⟩
      · rw [clash?_eq_none_iff, writtenPairs, List.map_map, List.mem_map]
        rintro ⟨d, hd, hdc⟩
        exact hnew d hd hdc
      · exact misplacedVerdict?_eq_some_iff.2 ⟨hverdict, hcustom, rfl⟩
    · refine .inr ⟨hsound, .inl ⟨_, _, _, hchains, ?_, hbefore⟩⟩
      exact head?_jumpFaultsFrom.2 ⟨_, _, _, hrules, hearlier, hu, rfl⟩
    · exact .inr ⟨hsound, .inr ⟨hresolved, rfl, _, hc, _, hr, hw⟩⟩

/-- A table fails to compile exactly when it is not without fault. -/
theorem exists_compileTable_eq_error_iff :
    (∃ f, compileTable t = .error f) ↔ ¬ Faultless t := by
  rw [← faults_eq_nil_iff]
  simp only [compileTable_eq_error_iff]
  cases faults t <;> simp

theorem result_compile_eq_error_iff {p : Policy} :
    (compile p).result = .error f ↔
      ∃ before t after, p.tables = before ++ t :: after ∧
        (∀ u ∈ before, ∃ ds, compileTable u = .ok ds) ∧ compileTable t = .error f := by
  have hok : ∀ u ds, (compileReporting u).result = .ok ds ↔ compileTable u = .ok ds := by
    intro u ds
    rw [result_compileReporting_eq_ok_iff, compileTable_eq_ok_iff]
  have herror : ∀ u, (compileReporting u).result = .error f ↔ compileTable u = .error f := by
    intro u
    rw [compileReporting, Logged.result_andThen_eq_error_iff]
    simp [Logged.ofExcept, Logged.note, Logged.andThen]
  rw [compile, Logged.result_andThen_eq_error_iff]
  simp only [Logged.result_mapList_eq_error_iff, hok, herror, Logged.result_ok, reduceCtorEq,
    and_false, exists_false, or_false]

/-- **The fault that is reported.** A table fails to compile exactly when two of its chains are
written alike, a chain that is not built in has a verdict, the action of a rule leads nowhere, or a
value of a rule has no text; it fails with the first fault, and a policy fails as the first of its
tables that does. -/
theorem reports_iff (t : Table) (p : Policy) :
    ((∃ f, compileTable t = .error f) ↔
      ¬ (writtenNames t).Nodup ∨
      (∃ c ∈ t.chains, c.verdict.isSome = true ∧ isBuiltin c.name t.name = false) ∨
      (∃ c ∈ t.chains, ∃ r ∈ c.rules, Unresolved t (r.effectiveAction c)) ∨
      (∃ c ∈ t.chains, ∃ r ∈ c.rules, isWritable r = false)) ∧
    (∀ f, compileTable t = .error f ↔ Reports t f) ∧
    (∀ f, (compile p).result = .error f ↔
      ∃ before u after, p.tables = before ++ u :: after ∧
        (∀ w ∈ before, ∃ ds, compileTable w = .ok ds) ∧ Reports u f) := by
  refine ⟨?_, fun f => compileTable_eq_error_iff_reports, fun f => ?_⟩
  · have hfaultless : Faultless t ↔
        (writtenNames t).Nodup ∧
        (∀ c ∈ t.chains, c.verdict.isSome = true → isBuiltin c.name t.name = true) ∧
        (∀ c ∈ t.chains, ∀ r ∈ c.rules, ¬ Unresolved t (r.effectiveAction c)) ∧
        (∀ c ∈ t.chains, ∀ r ∈ c.rules, isWritable r = true) := by
      rw [← jumpsResolve_iff_not]
      constructor
      · intro h
        exact ⟨h.nodup, h.verdict_builtin, h.resolves, h.writable⟩
      · rintro ⟨hn, hv, hr, hw⟩
        exact ⟨⟨hn, hv⟩, hr, hw⟩
    rw [exists_compileTable_eq_error_iff, hfaultless]
    simp only [not_and_or, not_forall, not_not, Bool.not_eq_true, exists_prop]
  · rw [result_compile_eq_error_iff]
    simp only [compileTable_eq_error_iff_reports]

/-- A rule with the least integer that has too many digits for a text. -/
def longNumberRule : Rule := ⟨[⟨"src", .int Value.textBound⟩], none, []⟩

def longNumberTable : Table := ⟨"filter", [⟨"input", none, none, [longNumberRule]⟩]⟩

/-- A table with such a number has no fault of chains or jumps, and does not compile. -/
theorem not_reports_longNumber :
    (writtenNames longNumberTable).Nodup ∧
    (∀ c ∈ longNumberTable.chains, c.verdict.isSome = true →
      isBuiltin c.name longNumberTable.name = true) ∧
    (∀ c ∈ longNumberTable.chains, ∀ r ∈ c.rules,
      ¬ Unresolved longNumberTable (r.effectiveAction c)) ∧
    compileTable longNumberTable = .error .noText := by
  have hsound : SoundChains longNumberTable :=
    chainFaults_eq_nil_iff.1 (List.isEmpty_iff.1 (by decide +kernel))
  have hresolved : JumpsResolve longNumberTable :=
    jumpFaults_eq_nil_iff.1 (List.isEmpty_iff.1 (by decide +kernel))
  rw [jumpsResolve_iff_not] at hresolved
  have htext : (Value.int Value.textBound).hasText = false := by
    rw [Value.hasText, Int.natAbs_natCast]
    exact decide_eq_false (Nat.lt_irrefl _)
  have hunwritable : isWritable longNumberRule = false := by
    rw [isWritable, List.all_eq_false]
    exact ⟨⟨"src", .int Value.textBound⟩, List.mem_cons_self, ne_true_of_eq_false htext⟩
  refine ⟨hsound.nodup, hsound.verdict_builtin, hresolved, ?_⟩
  exact compileTable_eq_error_iff_reports.2
    (.noText hsound hresolved List.mem_cons_self List.mem_cons_self hunwritable)

end Firewall.Ruleset
