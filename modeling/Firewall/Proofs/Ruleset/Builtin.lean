import Firewall.Proofs.Ruleset.Target

/-!
# Built-in chains and how they are written

A chain is known to be built in by the lower case of its name and is written in upper case.
`isBuiltin_iff_written`: the two agree exactly for the names without a lookalike, a character beyond
ASCII that is written as letters of ASCII. There are four that can stand in the name of a built-in
chain. A table introduces a chain that is written like a built-in one if its name has one of them,
and in no other case.

1. A name whose lower case is that of a built-in chain is in ASCII, and upper case does not change
   the lower case of such a name (`isBuiltin_iff_ascii`).
2. The upper case of a character stands in one piece in that of the name (`upperChar_infix_upper`),
   and in no name of a built-in chain stands that of a character beyond ASCII but of the four
   (`mem_lookalikes`).
-/

namespace Firewall.Ruleset

open Text (isAscii kelvinSign)

/-- The name is written as that of a chain that the kernel provides in the table. -/
def WrittenBuiltin (table name : String) : Prop :=
  ∃ b ∈ builtinsOf table, chainName name = Text.upper b

/-- The dotless i, the long s, and the two ligatures of s and t. -/
def lookalikes : List Char := ['\u0131', '\u017F', '\uFB05', '\uFB06']

/-! ## Names of built-in chains -/

/-- All names of built-in chains, of whichever table. -/
def builtinNames : List String := builtinChains.flatMap (·.2)

theorem mem_builtinNames {table b : String} (h : b ∈ builtinsOf table) : b ∈ builtinNames := by
  unfold builtinsOf at h
  cases hl : builtinChains.lookup (Text.lower table) with
  | none => simp [hl] at h
  | some bs =>
    rw [hl, Option.getD_some] at h
    obtain ⟨l, r, he, -⟩ := List.lookup_eq_some_iff.1 hl
    exact List.mem_flatMap.2 ⟨(Text.lower table, bs), by simp [he], h⟩

/-- The names are in small letters of ASCII, and have no letter that a Kelvin sign becomes. -/
theorem letters_builtinNames : ∀ b ∈ builtinNames, ∀ d ∈ b.toList,
    isAscii d = true ∧ d.toLower = d ∧ d ∉ Text.lowerChar kelvinSign := by
  have h : ∀ b ∈ builtinNames, b.toList.all fun d =>
      isAscii d && d.toLower == d && !(Text.lowerChar kelvinSign).contains d := by decide
  simpa [and_assoc] using h

theorem ascii_builtinNames {b : String} (hb : b ∈ builtinNames) :
    ∀ d ∈ b.toList, isAscii d = true := fun d hd => (letters_builtinNames b hb d hd).1

theorem lower_builtinNames {b : String} (hb : b ∈ builtinNames) : Text.lower b = b :=
  Text.lower_eq_self_of_ascii (ascii_builtinNames hb) fun d hd =>
    (letters_builtinNames b hb d hd).2.1

/-! ## Names in ASCII -/

variable {table name : String}

theorem isBuiltin_iff_lower_mem :
    isBuiltin name table = true ↔ Text.lower name ∈ builtinsOf table := by
  rw [isBuiltin, List.contains_iff_mem]

theorem ascii_of_isBuiltin (h : isBuiltin name table = true) :
    ∀ c ∈ name.toList, isAscii c = true := by
  have hb := mem_builtinNames (isBuiltin_iff_lower_mem.1 h)
  intro c hc
  have hmem : ∀ d ∈ Text.lowerChar c, d ∈ (Text.lower name).toList := fun d hd =>
    (Text.toList_lower name).symm ▸ List.mem_flatMap.2 ⟨c, hc, hd⟩
  obtain ha | rfl := Text.ascii_or_kelvin_of_lowerChar fun d hd =>
    ascii_builtinNames hb d (hmem d hd)
  · exact ha
  · have hk : 'k' ∈ Text.lowerChar kelvinSign := by decide
    exact absurd hk (letters_builtinNames _ hb 'k' (hmem 'k' hk)).2.2

theorem isBuiltin_iff_ascii :
    isBuiltin name table = true ↔
      WrittenBuiltin table name ∧ ∀ c ∈ name.toList, isAscii c = true := by
  constructor
  · intro h
    have hascii := ascii_of_isBuiltin h
    have hlower := isBuiltin_iff_lower_mem.1 h
    have hlowerAscii := ascii_builtinNames (mem_builtinNames hlower)
    have hkelvin : kelvinSign ∉ name.toList := fun hk =>
      absurd (hascii kelvinSign hk) (by decide)
    refine ⟨⟨Text.lower name, hlower, ?_⟩, hascii⟩
    rw [chainName, (Text.upper_eq_toUpper_lower_iff hlowerAscii).2 hkelvin,
      Text.upper_eq_toUpper_of_ascii hlowerAscii]
  · rintro ⟨⟨b, hb, hname⟩, hascii⟩
    have hbuiltin := mem_builtinNames hb
    have hlower : Text.lower name = b := by
      calc Text.lower name = Text.lower (Text.upper name) := (Text.lower_upper_of_ascii hascii).symm
        _ = Text.lower (Text.upper b) := congrArg Text.lower hname
        _ = Text.lower b := Text.lower_upper_of_ascii (ascii_builtinNames hbuiltin)
        _ = b := lower_builtinNames hbuiltin
    exact isBuiltin_iff_lower_mem.2 (hlower ▸ hb)

/-! ## Lookalikes -/

theorem lookalikes_not_ascii : ∀ d ∈ lookalikes, isAscii d = false := by
  have h : lookalikes.all fun d => !isAscii d := by decide
  simpa using h

theorem not_mem_of_ascii (h : ∀ c ∈ name.toList, isAscii c = true) :
    ∀ d ∈ lookalikes, d ∉ name.toList := by
  intro d hd hmem
  have ha := h d hmem
  rw [lookalikes_not_ascii d hd] at ha
  cases ha

/-- Of the characters that the ranges move into ASCII, each is a lookalike. -/
theorem upperRanges_lookalike : ∀ r ∈ Text.upperRanges,
    r.LandsBeyondAscii ∨ r.first = r.last ∧ Char.ofNat r.first ∈ lookalikes := by
  decide +kernel

/-- Of the characters with an upper case of several characters, only lookalikes have one that stands
in the upper case of a name. -/
theorem upperTexts_lookalike : ∀ e ∈ Text.upperTexts, Char.ofNat e.1 ∈ lookalikes ∨
    ∀ b ∈ builtinNames, ¬ e.2.map Char.ofNat <:+: (Text.upper b).toList := by
  decide +kernel

/-- A character beyond ASCII whose upper case stands in that of the name of a built-in chain is a
lookalike. -/
theorem mem_lookalikes {b : String} (hb : b ∈ builtinNames) {c : Char} (hc : isAscii c = false)
    (h : Text.upperChar c <:+: (Text.upper b).toList) : c ∈ lookalikes := by
  have hascii : ∀ d ∈ Text.upperChar c, isAscii d = true := fun d hd =>
    Text.ascii_upper_of_ascii (ascii_builtinNames hb) d (h.subset hd)
  have hm : Text.upperChar c = Text.mapCase Text.upperTexts Text.upperRanges c := by
    unfold Text.upperChar
    rw [if_neg (by simpa [isAscii] using hc)]
  obtain ⟨e, he, hcode, hu⟩ | ⟨r, hr, hn, hu⟩ | hu :=
    Text.mapCase_cases Text.upperTexts Text.upperRanges c
  · obtain hl | hnot := upperTexts_lookalike e he
    · rwa [hcode, Char.ofNat_toNat] at hl
    · exact absurd (hu ▸ hm ▸ h) (hnot b hb)
  · have ha := hascii (Char.ofNat (r.target c.toNat))
      (by rw [hm, hu]; exact List.mem_singleton_self _)
    obtain hl | ⟨hone, hl⟩ := upperRanges_lookalike r hr
    · rw [hl.target hn] at ha; cases ha
    · have hfirst : c.toNat = r.first := by
        simp only [Text.CaseRange.contains, Bool.and_eq_true, decide_eq_true_eq] at hn
        omega
      rwa [← hfirst, Char.ofNat_toNat] at hl
  · have ha := hascii c (by rw [hm, hu]; exact List.mem_singleton_self c)
    rw [hc] at ha; cases ha

theorem WrittenBuiltin.ascii_iff (h : WrittenBuiltin table name) :
    (∀ c ∈ name.toList, isAscii c = true) ↔ ∀ d ∈ lookalikes, d ∉ name.toList := by
  obtain ⟨b, hb, hname⟩ := h
  constructor
  · exact not_mem_of_ascii
  · intro hnone c hc
    by_contra ha
    have hinfix : Text.upperChar c <:+: (Text.upper b).toList :=
      hname ▸ Text.upperChar_infix_upper hc
    exact hnone c (mem_lookalikes (mem_builtinNames hb) (Bool.not_eq_true _ ▸ ha) hinfix) hc

/-! ## Chains that a table introduces -/

variable {t : Table}

theorem newChain_mem_directives_iff :
    .newChain name ∈ directives t ↔ name ∈ t.chainNames ∧ isBuiltin name t.name = false := by
  have hverdicts : .newChain name ∉ verdictLines t := by
    intro h
    obtain ⟨c, -, hv⟩ := List.mem_filterMap.1 h
    obtain ⟨v, -, hv⟩ := Option.map_eq_some_iff.1 hv
    cases hv
  have hrules : .newChain name ∉ ruleLines t := by
    intro h
    obtain ⟨c, -, hr⟩ := List.mem_flatMap.1 h
    obtain ⟨r, -, hr⟩ := List.mem_map.1 hr
    cases hr
  have hnews : .newChain name ∈ newChainLines t ↔
      name ∈ t.chainNames ∧ isBuiltin name t.name = false := by
    simp only [newChainLines, Table.chainNames, List.mem_map, List.mem_filter, Bool.not_eq_true',
      Directive.newChain.injEq]
    constructor
    · rintro ⟨c, ⟨hc, hb⟩, rfl⟩
      exact ⟨⟨c, hc, rfl⟩, hb⟩
    · rintro ⟨⟨c, hc, rfl⟩, hb⟩
      exact ⟨c, ⟨hc, hb⟩, rfl⟩
  simp [directives, hverdicts, hrules, hnews]

/-- **Built-in chains.** A chain is built in exactly if it is written like a built-in chain and its
name has no lookalike. A table that compiles introduces a chain that is written like a built-in one
exactly if it declares one whose name has a lookalike. -/
theorem isBuiltin_iff_written (t : Table) :
    (∀ c ∈ t.chains, isBuiltin c.name t.name = true ↔
      WrittenBuiltin t.name c.name ∧ ∀ d ∈ lookalikes, d ∉ c.name.toList) ∧
    (∀ ds, compileTable t = .ok ds → ∀ name,
      .newChain name ∈ ds ∧ WrittenBuiltin t.name name ↔
        name ∈ t.chainNames ∧ WrittenBuiltin t.name name ∧ ∃ d ∈ lookalikes, d ∈ name.toList) := by
  have hiff : ∀ name, isBuiltin name t.name = true ↔
      WrittenBuiltin t.name name ∧ ∀ d ∈ lookalikes, d ∉ name.toList := by
    intro name
    rw [isBuiltin_iff_ascii]
    exact and_congr_right fun h => h.ascii_iff
  refine ⟨fun c _ => hiff c.name, fun ds h name => ?_⟩
  obtain ⟨-, rfl⟩ := compileTable_eq_ok_iff.1 h
  rw [newChain_mem_directives_iff, ← Bool.not_eq_true, hiff]
  constructor
  · rintro ⟨⟨hname, hnot⟩, hwritten⟩
    refine ⟨hname, hwritten, ?_⟩
    by_contra hnone
    exact hnot ⟨hwritten, fun d hd hmem => hnone ⟨d, hd, hmem⟩⟩
  · rintro ⟨hname, hwritten, d, hd, hmem⟩
    exact ⟨⟨hname, fun h => h.2 d hd hmem⟩, hwritten⟩

/-- A table with a built-in chain in mixed case and a chain of its own. -/
def mixedCaseTable : Table :=
  ⟨"Filter", [⟨"InPut", some .drop, none, []⟩, ⟨"web", none, none, []⟩]⟩

theorem isBuiltin_iff_written_mixedCase :
    compileTable mixedCaseTable = .ok (directives mixedCaseTable) ∧
    isBuiltin "InPut" mixedCaseTable.name = true ∧
    .newChain "web" ∈ directives mixedCaseTable ∧ ¬ WrittenBuiltin mixedCaseTable.name "web" := by
  have h := compileTable_of_isEmpty (t := mixedCaseTable) (by decide)
  obtain ⟨hbuiltin, hnews⟩ := isBuiltin_iff_written mixedCaseTable
  have hwritten : WrittenBuiltin mixedCaseTable.name "InPut" :=
    ⟨"input", by decide, by decide⟩
  have hweb : .newChain "web" ∈ directives mixedCaseTable := by decide
  have hascii : ∀ name ∈ mixedCaseTable.chainNames, ∀ c ∈ name.toList, isAscii c = true := by
    simpa using (by decide : mixedCaseTable.chainNames.all fun name => name.toList.all isAscii)
  have hnone : ∀ d ∈ lookalikes, d ∉ "InPut".toList :=
    not_mem_of_ascii (hascii "InPut" List.mem_cons_self)
  refine ⟨h, (hbuiltin _ List.mem_cons_self).2 ⟨hwritten, hnone⟩, hweb, fun hw => ?_⟩
  obtain ⟨hmem, -, d, hd, hlookalike⟩ := (hnews _ h "web").1 ⟨hweb, hw⟩
  exact not_mem_of_ascii (hascii "web" hmem) d hd hlookalike

/-- A table whose only chain begins with a dotless i. -/
def dotlessTable : Table := ⟨"filter", [⟨"\u0131nput", none, none, []⟩]⟩

/-- The table compiles and introduces a chain that is written like a built-in one. -/
theorem not_isBuiltin_dotlessTable :
    compileTable dotlessTable = .ok (directives dotlessTable) ∧
    (directives dotlessTable).map (·.tokens) = [["*filter"], ["-N", "INPUT"], ["COMMIT"]] ∧
    WrittenBuiltin dotlessTable.name "\u0131nput" ∧
    isBuiltin "\u0131nput" dotlessTable.name = false := by
  have hwritten : WrittenBuiltin dotlessTable.name "\u0131nput" :=
    ⟨"input", by decide, by decide⟩
  exact ⟨compileTable_of_isEmpty (by decide), by decide, hwritten,
    by decide⟩

end Firewall.Ruleset
