import Firewall.Policy.Read
import Firewall.Proofs.Ruleset.Pieces
import Firewall.Proofs.Ruleset.Target

/-!
# Lines and words of a ruleset

`keepsStructure_iff`: when the text of a ruleset, cut at its line feeds, has one line for each
directive and every line reads back to the words of its directive. Arguments are quoted, so that
they break no word; names of tables and chains and keys of conditions and options are not, and must
be plain. No quotes keep a line feed from breaking a line.

1. A text whose lines end in line feeds is cut into these lines when none has one in it
   (`cut_text_iff`).
2. Built-in chains, verdicts and extension targets have plain names in any letter case, and any
   other target is a declared chain, so that the names of chains decide about all targets
   (`isPlainWord_targetWord`).
3. Every chain that is not built in stands at the end of a line of its own, where a name that is not
   plain shows. With plain names of chains all words of rules begin plainly, and
   `readWords_lineOf_iff` applies to their lines.
-/

namespace Firewall.Ruleset

/-! ## Lines of a text -/

/-- The parts of a text between its line feeds. -/
def cut (s : String) : List String := (s.toList.splitOn '\n').map String.ofList

theorem splitOn_ended (ls : List (List Char)) :
    (ls.flatMap fun l => l ++ ['\n']).splitOn '\n' = ls.flatMap (·.splitOn '\n') ++ [[]] := by
  induction ls with
  | nil => rfl
  | cons l rest ih =>
    rw [List.flatMap_cons, List.append_assoc, List.singleton_append, List.splitOn_append_cons_self,
      ih, List.flatMap_cons, List.append_assoc]

theorem length_splitOn_pos (l : List Char) : 0 < (l.splitOn '\n').length :=
  List.length_pos_of_ne_nil (List.splitOn_ne_nil '\n' l)

theorem length_le_length_parts (ls : List (List Char)) :
    ls.length ≤ (ls.flatMap (·.splitOn '\n')).length := by
  induction ls with
  | nil => exact Nat.le_refl 0
  | cons l rest ih =>
    have := length_splitOn_pos l
    rw [List.flatMap_cons, List.length_append, List.length_cons]
    omega

theorem parts_eq_self_iff (ls : List (List Char)) :
    ls.flatMap (·.splitOn '\n') = ls ↔ ∀ l ∈ ls, '\n' ∉ l := by
  induction ls with
  | nil => simp
  | cons l rest ih =>
    rw [List.flatMap_cons, List.forall_mem_cons]
    by_cases hl : '\n' ∈ l
    · refine iff_of_false (fun h => ?_) (fun h => h.1 hl)
      obtain ⟨as, bs, rfl⟩ := List.append_of_mem hl
      have hlen := congrArg List.length h
      have hrest := length_le_length_parts rest
      have ha := length_splitOn_pos as
      have hb := length_splitOn_pos bs
      rw [List.splitOn_append_cons_self, List.length_append, List.length_append,
        List.length_cons] at hlen
      omega
    · rw [List.splitOn_eq_singleton hl, List.singleton_append, List.cons.injEq, ih]
      simp [hl]

/-- The text of directives is cut into their lines when none of them has a line feed in it. -/
theorem cut_text_iff (ds : List Directive) :
    cut (text ds) = ds.map Directive.line ++ [""] ↔ ∀ d ∈ ds, '\n' ∉ d.line.toList := by
  have htext : (text ds).toList = (ds.map (·.line.toList)).flatMap fun l => l ++ ['\n'] := by
    simp [text, String.toList_join, List.flatMap_map]
  have hstrings : cut (text ds) = ds.map Directive.line ++ [""] ↔
      (text ds).toList.splitOn '\n' = ds.map (·.line.toList) ++ [[]] := by
    rw [← (List.map_injective_iff.2 fun _ _ => String.ofList_inj.1).eq_iff]
    simp [cut, Function.comp_def]
  rw [hstrings, htext, splitOn_ended, List.append_cancel_right_eq, parts_eq_self_iff,
    List.forall_mem_map]

/-! ## Words of a line -/

theorem isPlain_iff {c : Char} :
    isPlain c = true ↔ c ≠ ' ' ∧ c ≠ '\t' ∧ c ≠ '\n' ∧ c ≠ '"' := by
  simp [isPlain, isSeparator, and_assoc]

theorem lineFeed_mem_word_iff {s : String} : '\n' ∈ (word s).toList ↔ '\n' ∈ s.toList := by
  have hescape : ∀ c, '\n' ∈ escapeChar c ↔ '\n' = c := by
    intro c
    unfold escapeChar
    split_ifs <;> simp
  rw [toList_word]
  unfold wordChars
  split_ifs
  · rfl
  · simp [hescape]

/-- A piece that reads back and breaks no line. -/
def Piece.Stands (p : Piece) : Prop := p.IsWhole ∧ '\n' ∉ p.text.toList

theorem Piece.lineFeed_mem_written_iff {p : Piece} :
    '\n' ∈ p.written.toList ↔ '\n' ∈ p.text.toList := by
  cases p with
  | bare s => rfl
  | argument s => exact lineFeed_mem_word_iff

theorem Piece.stands_bare_iff {s : String} : (Piece.bare s).Stands ↔ IsPlainWord s := by
  constructor
  · exact And.left
  · intro h
    exact ⟨h, fun hn => (isPlain_iff.1 (h.2 _ hn)).2.2.1 rfl⟩

theorem lineFeed_mem_lineOf_iff {ps : List Piece} :
    '\n' ∈ (lineOf ps).toList ↔ ∃ p ∈ ps, '\n' ∈ p.text.toList := by
  induction ps with
  | nil => simp [lineOf]
  | cons p ps ih =>
    by_cases hps : ps = []
    · subst hps
      simp [lineOf, Piece.lineFeed_mem_written_iff]
    · rw [toList_lineOf_cons p hps]
      simp [ih, Piece.lineFeed_mem_written_iff]

/-- The pieces keep together on one line and apart as words. -/
def KeepsLine (ps : List Piece) : Prop :=
  '\n' ∉ (lineOf ps).toList ∧ readWords (lineOf ps) = ps.map Piece.text

theorem keepsLine_iff {ps : List Piece} (h : ∀ p ∈ ps.dropLast, p.Begins) :
    KeepsLine ps ↔ ∀ p ∈ ps, p.Stands := by
  unfold KeepsLine Piece.Stands
  rw [readWords_lineOf_iff h, lineFeed_mem_lineOf_iff]
  simp only [not_exists, not_and, imp_and, forall_and]
  exact and_comm

theorem keepsLine_of_stands {ps : List Piece} (h : ∀ p ∈ ps, p.Stands) : KeepsLine ps :=
  (keepsLine_iff fun p hp => (h p (List.dropLast_subset ps hp)).1.begins).2 h

/-! ## Plain names -/

def notPlain : List Char := [' ', '\t', '\n', '"']

theorem isPlainWord_iff {s : String} :
    IsPlainWord s ↔ s ≠ "" ∧ ∀ d ∈ notPlain, d ∉ s.toList := by
  have hc : ∀ c, isPlain c = true ↔ c ∉ notPlain := by
    intro c
    rw [isPlain_iff]
    simp [notPlain]
  unfold IsPlainWord
  simp only [hc]
  exact and_congr_right fun _ => ⟨fun h d hd hs => h d hs hd, fun h c hs hc => h c hc hs⟩

theorem ascii_notPlain : ∀ d ∈ notPlain, Text.isAscii d = true ∧ d.isAlpha = false := by
  have h : (notPlain.all fun d => Text.isAscii d && !d.isAlpha) = true := by decide
  simpa using h

theorem isPlainWord_upper_iff {s : String} : IsPlainWord (Text.upper s) ↔ IsPlainWord s := by
  rw [isPlainWord_iff, isPlainWord_iff, ne_eq, Text.upper_eq_empty_iff]
  refine and_congr_right fun _ => forall₂_congr fun d hd => ?_
  rw [Text.mem_upper_iff (ascii_notPlain d hd).1 (ascii_notPlain d hd).2]

theorem isPlainWord_of_lower {s : String} (h : IsPlainWord (Text.lower s)) : IsPlainWord s := by
  rw [isPlainWord_iff] at h ⊢
  refine ⟨?_, fun d hd hs => h.2 d hd ?_⟩
  · rintro rfl
    exact h.1 rfl
  · exact Text.mem_lower_of_mem (ascii_notPlain d hd).1 (ascii_notPlain d hd).2 hs

theorem isPlainWord_verdict_name (v : Verdict) : IsPlainWord v.name := by
  cases v <;> decide +kernel

theorem isPlainWord_extensionTargets : ∀ n ∈ extensionTargets, IsPlainWord n := by
  decide +kernel

theorem isPlainWord_builtinChains : ∀ e ∈ builtinChains, ∀ n ∈ e.2, IsPlainWord n := by
  decide +kernel

theorem isPlainWord_of_isBuiltin {chain table : String} (h : isBuiltin chain table = true) :
    IsPlainWord chain := by
  refine isPlainWord_of_lower ?_
  rw [isBuiltin, builtinsOf, List.contains_iff_mem] at h
  cases hl : builtinChains.lookup (Text.lower table) with
  | none => simp [hl] at h
  | some ns =>
    rw [hl, Option.getD_some] at h
    obtain ⟨l, r, he, -⟩ := List.lookup_eq_some_iff.1 hl
    exact isPlainWord_builtinChains (Text.lower table, ns) (by simp [he]) _ h

/-- With plain names of chains, every action that resolves leads to a plain word. -/
theorem isPlainWord_targetWord {t : Table} {action : String}
    (ht : ∀ c ∈ t.chains, IsPlainWord c.name)
    (h : isTarget t.chainNames action = true ∨ action ∈ t.chainNames) :
    IsPlainWord (targetWord t.chainNames action) := by
  rw [targetWord_eq, isPlainWord_upper_iff]
  obtain ⟨v, hv⟩ | ⟨-, d, hd⟩ | ⟨-, -, he⟩ := action_cases h
  · refine isPlainWord_of_lower ?_
    rw [Verdict.lower_eq_of_ofName? hv]
    exact isPlainWord_verdict_name v
  · have hn : d.name = action := by simpa using List.find?_some hd
    exact hn ▸ ht d (List.mem_of_find?_eq_some hd)
  · exact isPlainWord_of_lower (isPlainWord_extensionTargets _ he)

/-! ## The lines of a table -/

/-- The flag of the group is plain, and its argument has no line feed. -/
def Group.Framed (g : Group) : Prop := IsPlainWord g.flag ∧ ∀ a ∈ g.argument, '\n' ∉ a.toList

instance : DecidablePred Group.Framed := fun g =>
  decidable_of_iff (IsPlainWord g.flag ∧ ∀ a ∈ g.argument.toList, '\n' ∉ a.toList)
    (and_congr_right fun _ => forall_congr' fun _ => imp_congr_left Option.mem_toList)

theorem stands_pieces_iff {g : Group} : (∀ q ∈ g.pieces, q.Stands) ↔ g.Framed := by
  have hbang : (Piece.bare "!").Stands := Piece.stands_bare_iff.2 (by decide +kernel)
  have harg : ∀ a, (Piece.argument a).Stands ↔ '\n' ∉ a.toList :=
    fun _ => iff_of_eq (true_and _)
  rcases g with ⟨negated, flag, argument⟩
  cases negated <;> cases argument <;>
    simp [Group.pieces, Group.Framed, hbang, harg, Piece.stands_bare_iff]

/-- The words of a table that stand unquoted are plain, and its arguments have no line feeds. -/
structure Framed (t : Table) : Prop where
  header : IsPlainWord ("*" ++ t.name)
  chains : ∀ c ∈ t.chains, IsPlainWord c.name
  groups : ∀ c ∈ t.chains, ∀ r ∈ c.rules, ∀ g ∈ ruleGroups r, g.Framed

instance : DecidablePred Framed := fun t =>
  decidable_of_iff (IsPlainWord ("*" ++ t.name) ∧ (∀ c ∈ t.chains, IsPlainWord c.name) ∧
      ∀ c ∈ t.chains, ∀ r ∈ c.rules, ∀ g ∈ ruleGroups r, g.Framed)
    ⟨fun h => ⟨h.1, h.2.1, h.2.2⟩, fun h => ⟨h.header, h.chains, h.groups⟩⟩

variable {t : Table}

theorem stands_rulePieces (h : Framed t) (hj : JumpsResolve t) {c : Chain} (hc : c ∈ t.chains)
    {r : Rule} (hr : r ∈ c.rules) : ∀ q ∈ rulePieces t.chainNames c r, q.Stands := by
  refine forall_rulePieces.2 ⟨?_, ?_, ?_, ?_, fun g hg =>
    stands_pieces_iff.2 (h.groups c hc r hr g hg)⟩
  · exact Piece.stands_bare_iff.2 (by decide +kernel)
  · exact Piece.stands_bare_iff.2 (isPlainWord_upper_iff.2 (h.chains c hc))
  · exact Piece.stands_bare_iff.2 (by decide +kernel)
  · exact Piece.stands_bare_iff.2 (isPlainWord_targetWord h.chains (hj c hc r hr))

/-- With plain names of chains, all words of the line of a rule begin plainly. -/
theorem begins_rulePieces (h : ∀ c ∈ t.chains, IsPlainWord c.name) (hj : JumpsResolve t)
    {c : Chain} (hc : c ∈ t.chains) {r : Rule} (hr : r ∈ c.rules) :
    ∀ q ∈ rulePieces t.chainNames c r, q.Begins := by
  have hbare : ∀ {s : String}, IsPlainWord s → (Piece.bare s).Begins := fun hs =>
    Piece.IsWhole.begins hs
  refine forall_rulePieces.2 ⟨?_, ?_, ?_, ?_, fun g hg =>
    begins_of_mem_pieces (beginsWithDash_of_mem_ruleGroups hg)⟩
  · exact hbare (by decide +kernel)
  · exact hbare (isPlainWord_upper_iff.2 (h c hc))
  · exact hbare (by decide +kernel)
  · exact hbare (isPlainWord_targetWord h (hj c hc r hr))

/-- A new chain stands at the end of its line. -/
theorem isPlainWord_of_keepsLine {name : String}
    (h : KeepsLine [.bare "-N", .bare (chainName name)]) : IsPlainWord name := by
  have hs := (keepsLine_iff (by simp [Piece.Begins, isPlain, isSeparator])).1 h
    (.bare (chainName name)) (by simp)
  exact isPlainWord_upper_iff.1 (Piece.stands_bare_iff.1 hs)

theorem keepsLine_tablePieces_iff (hf : Faultless t) :
    (∀ ps ∈ tablePieces t, KeepsLine ps) ↔ Framed t := by
  rw [forall_tablePieces]
  constructor
  · rintro ⟨hheader, -, hnews, hrules, -⟩
    have hchains : ∀ c ∈ t.chains, IsPlainWord c.name := by
      intro c hc
      cases hb : isBuiltin c.name t.name with
      | true => exact isPlainWord_of_isBuiltin hb
      | false => exact isPlainWord_of_keepsLine (hnews c hc hb)
    refine ⟨?_, hchains, fun c hc r hr g hg => ?_⟩
    · have hs := (keepsLine_iff (by simp)).1 hheader (.bare ("*" ++ t.name)) (by simp)
      exact Piece.stands_bare_iff.1 hs
    · have hbegin := begins_rulePieces hchains hf.resolves hc hr
      have hs := (keepsLine_iff fun q hq => hbegin q (List.dropLast_subset _ hq)).1
        (hrules c hc r hr)
      exact stands_pieces_iff.1 ((forall_rulePieces.1 hs).2.2.2.2 g hg)
  · intro h
    have hbare : ∀ s, IsPlainWord s → (Piece.bare s).Stands := fun _ => Piece.stands_bare_iff.2
    have hname : ∀ c ∈ t.chains, (Piece.bare (chainName c.name)).Stands := fun c hc =>
      hbare _ (isPlainWord_upper_iff.2 (h.chains c hc))
    have hverdict : ∀ v : Verdict, (Piece.bare (Text.upper v.name)).Stands := fun v =>
      hbare _ (isPlainWord_upper_iff.2 (isPlainWord_verdict_name v))
    refine ⟨?_, fun c hc v _ => ?_, fun c hc _ => ?_, fun c hc r hr => ?_, ?_⟩
    · exact keepsLine_of_stands (by simp [hbare _ h.header])
    · exact keepsLine_of_stands (by
        simp [hbare "-P" (by decide +kernel), hname c hc, hverdict v])
    · exact keepsLine_of_stands (by simp [hbare "-N" (by decide +kernel), hname c hc])
    · exact keepsLine_of_stands (stands_rulePieces h hf.resolves hc hr)
    · exact keepsLine_of_stands (by simp [hbare "COMMIT" (by decide +kernel)])

/-! ## The text of a policy -/

/-- The text has one line for each directive of the policy, in order, and each of these lines reads
back to the words of its directive. -/
structure KeepsStructure (p : Policy) (txt : String) : Prop where
  lines : cut txt = (p.tables.flatMap directives).map Directive.line ++ [""]
  words : ∀ t ∈ p.tables, (directives t).map (fun d => readWords d.line) =
    (tablePieces t).map fun ps => ps.map Piece.text

theorem lines_eq_iff {p : Policy} :
    cut (text (p.tables.flatMap directives)) =
        (p.tables.flatMap directives).map Directive.line ++ [""] ↔
      ∀ t ∈ p.tables, ∀ ps ∈ tablePieces t, '\n' ∉ (lineOf ps).toList := by
  rw [cut_text_iff, List.forall_mem_flatMap]
  refine forall₂_congr fun t _ => ?_
  rw [← List.forall_mem_map (P := fun l : String => '\n' ∉ l.toList), ← map_lineOf_tablePieces,
    List.forall_mem_map]

theorem words_eq_iff {t : Table} :
    (directives t).map (fun d => readWords d.line) =
        ((tablePieces t).map fun ps => ps.map Piece.text) ↔
      ∀ ps ∈ tablePieces t, readWords (lineOf ps) = ps.map Piece.text := by
  have hread : (directives t).map (fun d => readWords d.line) =
      (tablePieces t).map fun ps => readWords (lineOf ps) := by
    have h := congrArg (List.map readWords) (map_lineOf_tablePieces t)
    rw [List.map_map, List.map_map] at h
    exact h.symm
  rw [hread, List.map_inj_left]

theorem keepsStructure_iff_keepsLine {p : Policy} :
    KeepsStructure p (text (p.tables.flatMap directives)) ↔
      ∀ t ∈ p.tables, ∀ ps ∈ tablePieces t, KeepsLine ps := by
  constructor
  · intro h t ht ps hps
    exact ⟨lines_eq_iff.1 h.lines t ht ps hps, words_eq_iff.1 (h.words t ht) ps hps⟩
  · intro h
    exact
      { lines := lines_eq_iff.2 fun t ht ps hps => (h t ht ps hps).1
        words := fun t ht => words_eq_iff.2 fun ps hps => (h t ht ps hps).2 }

/-- **Lines and words.** The text that a policy compiles to keeps its lines and words exactly when
the names of its tables and chains and the flags of its rules are plain and no argument has a line
feed. -/
theorem keepsStructure_iff {p : Policy} {txt : String} (h : (compile p).result = .ok txt) :
    KeepsStructure p txt ↔ ∀ t ∈ p.tables, Framed t := by
  obtain ⟨hf, rfl⟩ := result_compile_eq_ok_iff.1 h
  rw [keepsStructure_iff_keepsLine]
  exact forall₂_congr fun t ht => keepsLine_tablePieces_iff (hf t ht)

/-- A policy with a negated address and with blanks, quotes and backslashes in its values. -/
def quotedPolicy : Policy :=
  ⟨[⟨"filter", [⟨"input", some .drop, none,
      [⟨[⟨"src", .tuple [.str "! 10.0.0.0/8", .str "10.1.0.1"]⟩, ⟨"comment", .str "a \"b\" \\ c"⟩],
        some "web", []⟩]⟩,
    ⟨"web", none, none, [⟨[], some "log", [⟨"log-prefix", .str "web: "⟩]⟩]⟩]⟩]⟩

theorem keepsStructure_quotedPolicy :
    (compile quotedPolicy).result = .ok (text (quotedPolicy.tables.flatMap directives)) ∧
    KeepsStructure quotedPolicy (text (quotedPolicy.tables.flatMap directives)) := by
  have hfault : ∀ t ∈ quotedPolicy.tables, (faults t).isEmpty = true := by decide +kernel
  have h := result_compile_eq_ok_iff.2
    ⟨fun t ht => faults_eq_nil_iff.1 (List.isEmpty_iff.1 (hfault t ht)), rfl⟩
  have hframed : ∀ t ∈ quotedPolicy.tables, Framed t := by decide +kernel
  exact ⟨h, (keepsStructure_iff h).2 hframed⟩

/-- A policy text with a blank in the name of a chain, which loads and compiles to a ruleset in
which the line of that chain reads back to three words. -/
theorem not_keepsStructure_blankName :
    ∃ p, (Policy.read "filter: \x7ba b: \x7d").result = .ok p ∧
      (compile p).result = .ok "*filter\n-N A B\nCOMMIT\n" ∧
      ¬ KeepsStructure p "*filter\n-N A B\nCOMMIT\n" := by
  have hrun : ∃ p ∈ (Policy.read "filter: \x7ba b: \x7d").result.toOption.toList,
      (∀ t ∈ p.tables, (faults t).isEmpty = true) ∧
      text (p.tables.flatMap directives) = "*filter\n-N A B\nCOMMIT\n" ∧
      ¬ ∀ t ∈ p.tables, (directives t).map (fun d => readWords d.line) =
        (tablePieces t).map fun ps => ps.map Piece.text := by
    decide +kernel
  obtain ⟨p, hp, hfault, htext, hwords⟩ := hrun
  refine ⟨p, ?_, ?_, fun h => hwords h.words⟩
  · rw [Option.mem_toList] at hp
    generalize (Policy.read "filter: \x7ba b: \x7d").result = result at hp ⊢
    cases result with
    | error e => cases hp
    | ok q =>
      cases hp
      rfl
  · exact result_compile_eq_ok_iff.2
      ⟨fun t ht => faults_eq_nil_iff.1 (List.isEmpty_iff.1 (hfault t ht)), htext⟩

end Firewall.Ruleset
