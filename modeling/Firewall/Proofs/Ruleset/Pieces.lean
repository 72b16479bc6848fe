import Firewall.Proofs.Ruleset.Reading
import Firewall.Ruleset.Compile

/-!
# Pieces of lines

The words of the directives of a table, and which of them may stand in quotes: the arguments of
rules alone. `map_written_tablePieces`: written down, the pieces are the words that the directives
hold. What is true of all pieces of a rule or of all lines of a table comes down to a few cases
(`forall_rulePieces`, `forall_tablePieces`), as all groups of a rule have flags that begin with a
dash (`beginsWithDash_of_mem_ruleGroups`). A value becomes one group for each of its leaves, the
values in its lists and tuples at any depth (`Group.ofValue_eq_map_leaves`).
-/

namespace Firewall.Value

mutual

/-- The values that a value lists: those in lists and tuples at any depth, itself if it is
neither. -/
def leaves : Value → List Value
  | .list items | .tuple items => leavesOf items
  | v => [v]

def leavesOf : List Value → List Value
  | [] => []
  | v :: rest => leaves v ++ leavesOf rest

end

end Firewall.Value

namespace Firewall.Ruleset

/-! ## The groups of a value -/

/-- The group of a flag with a value that is no list and no tuple. -/
def Group.ofLeaf (flag : String) : Value → Group
  | .null | .bool true => ⟨false, flag, none⟩
  | v => ofText flag v.text

theorem Group.ofValue_eq_map_leaves {flag : String} (v : Value) :
    ofValue flag v = v.leaves.map (ofLeaf flag) := by
  refine ofValue.induct (fun v => ofValue flag v = v.leaves.map (ofLeaf flag))
    (fun vs => ofValues flag vs = (Value.leavesOf vs).map (ofLeaf flag))
    ?null ?alone ?list ?tuple ?scalar ?nil ?cons v
  case null => rfl
  case alone => rfl
  case list =>
    intro items ih
    rwa [ofValue, Value.leaves]
  case tuple =>
    intro items ih
    rwa [ofValue, Value.leaves]
  case scalar =>
    intro v hnull htrue hlist htuple
    rw [ofValue.eq_5 flag v hnull htrue hlist htuple, Value.leaves.eq_3 v hlist htuple,
      List.map_singleton, ofLeaf.eq_3 flag v hnull htrue]
  case nil => rfl
  case cons =>
    intro v rest hv hrest
    rw [ofValues, Value.leavesOf, List.map_append, hv, hrest]

/-! ## The pieces of a table -/

/-- The words of a group: all but its argument are written as they are. -/
def Group.pieces (g : Group) : List Piece :=
  (if g.negated then [.bare "!"] else []) ++ .bare g.flag :: (g.argument.map .argument).toList

/-- The groups of conditions, in order. -/
def conditionGroups (conditions : List Flag) : List Group :=
  conditions.flatMap fun f => Group.ofValue (conditionFlag f.key) f.value

/-- The groups of options, in order. -/
def optionGroups (options : List Flag) : List Group :=
  options.flatMap fun f => Group.ofValue (optionFlag f.key) f.value

/-- The groups of a rule: of its conditions, then of its options. -/
def ruleGroups (r : Rule) : List Group := conditionGroups r.conditions ++ optionGroups r.options

def rulePieces (declared : List String) (c : Chain) (r : Rule) : List Piece :=
  .bare "-A" :: .bare (chainName c.name) :: ((conditionGroups r.conditions).flatMap Group.pieces ++
    .bare "-j" :: .bare (targetWord declared (r.effectiveAction c)) ::
      (optionGroups r.options).flatMap Group.pieces)

/-- The words of a directive, each written as it is. -/
def Directive.barePieces (d : Directive) : List Piece := d.tokens.map .bare

/-- The words of the lines of a table: those of a rule by their pieces, those of any other directive
as they are. -/
def tablePieces (t : Table) : List (List Piece) :=
  (Directive.table t.name).barePieces ::
    ((verdictLines t ++ newChainLines t).map Directive.barePieces ++
      (t.chains.flatMap fun c => c.rules.map fun r => rulePieces t.chainNames c r) ++
      [Directive.commit.barePieces])

theorem forall_rulePieces {P : Piece → Prop} {declared : List String} {c : Chain} {r : Rule} :
    (∀ q ∈ rulePieces declared c r, P q) ↔
      P (.bare "-A") ∧ P (.bare (chainName c.name)) ∧ P (.bare "-j") ∧
        P (.bare (targetWord declared (r.effectiveAction c))) ∧
        ∀ g ∈ ruleGroups r, ∀ q ∈ g.pieces, P q := by
  simp only [rulePieces, ruleGroups, List.forall_mem_cons, List.forall_mem_append,
    List.forall_mem_flatMap]
  constructor
  · rintro ⟨hadd, hname, hconditions, hjump, htarget, hoptions⟩
    exact ⟨hadd, hname, hjump, htarget, hconditions, hoptions⟩
  · rintro ⟨hadd, hname, hjump, htarget, hconditions, hoptions⟩
    exact ⟨hadd, hname, hconditions, hjump, htarget, hoptions⟩

theorem forall_mem_verdictLines {P : Directive → Prop} {t : Table} :
    (∀ d ∈ verdictLines t, P d) ↔
      ∀ c ∈ t.chains, ∀ v, c.verdict = some v → P (.verdict c.name v) := by
  simp only [verdictLines, List.mem_filterMap, Option.map_eq_some_iff]
  constructor
  · exact fun h c hc v hv => h _ ⟨c, hc, v, hv, rfl⟩
  · rintro h _ ⟨c, hc, v, hv, rfl⟩
    exact h c hc v hv

theorem forall_mem_newChainLines {P : Directive → Prop} {t : Table} :
    (∀ d ∈ newChainLines t, P d) ↔
      ∀ c ∈ t.chains, isBuiltin c.name t.name = false → P (.newChain c.name) := by
  rw [newChainLines, List.forall_mem_map]
  simp only [List.mem_filter, Bool.not_eq_true', and_imp]

theorem forall_tablePieces {P : List Piece → Prop} {t : Table} :
    (∀ ps ∈ tablePieces t, P ps) ↔
      P [.bare ("*" ++ t.name)] ∧
      (∀ c ∈ t.chains, ∀ v, c.verdict = some v →
        P [.bare "-P", .bare (chainName c.name), .bare (Text.upper v.name)]) ∧
      (∀ c ∈ t.chains, isBuiltin c.name t.name = false →
        P [.bare "-N", .bare (chainName c.name)]) ∧
      (∀ c ∈ t.chains, ∀ r ∈ c.rules, P (rulePieces t.chainNames c r)) ∧
      P [.bare "COMMIT"] := by
  simp only [tablePieces, List.forall_mem_cons, List.forall_mem_append, List.forall_mem_map,
    List.forall_mem_flatMap, List.not_mem_nil, false_implies, implies_true, and_true,
    forall_mem_verdictLines, forall_mem_newChainLines, and_assoc]
  rfl

/-! ## Pieces as they are written -/

theorem Group.map_written_pieces (g : Group) : g.pieces.map Piece.written = g.tokens := by
  rcases g with ⟨negated, flag, argument⟩
  cases negated <;> cases argument <;> rfl

theorem map_written_flatMap_pieces (gs : List Group) :
    (gs.flatMap Group.pieces).map Piece.written = gs.flatMap Group.tokens := by
  rw [List.map_flatMap]
  exact List.flatMap_congr fun g _ => g.map_written_pieces

theorem flatMap_tokens_conditionGroups (fs : List Flag) :
    (conditionGroups fs).flatMap Group.tokens = conditionTokens fs := by
  rw [conditionGroups, conditionTokens, List.flatMap_assoc]

theorem flatMap_tokens_optionGroups (fs : List Flag) :
    (optionGroups fs).flatMap Group.tokens = optionTokens fs := by
  rw [optionGroups, optionTokens, List.flatMap_assoc]

theorem map_written_rulePieces (declared : List String) (c : Chain) (r : Rule) :
    (rulePieces declared c r).map Piece.written = (Directive.ofRule c r declared).tokens := by
  simp only [rulePieces, List.map_cons, List.map_append, map_written_flatMap_pieces,
    flatMap_tokens_conditionGroups, flatMap_tokens_optionGroups]
  rfl

theorem Directive.map_written_barePieces (d : Directive) :
    d.barePieces.map Piece.written = d.tokens := by
  rw [barePieces, List.map_map]
  exact List.map_id _

/-- The pieces of a table as its lines hold them are the words of its directives. -/
theorem map_written_tablePieces (t : Table) :
    (tablePieces t).map (·.map Piece.written) = (directives t).map Directive.tokens := by
  simp only [tablePieces, directives, ruleLines, List.map_cons, List.map_append, List.map_nil,
    List.map_map, List.map_flatMap, Function.comp_def, Directive.map_written_barePieces,
    map_written_rulePieces]

theorem map_lineOf_tablePieces (t : Table) :
    (tablePieces t).map lineOf = (directives t).map Directive.line := by
  have h := congrArg (List.map " ".intercalate) (map_written_tablePieces t)
  rw [List.map_map, List.map_map] at h
  exact h

/-! ## Words that begin plainly -/

theorem Group.flag_ofText (flag text : String) : (ofText flag text).flag = flag := by
  unfold ofText
  split <;> rfl

theorem Group.flag_ofLeaf (flag : String) (v : Value) : (ofLeaf flag v).flag = flag := by
  unfold ofLeaf
  split
  · rfl
  · rfl
  · exact flag_ofText flag _

theorem Group.flag_of_mem_ofValue {flag : String} (v : Value) :
    ∀ g ∈ ofValue flag v, g.flag = flag := by
  rw [ofValue_eq_map_leaves, List.forall_mem_map]
  exact fun w _ => flag_ofLeaf flag w

def BeginsWithDash (s : String) : Prop := s.toList.head? = some '-'

theorem beginsWithDash_optionFlag (key : String) : BeginsWithDash (optionFlag key) := by
  simp [BeginsWithDash, optionFlag]

theorem beginsWithDash_conditionFlag (key : String) : BeginsWithDash (conditionFlag key) := by
  have hall : ∀ e ∈ knownFlags, BeginsWithDash e.2 := by
    unfold BeginsWithDash
    decide +kernel
  unfold conditionFlag
  cases h : knownFlags.lookup key with
  | none => exact beginsWithDash_optionFlag key
  | some flag =>
    obtain ⟨l, r, he, -⟩ := List.lookup_eq_some_iff.1 h
    exact hall (key, flag) (by simp [he])

theorem beginsWithDash_of_mem_ruleGroups {r : Rule} {g : Group} (h : g ∈ ruleGroups r) :
    BeginsWithDash g.flag := by
  rcases List.mem_append.1 h with h | h
  · obtain ⟨f, -, hg⟩ := List.mem_flatMap.1 h
    rw [Group.flag_of_mem_ofValue f.value g hg]
    exact beginsWithDash_conditionFlag f.key
  · obtain ⟨f, -, hg⟩ := List.mem_flatMap.1 h
    rw [Group.flag_of_mem_ofValue f.value g hg]
    exact beginsWithDash_optionFlag f.key

theorem begins_of_mem_pieces {g : Group} (h : BeginsWithDash g.flag) :
    ∀ q ∈ g.pieces, q.Begins := by
  have hflag : (Piece.bare g.flag).Begins := ⟨'-', h, rfl⟩
  rcases g with ⟨negated, flag, argument⟩
  cases negated <;> cases argument <;>
    simpa [Group.pieces, Piece.Begins, isPlain, isSeparator] using hflag

end Firewall.Ruleset
