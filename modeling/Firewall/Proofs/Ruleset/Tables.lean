import Firewall.Proofs.Ruleset.FirstFault

/-!
# Tables on their own

`compile_append`: two policies, one after the other, compile as each of them does on its own. The
first fault of the first that has one ends the compiling, and else their texts follow each other. So
no table has a part in the lines of another, and a jump leads to no chain of another table.

1. A text is the lines of a ruleset with line feeds between them and one at the end, and nothing if
   there is no line (`text_eq_joinedLines`), so that texts follow each other as their lines do
   (`text_append`).
2. A computation that runs through two lists does so through one after the other
   (`Logged.mapList_append`).
-/

namespace Firewall.Ruleset

/-! ## Texts -/

/-- Lines with line feeds between them and one at the end; nothing for no line. -/
def joinedLines (ls : List String) : String :=
  if ls.isEmpty then "" else "\n".intercalate ls ++ "\n"

theorem joinedLines_cons (l : String) (ls : List String) :
    joinedLines (l :: ls) = l ++ "\n" ++ joinedLines ls := by
  cases ls with
  | nil => simp [joinedLines]
  | cons m ls => simp [joinedLines, String.intercalate_cons_of_ne_nil, String.append_assoc]

theorem text_eq_joinedLines (ds : List Directive) :
    text ds = joinedLines (ds.map Directive.line) := by
  induction ds with
  | nil => rfl
  | cons d ds ih =>
    rw [List.map_cons, joinedLines_cons, ← ih, text, List.map_cons, String.join_cons, text]

theorem text_append (ds es : List Directive) : text (ds ++ es) = text ds ++ text es := by
  rw [text, List.map_append, String.join_append, text, text]

/-! ## Policies one after the other -/

/-- Compiling goes on with the second policy after the first. -/
theorem compile_append_eq_andThen (p q : Policy) :
    compile ⟨p.tables ++ q.tables⟩ =
      (compile p).andThen fun s => (compile q).andThen fun t => .ok (s ++ t) := by
  unfold compile
  rw [Logged.mapList_append]
  simp only [Logged.andThen_assoc, Logged.ok_andThen, List.flatten_append, text_append]

/-- A policy that compiles is put together from the lines of its tables, each on its own. -/
theorem result_compile_eq_ok_iff_joinedLines {p : Policy} {txt : String} :
    (compile p).result = .ok txt ↔
      (∀ t ∈ p.tables, ∃ ds, compileTable t = .ok ds) ∧
        txt = joinedLines (p.tables.flatMap fun t => (directives t).map Directive.line) := by
  have hfaultless : ∀ t, (∃ ds, compileTable t = .ok ds) ↔ Faultless t := by
    intro t
    simp [compileTable_eq_ok_iff]
  rw [result_compile_eq_ok_iff, text_eq_joinedLines, List.map_flatMap, eq_comm (a := txt)]
  simp only [hfaultless]

/-- A policy with a jump that its own table does not resolve fails to compile. -/
theorem exists_result_compile_eq_error_of_unresolved {p : Policy} {t : Table} (ht : t ∈ p.tables)
    {c : Chain} (hc : c ∈ t.chains) {r : Rule} (hr : r ∈ c.rules)
    (hu : Unresolved t (r.effectiveAction c)) : ∃ f, (compile p).result = .error f := by
  cases hresult : (compile p).result with
  | error f => exact ⟨f, rfl⟩
  | ok txt =>
    have hfaultless := (result_compile_eq_ok_iff.1 hresult).1 t ht
    exact absurd hu (jumpsResolve_iff_not.1 hfaultless.resolves c hc r hr)

/-- **Independent tables.** Two policies, one after the other, compile as each does on its own: the
log goes on, the first fault ends the compiling, and else the texts follow each other. The text of a
policy is put together from the lines of its tables, each of which compiles on its own, and a jump
to a chain that its own table does not declare is a fault, whatever the other tables declare. -/
theorem compile_append (p q : Policy) :
    compile ⟨p.tables ++ q.tables⟩ =
      (compile p).andThen (fun s => (compile q).andThen fun t => .ok (s ++ t)) ∧
    (∀ txt, (compile ⟨p.tables ++ q.tables⟩).result = .ok txt ↔
      (∀ t ∈ p.tables ++ q.tables, ∃ ds, compileTable t = .ok ds) ∧
        txt = joinedLines
          ((p.tables ++ q.tables).flatMap fun t => (directives t).map Directive.line)) ∧
    (∀ t ∈ p.tables ++ q.tables, ∀ c ∈ t.chains, ∀ r ∈ c.rules,
      Unresolved t (r.effectiveAction c) →
        ∃ f, (compile ⟨p.tables ++ q.tables⟩).result = .error f) := by
  refine ⟨compile_append_eq_andThen p q, fun txt => result_compile_eq_ok_iff_joinedLines, ?_⟩
  intro t ht c hc r hr hu
  exact exists_result_compile_eq_error_of_unresolved ht hc hr hu

def webTable : Table := ⟨"filter", [⟨"web", none, none, []⟩]⟩

/-- A table that jumps to a chain of that name, which it does not declare. -/
def foreignJumpTable : Table := ⟨"nat", [⟨"output", none, none, [⟨[], some "web", []⟩]⟩]⟩

theorem compile_append_foreignJump :
    "web" ∈ webTable.chainNames ∧ Unresolved foreignJumpTable "web" ∧
      ∃ f, (compile ⟨[webTable] ++ [foreignJumpTable]⟩).result = .error f := by
  have hu : Unresolved foreignJumpTable "web" := unresolved_iff.2 (by decide +kernel)
  obtain ⟨-, -, hjumps⟩ := compile_append ⟨[webTable]⟩ ⟨[foreignJumpTable]⟩
  refine ⟨List.mem_cons_self, hu, ?_⟩
  exact hjumps foreignJumpTable (by simp) _ List.mem_cons_self _ List.mem_cons_self hu

end Firewall.Ruleset
