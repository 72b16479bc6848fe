import Firewall.Proofs.Policy.Load

/-!
# Loading in sequence

`runsOn_ofValue`: a mapping of tables is loaded from front to back, and so is a mapping of chains.
Two mappings, one after the other, load as each does on its own: the log goes on, the first fault
ends the loading, and nothing is logged after it. A mapping with a single entry logs what its part
logs, and a chain logs a warning for each of its keys without a meaning, in the order of the keys,
before it is built or has a fault.

A computation that runs through two lists does so through one after the other, whatever is put
together from its results (`RunsOn.of_mapList`).
-/

namespace Firewall

/-! ## Computations that run on -/

/-- What is built from a list goes on with a second list where the first one ends, with the results
joined; a failure in the first ends it there. -/
structure RunsOn {ε α β : Type} (join : β → β → β) (build : List α → Logged ε β) : Prop where
  fails : ∀ p s e, (build p).result = .error e → build (p ++ s) = build p
  failsLater : ∀ p s a e, (build p).result = .ok a → (build s).result = .error e →
    build (p ++ s) = ⟨(build p).log ++ (build s).log, .error e⟩
  succeeds : ∀ p s a b, (build p).result = .ok a → (build s).result = .ok b →
    build (p ++ s) = ⟨(build p).log ++ (build s).log, .ok (join a b)⟩

namespace RunsOn

variable {ε α β γ : Type}

theorem of_andThen {join : β → β → β} {build : List α → Logged ε β}
    (h : ∀ p s, build (p ++ s) =
      (build p).andThen fun a => (build s).andThen fun b => .ok (join a b)) :
    RunsOn join build where
  fails p s e hp := by
    rw [h, Logged.andThen, hp]
    exact congrArg (Logged.mk _) hp.symm
  failsLater p s a e hp hs := by
    simp only [h, Logged.andThen, hp, hs]
  succeeds p s a b hp hs := by
    simp only [h, Logged.andThen, hp, hs, Logged.log_ok, Logged.result_ok, List.append_nil]

/-- What is put together from the results for the members of a list runs on. -/
theorem of_mapList {join : β → β → β} {wrap : List γ → β} {f : α → Logged ε γ}
    (hwrap : ∀ xs ys, join (wrap xs) (wrap ys) = wrap (xs ++ ys)) :
    RunsOn join fun as => (Logged.mapList f as).andThen fun xs => .ok (wrap xs) := by
  refine of_andThen fun p s => ?_
  simp only [Logged.mapList_append, Logged.andThen_assoc, Logged.ok_andThen, hwrap]

end RunsOn

/-- What is built from one member logs what the computation on it logs. -/
theorem Logged.log_mapList_singleton {ε α β γ : Type} (f : α → Logged ε β) (wrap : List β → γ)
    (a : α) : ((mapList f [a]).andThen fun bs => ok (wrap bs)).log = (f a).log := by
  rw [mapList, mapList]
  unfold andThen
  cases (f a).result with
  | error e => rfl
  | ok b => simp

/-! ## Warnings -/

namespace Chain

variable {table name : String} {es : List (Value × Value)}

theorem mem_unknownKeys_iff {k : Value} :
    k ∈ unknownKeys es ↔ k ∈ es.map Prod.fst ∧ ∀ s ∈ chainKeys, k ≠ .str s := by
  have hknown : k.isAmong chainKeys = false ↔ ∀ s ∈ chainKeys, k ≠ .str s := by
    cases k with
    | str t =>
      rw [Value.isAmong, ← Bool.not_eq_true, List.contains_iff_mem]
      exact ⟨fun h s hs hk => h (Value.str.inj hk ▸ hs), fun h ht => h t ht rfl⟩
    | _ => simp [Value.isAmong]
  rw [← hknown, unknownKeys, List.mem_map, List.mem_map]
  constructor
  · rintro ⟨e, he, rfl⟩
    obtain ⟨he, hk⟩ := List.mem_filter.1 he
    exact ⟨⟨e, he, rfl⟩, by simpa using hk⟩
  · rintro ⟨⟨e, he, rfl⟩, hk⟩
    exact ⟨e, List.mem_filter.2 ⟨he, by simpa using hk⟩, rfl⟩

/-- A chain logs a warning for each key without a meaning, in the order of the keys, and then it is
built or has a fault. -/
structure WarnsFirst (table name : String) (es : List (Value × Value)) : Prop where
  log : (ofValue table name (.map es)).log = (unknownKeys es).map (ignoredKey table name)
  keys : ∀ k, k ∈ unknownKeys es ↔ k ∈ es.map Prod.fst ∧ ∀ s ∈ chainKeys, k ≠ .str s
  order : (unknownKeys es).Sublist (es.map Prod.fst)
  result : (ofValue table name (.map es)).result = ofEntries table name es

theorem warnsFirst (table name : String) (es : List (Value × Value)) :
    WarnsFirst table name es where
  log := by rw [ofValue_map_eq]
  keys _ := mem_unknownKeys_iff
  order := List.filter_sublist.map Prod.fst
  result := by rw [ofValue_map_eq]

/-- A value that is no mapping is warned about nowhere. -/
theorem log_ofValue_of_ne_map {v : Value} (h : ∀ es, v ≠ .map es) :
    (ofValue table name v).log = [] := by
  cases v with
  | map es => exact absurd rfl (h es)
  | _ => rfl

end Chain

/-! ## Tables and policies -/

/-- What loading has begun with is not changed by what comes later, and the rest is loaded as if it
stood alone. -/
theorem runsOn_ofValue :
    RunsOn (fun p q : Policy => ⟨p.tables ++ q.tables⟩) (fun es => Policy.ofValue (.map es)) ∧
    (∀ name, RunsOn (fun t u : Table => ⟨name, t.chains ++ u.chains⟩)
      fun es => Table.ofValue name (.map es)) ∧
    (∀ k w key, k.text? = some key →
      (Policy.ofValue (.map [(k, w)])).log = (Table.ofValue key w).log ∧
      ∀ name, (Table.ofValue name (.map [(k, w)])).log = (Chain.ofValue name key w).log) ∧
    (∀ table name v, (∀ es, v ≠ .map es) → (Chain.ofValue table name v).log = []) ∧
    (∀ table name es, Chain.WarnsFirst table name es) := by
  refine ⟨.of_mapList fun _ _ => rfl, fun name => .of_mapList fun _ _ => rfl, ?_,
    fun _ _ _ => Chain.log_ofValue_of_ne_map, Chain.warnsFirst⟩
  intro k w key hk
  have hname : nameOf k = .ok key := by rw [nameOf, hk]
  constructor
  · rw [Policy.ofValue, Logged.log_mapList_singleton, hname, Logged.ok_andThen]
  · intro name
    rw [Table.ofValue, Logged.log_mapList_singleton, hname, Logged.ok_andThen]

/-- A table with a chain that has a key without a meaning. -/
def oddKeyEntries : List (Value × Value) :=
  [(.str "filter", .map [(.str "input", .map [(.str "polcy", .str "drop")])])]

/-- A table with a chain that also has one, before a fault, and with another chain after that. -/
def faultyEntries : List (Value × Value) :=
  [(.str "nat", .map [(.str "output", .map [(.str "rules", .str "x"), (.null, .null)]),
    (.str "web", .map [(.str "odd", .null)])])]

theorem runsOn_ofValue_oddKey :
    Policy.ofValue (.map (oddKeyEntries ++ faultyEntries)) =
      ⟨[ignoredKey "filter" "input" (.str "polcy")] ++ [ignoredKey "nat" "output" .null],
        .error (.rulesNotList "nat" "output")⟩ := by
  obtain ⟨htables, -⟩ := runsOn_ofValue
  have hp : Policy.ofValue (.map oddKeyEntries) =
      ⟨[ignoredKey "filter" "input" (.str "polcy")], .ok ⟨[⟨"filter", [.bare "input"]⟩]⟩⟩ := by
    rfl
  have hs : Policy.ofValue (.map faultyEntries) =
      ⟨[ignoredKey "nat" "output" .null], .error (.rulesNotList "nat" "output")⟩ := by
    rfl
  have happend := htables.failsLater oddKeyEntries faultyEntries ⟨[⟨"filter", [.bare "input"]⟩]⟩
    (.rulesNotList "nat" "output") (by rw [hp]) (by rw [hs])
  rw [happend, hp, hs]

end Firewall
