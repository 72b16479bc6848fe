import Mathlib.Data.List.Chain
import Mathlib.Logic.Relation
import Firewall.Proofs.Steps
import Firewall.Yaml.Merge

/-!
# Merging nodes

`Merging.yields_entries`: merging changes nodes only as `Nodes.DerivedFrom` says, brings into a
mapping only nodes that it holds anyway, and fails only if the document is malformed or if many
nodes stand one inside the other.

A node may hold itself, so that the recursion follows no order of the nodes. What bounds it is the
number of calls: each one goes from a node to one inside it, so that calls that run out have passed
through a chain of nodes, each holding the next.
-/

namespace Firewall.Yaml

/-! ## Nodes inside others -/

def Content.parts : Content → List NodeId
  | .scalar _ => []
  | .sequence items => items
  | .mapping entries => entries.flatMap fun e => [e.1, e.2]

theorem Content.mem_parts_mapping {es : List (NodeId × NodeId)} {p : NodeId} :
    p ∈ (Content.mapping es).parts ↔ ∃ e ∈ es, p = e.1 ∨ p = e.2 := by
  simp [parts]

namespace Nodes

variable {ns ms : Nodes} {id : NodeId}

/-- A node of the table has a part. -/
def Part (ns : Nodes) (id part : NodeId) : Prop :=
  ∃ n, ns[id]? = some n ∧ part ∈ n.content.parts

/-- A node stands inside another. -/
abbrev Holds (ns : Nodes) : NodeId → NodeId → Prop := Relation.TransGen ns.Part

/-- The node is followed by so many, each inside the one before. -/
def DeepFrom (ns : Nodes) (n : Nat) (id : NodeId) : Prop :=
  ∃ ids : List NodeId, ids.length = n ∧ (id :: ids).IsChain ns.Holds

theorem DeepFrom.zero (id : NodeId) : ns.DeepFrom 0 id := ⟨[], rfl, .singleton id⟩

theorem DeepFrom.succ {n : Nat} {inner : NodeId} (h : ns.DeepFrom n inner)
    (hin : ns.Holds id inner) : ns.DeepFrom (n + 1) id := by
  obtain ⟨ids, rfl, hchain⟩ := h
  exact ⟨inner :: ids, rfl, .cons_cons hin hchain⟩

theorem DeepFrom.mono {m n : Nat} (h : ns.DeepFrom n id) (hmn : m ≤ n) : ns.DeepFrom m id := by
  obtain ⟨ids, rfl, hchain⟩ := h
  exact ⟨ids.take m, List.length_take_of_le hmn, hchain.take (m + 1)⟩

/-- A node holds both nodes of each entry. -/
def HoldsAll (ns : Nodes) (id : NodeId) (es : List (NodeId × NodeId)) : Prop :=
  ∀ e ∈ es, ns.Holds id e.1 ∧ ns.Holds id e.2

theorem HoldsAll.trans {inner : NodeId} {es : List (NodeId × NodeId)} (h : ns.HoldsAll inner es)
    (hin : ns.Holds id inner) : ns.HoldsAll id es :=
  fun e he => ⟨hin.trans (h e he).1, hin.trans (h e he).2⟩

end Nodes

/-! ## Nodes that differ by merging -/

/-- The node may have turned into a text, and its entries may have changed. -/
structure Node.DerivedFrom (n m : Node) : Prop where
  tag : n.tag = m.tag ∨ n.tag = .str
  content : n.content = m.content ∨ n.content.isMapping = true ∧ m.content.isMapping = true

namespace Node.DerivedFrom

variable {n m : Node}

theorem isMapping_eq (h : n.DerivedFrom m) : n.content.isMapping = m.content.isMapping := by
  obtain hc | ⟨hn, hm⟩ := h.content
  · rw [hc]
  · rw [hn, hm]

theorem scalar (h : n.DerivedFrom m) {text : String} (hn : n.content = .scalar text) :
    m.content = .scalar text := by
  obtain hc | ⟨hmap, -⟩ := h.content
  · rw [← hc, hn]
  · rw [hn] at hmap
    cases hmap

end Node.DerivedFrom

namespace Nodes

variable {ns ms : Nodes} {id : NodeId}

/-- Every node is one of `ms` at the same place, but for what merging changes, and its parts stand
inside that one. -/
def DerivedFrom (ns ms : Nodes) : Prop :=
  ∀ (id : NodeId) (n : Node), ns[id]? = some n →
    ∃ m, ms[id]? = some m ∧ n.DerivedFrom m ∧ ∀ p ∈ n.content.parts, ms.Holds id p

namespace DerivedFrom

theorem refl (ns : Nodes) : ns.DerivedFrom ns :=
  fun _ n hn => ⟨n, hn, ⟨.inl rfl, .inl rfl⟩, fun _ hp => .single ⟨n, hn, hp⟩⟩

theorem empty : Nodes.DerivedFrom #[] ms := by
  intro id n hn
  cases hn

theorem retag (h : ns.DerivedFrom ms) (id : NodeId) : (ns.retag id .str).DerivedFrom ms := by
  intro j n hn
  rw [Nodes.retag, Array.getElem?_modify] at hn
  split at hn
  · obtain ⟨n', hn', rfl⟩ := Option.map_eq_some_iff.1 hn
    obtain ⟨m, hm, hd, hparts⟩ := h j n' hn'
    exact ⟨m, hm, ⟨.inr rfl, hd.content⟩, hparts⟩
  · exact h j n hn

theorem setEntries (h : ns.DerivedFrom ms)
    (hmap : ∀ m, ms[id]? = some m → m.content.isMapping = true) {es : List (NodeId × NodeId)}
    (hes : ms.HoldsAll id es) : (ns.setEntries id es).DerivedFrom ms := by
  intro j n hn
  rw [Nodes.setEntries, Array.getElem?_modify] at hn
  split at hn
  case isTrue hid =>
    subst hid
    obtain ⟨n', hn', rfl⟩ := Option.map_eq_some_iff.1 hn
    obtain ⟨m, hm, hd, -⟩ := h _ n' hn'
    refine ⟨m, hm, ⟨hd.tag, .inr ⟨rfl, hmap m hm⟩⟩, fun p hp => ?_⟩
    obtain ⟨e, he, rfl | rfl⟩ := Content.mem_parts_mapping.1 hp
    · exact (hes e he).1
    · exact (hes e he).2
  case isFalse => exact h j n hn

theorem holds_of_part (h : ns.DerivedFrom ms) {p : NodeId} (hp : ns.Part id p) : ms.Holds id p := by
  obtain ⟨n, hn, hp⟩ := hp
  obtain ⟨m, -, -, hparts⟩ := h id n hn
  exact hparts p hp

theorem holds (h : ns.DerivedFrom ms) {p : NodeId} (hp : ns.Holds id p) : ms.Holds id p :=
  Relation.TransGen.closed (fun _ _ hp => h.holds_of_part hp) id p hp

theorem deepFrom (h : ns.DerivedFrom ms) {n : Nat} (hd : ns.DeepFrom n id) : ms.DeepFrom n id := by
  obtain ⟨ids, hlen, hchain⟩ := hd
  exact ⟨ids, hlen, hchain.imp fun _ _ hp => h.holds hp⟩

/-- A node with entries is a mapping, also before merging, and holds them. -/
theorem of_entries? (h : ns.DerivedFrom ms) {es : List (NodeId × NodeId)}
    (hes : ns.entries? id = some es) :
    (∀ m, ms[id]? = some m → m.content.isMapping = true) ∧ ms.HoldsAll id es := by
  unfold entries? at hes
  split at hes
  case h_1 tag es' hn =>
    cases hes
    obtain ⟨m', hm', hd, hparts⟩ := h id _ hn
    refine ⟨fun m hm => ?_, fun e he => ⟨hparts _ ?_, hparts _ ?_⟩⟩
    · rw [hm'] at hm
      cases hm
      rw [← hd.isMapping_eq]
      rfl
    · exact Content.mem_parts_mapping.2 ⟨e, he, .inl rfl⟩
    · exact Content.mem_parts_mapping.2 ⟨e, he, .inr rfl⟩
  case h_2 => cases hes

theorem of_items? (h : ns.DerivedFrom ms) {items : List NodeId}
    (hitems : ns.items? id = some items) : ∀ i ∈ items, ms.Holds id i := by
  unfold items? at hitems
  split at hitems
  case h_1 tag items' hn =>
    cases hitems
    exact fun i hi => h.holds_of_part ⟨_, hn, hi⟩
  case h_2 => cases hitems

end DerivedFrom

end Nodes

/-! ## Merging -/

namespace Merging

variable {ms : Nodes} {id : NodeId}

/-- The faults of merging with so many calls left: the document is malformed, or as many nodes stand
one inside the other. -/
def FaultFrom (ms : Nodes) (n : Nat) (id : NodeId) (g : Fault) : Prop :=
  g = .malformed ∨ g = .tooDeep ∧ ms.DeepFrom n id

theorem FaultFrom.succ {n : Nat} {inner : NodeId} (hin : ms.Holds id inner) (g : Fault)
    (h : FaultFrom ms n inner g) : FaultFrom ms (n + 1) id g :=
  h.imp_right fun h => ⟨h.1, h.2.succ hin⟩

theorem yields_own {E : Fault → Prop} (hE : E .malformed) (id : NodeId) :
    Yields (fun ns : Nodes => ns.DerivedFrom ms) E
      (fun es => (∀ m, ms[id]? = some m → m.content.isMapping = true) ∧ ms.HoldsAll id es)
      (own id) := by
  refine .get_bind fun ns hns => ?_
  split
  · next es hes => exact .pure (hns.of_entries? hes)
  · exact .throw hE

theorem safe_settleKey {E : Fault → Prop} (key : NodeId) :
    Safe (fun ns : Nodes => ns.DerivedFrom ms) E (settleKey key) :=
  .get_bind fun _ _ => .ite (.modify fun _ h => h.retag key) (.pure _)

/-- Merging changes nodes as it may and brings into a mapping what the mapping holds. -/
theorem yields_entries (n : Nat) (id : NodeId) :
    Yields (fun ns : Nodes => ns.DerivedFrom ms) (FaultFrom ms n id) (ms.HoldsAll id)
      (entries n id) := by
  induction n generalizing id with
  | zero => exact .throw (.inr ⟨rfl, .zero id⟩)
  | succ n ih =>
    have hown := @yields_own ms (FaultFrom ms (n + 1) id) (.inl rfl) id
    -- what a node inside brings, the mapping holds
    have hbrought {inner : NodeId} (hin : ms.Holds id inner) :
        Yields (fun ns : Nodes => ns.DerivedFrom ms) (FaultFrom ms (n + 1) id) (ms.HoldsAll id)
          (entries n inner) :=
      (ih inner).imp (FaultFrom.succ hin) fun es hes => hes.trans hin
    rw [entries]
    refine hown.bind fun all hall => .get_bind fun ns hns => ?_
    refine .bind (Q := fun brought => ∀ es ∈ brought, ms.HoldsAll id es)
      (.mapM fun merge _ => ?_) fun brought hb => hown.bind fun rest hrest => ?_
    · refine hown.bind fun es hes => ?_
      split
      · next hmem =>
        have hin := (hes.2 merge hmem).2
        have hrest : ms.HoldsAll id (es.erase merge) :=
          fun e he => hes.2 e (List.mem_of_mem_erase he)
        refine .modify_bind (fun _ h => h.setEntries hes.1 hrest) (.get_bind fun ns hns => ?_)
        split
        · exact hbrought hin
        · next items hitems =>
          refine .bind (Q := fun parts => ∀ es ∈ parts, ms.HoldsAll id es)
            (.mapM fun item hi => hbrought (hin.trans (hns.of_items? hitems item hi)))
            fun parts hparts => .pure fun e he => ?_
          obtain ⟨es, hes, he⟩ := List.mem_flatten.1 he
          exact hparts es (List.mem_reverse.1 hes) e he
      · exact .pure nofun
    · have hes : ms.HoldsAll id (brought.flatten ++ rest) := by
        intro e he
        rcases List.mem_append.1 he with he | he
        · obtain ⟨es, hes, he⟩ := List.mem_flatten.1 he
          exact hb es hes e he
        · exact hrest.2 e he
      exact .bind (.of_safe (.forM (fun e => safe_settleKey e.1) rest)) fun _ _ =>
        .modify_bind (fun _ h => h.setEntries hrest.1 hes) (.pure hes)

end Merging

end Firewall.Yaml
