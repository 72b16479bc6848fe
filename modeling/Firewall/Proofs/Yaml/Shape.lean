import Firewall.Proofs.Yaml.NodeValue

/-!
# Shapes of values

`Document.madeOf_of_value`: the value of a document is put together from scalars by lists and
mappings, and by the sets and the lists of pairs that nodes of these types stand for. So a tuple
stands nowhere but in a list of pairs, and a document without such nodes has no sets and no tuples.
-/

namespace Firewall.Yaml

/-- The value is put together from scalars, with sets and lists of pairs only where their types are
used. -/
inductive MadeOf (used : Tag → Prop) : Value → Prop
  | scalar {v : Value} (h : v.isScalar = true) : MadeOf used v
  | list {items : List Value} (h : ∀ v ∈ items, MadeOf used v) : MadeOf used (.list items)
  | map {entries : List (Value × Value)} (hkey : ∀ e ∈ entries, MadeOf used e.1)
      (hvalue : ∀ e ∈ entries, MadeOf used e.2) : MadeOf used (.map entries)
  | set {items : List Value} (htag : used .set) (h : ∀ v ∈ items, MadeOf used v) :
      MadeOf used (.set items)
  | pairs {entries : List (Value × Value)} (htag : used .omap ∨ used .pairs)
      (hkey : ∀ e ∈ entries, MadeOf used e.1) (hvalue : ∀ e ∈ entries, MadeOf used e.2) :
      MadeOf used (.list (entries.map fun e => .tuple [e.1, e.2]))

/-- Where more types are used, no fewer values can be put together. -/
theorem MadeOf.mono {used used' : Tag → Prop} (hused : ∀ tag, used tag → used' tag) {v : Value}
    (h : MadeOf used v) : MadeOf used' v := by
  induction h with
  | scalar h => exact .scalar h
  | list _ ih => exact .list ih
  | map _ _ hkey hvalue => exact .map hkey hvalue
  | set htag _ ih => exact .set (hused _ htag) ih
  | pairs htag _ _ hkey hvalue => exact .pairs (htag.imp (hused _) (hused _)) hkey hvalue

namespace Sketch

variable {ns : Nodes} {sketches : Array (Option Sketch)} {part : NodeId → Option Value}

theorem madeOf_value (h : ∀ id v, part id = some v → MadeOf ns.Uses v) {id : NodeId}
    {s : Sketch} (hs : s.FromNodes ns id) {v : Value} (hv : value sketches part s = some v) :
    MadeOf ns.Uses v := by
  have hentries {es : List (NodeId × NodeId)} {entries : List (Value × Value)}
      (hes : es.mapM (value.pair part) = some entries) :
      ∀ e ∈ entries, MadeOf ns.Uses e.1 ∧ MadeOf ns.Uses e.2 := by
    intro e he
    obtain ⟨_, -, hpair⟩ := exists_of_forall₂ (mapM_eq_some_iff.1 hes) he
    exact of_pair_eq_some h hpair
  cases s with
  | scalar w =>
    cases hv
    exact .scalar hs
  | nan =>
    cases hv
    exact .scalar rfl
  | list items =>
    obtain ⟨vs, hvs, rfl⟩ := Option.map_eq_some_iff.1 hv
    refine .list fun v hv => ?_
    obtain ⟨i, -, hi⟩ := exists_of_forall₂ (mapM_eq_some_iff.1 hvs) hv
    exact h i v hi
  | map es =>
    obtain ⟨entries, hes, rfl⟩ := Option.map_eq_some_iff.1 hv
    exact .map (fun e he => (hentries hes e he).1) fun e he => (hentries hes e he).2
  | set es =>
    obtain ⟨vs, hvs, rfl⟩ := Option.map_eq_some_iff.1 hv
    refine .set hs.1 fun v hv => ?_
    obtain ⟨e, -, he⟩ := exists_of_forall₂ (mapM_eq_some_iff.1 hvs) hv
    exact h e.1 v he
  | pairs es =>
    obtain ⟨entries, hes, rfl⟩ := Option.map_eq_some_iff.1 hv
    exact .pairs hs.1 (fun e he => (hentries hes e he).1) fun e he => (hentries hes e he).2

end Sketch

/-- The value of a document is of a shape that its nodes allow. -/
theorem Document.madeOf_of_value {d : Document} {v : Value} (h : d.value = .ok v) :
    MadeOf d.nodes.Uses v := by
  obtain ⟨b, -, hv⟩ := d.exists_of_value_eq_ok d.sound_build (Build.sketched_start _ _)
    (P := fun _ _ v => MadeOf d.nodes.Uses v)
    (fun b hb id s part hs hpart v hv => Sketch.madeOf_value hpart (hb.sketches id s hs) hv)
    (fun _ _ _ => .scalar rfl) h
  exact hv

end Firewall.Yaml
