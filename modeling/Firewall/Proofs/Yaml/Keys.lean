import Firewall.Proofs.Mapping
import Firewall.Proofs.Yaml.NodeValue
import Firewall.Proofs.Yaml.ScalarValue

/-!
# Keys of mappings

`wellKeyed_of_read`: in the value that a text means, every mapping has scalars for keys, in their
proper form, and no key replaces one that stands before it.

1. Whatever is known of a mapping, its keys are known to be scalars, and this stays so until no
   collection waits (`Build.safe_openAll`).
2. When values are put together, a key has the value that it is known as
   (`Sketch.keyedValue_value`).
-/

namespace Firewall.Yaml

/-! ## Merging -/

theorem Merging.safe_entries (size n : Nat) (id : NodeId) :
    Safe (fun ns : Nodes => ns.size = size) (fun _ : Fault => True) (entries n id) := by
  have hown (id : NodeId) :
      Safe (fun ns : Nodes => ns.size = size) (fun _ : Fault => True) (own id) := by
    refine .get_bind fun ns _ => ?_
    split
    · exact .pure _
    · exact .throw trivial
  have hset (id : NodeId) (es : List (NodeId × NodeId)) :
      Safe (fun ns : Nodes => ns.size = size) (fun _ : Fault => True)
        (modify fun ns => ns.setEntries id es) :=
    .modify fun _ h => Array.size_modify.trans h
  induction n generalizing id with
  | zero => exact .throw trivial
  | succ n ih =>
    rw [entries]
    refine (hown id).bind fun all => .get_bind fun ns _ =>
      .bind (.mapM (fun merge => ?_) _) fun _ =>
        (hown id).bind fun rest => .bind (.forM (fun e => ?_) rest) fun _ =>
          (hset id _).bind fun _ => .pure _
    · refine (hown id).bind fun es => ?_
      split
      · refine (hset id _).bind fun _ => .get_bind fun ns _ => ?_
        split
        · exact ih _
        · exact .bind (.mapM ih _) fun _ => .pure _
      · exact .pure _
    · exact .get_bind fun ns _ =>
        .ite (.modify fun _ h => Array.size_modify.trans h) (.pure _)

/-! ## Building -/

namespace Building

variable {b b' : Building}

/-- What is known of a node. -/
def Knows (b : Building) (id : NodeId) (s : Sketch) : Prop := b.sketches[id]? = some (some s)

theorem Knows.eq {id : NodeId} {s t : Sketch} (hs : b.Knows id s) (ht : b.Knows id t) : s = t :=
  Option.some.inj (Option.some.inj (hs.symm.trans ht))

theorem Knows.getD_eq {id : NodeId} {s : Sketch} (hs : b.Knows id s) :
    b.sketches.getD id none = some s := by
  rw [Array.getD_eq_getD_getElem?, show b.sketches[id]? = _ from hs, Option.getD_some]

/-- The value that a node is known as, if it is a key. -/
def keyOf (b : Building) (id : NodeId) : Value :=
  match b.sketches.getD id none with
  | some (.scalar v) => v
  | _ => .float .nan

/-- The node is known to be a key. -/
def KnowsKey (b : Building) (id : NodeId) : Prop := ∃ s, b.Knows id s ∧ s.isKey = true

/-- What may be known of a node: proper scalars, and mappings whose keys are known to be keys. -/
def Allows (b : Building) : Sketch → Prop
  | .scalar v => v.isScalar = true ∧ v.IsProper
  | .map es => ∀ e ∈ es, b.KnowsKey e.1
  | _ => True

/-- Nothing is known but what may be. -/
structure Keyed (b : Building) : Prop where
  size : b.nodes.size ≤ b.sketches.size
  allows : ∀ id s, b.Knows id s → b.Allows s

theorem Allows.mono (hkeys : ∀ id, b.KnowsKey id → b'.KnowsKey id) {s : Sketch}
    (h : b.Allows s) : b'.Allows s := by
  cases s with
  | map es => exact fun e he => hkeys e.1 (h e he)
  | _ => exact h

theorem not_knows_of_getD {id : NodeId} (h : b.sketches.getD id none = none) (s : Sketch) :
    ¬ b.Knows id s := by
  intro hs
  rw [hs.getD_eq] at h
  cases h

/-! ### Learning -/

/-- What is known after something has been learnt of a node. -/
def learn (b : Building) (id : NodeId) (s : Sketch) (waiting : List NodeId) : Building :=
  ⟨b.nodes, b.sketches.setIfInBounds id (some s), waiting⟩

variable {id : NodeId} {s : Sketch} {waiting : List NodeId}

theorem knows_learn_iff (hid : id < b.sketches.size) {j : NodeId} {t : Sketch} :
    (b.learn id s waiting).Knows j t ↔ if id = j then s = t else b.Knows j t := by
  rw [Knows, learn, Array.getElem?_setIfInBounds]
  split
  · next hij =>
    subst hij
    simp
  · exact Iff.rfl

theorem knows_learn_self (hid : id < b.sketches.size) : (b.learn id s waiting).Knows id s := by
  rw [knows_learn_iff hid, if_pos rfl]

/-- What is learnt of a node may be anything that it can be known as, but a key stays a key. -/
theorem Keyed.learn (h : b.Keyed) (hid : id < b.sketches.size) (hs : b.Allows s)
    (hkey : b.KnowsKey id → s.isKey = true) : (b.learn id s waiting).Keyed where
  size := by
    rw [Building.learn, Array.size_setIfInBounds]
    exact h.size
  allows := by
    have hkeys (j : NodeId) (hj : b.KnowsKey j) : (b.learn id s waiting).KnowsKey j := by
      by_cases hij : id = j
      · subst hij
        exact ⟨s, knows_learn_self hid, hkey hj⟩
      · obtain ⟨t, ht, htkey⟩ := hj
        exact ⟨t, (knows_learn_iff hid).2 (by rwa [if_neg hij]), htkey⟩
    intro j t hj
    rw [knows_learn_iff hid] at hj
    split at hj
    · next hij =>
      subst hij hj
      exact hs.mono hkeys
    · exact (h.allows j t hj).mono hkeys

/-! ### What stays true -/

/-- What stays true when more nodes are known. -/
def Stable (P : Building → Prop) : Prop :=
  ∀ b b' : Building, (∀ id s, b.Knows id s → b'.Knows id s) → P b → P b'

theorem stable_true : Stable fun _ => True := fun _ _ _ _ => trivial

theorem stable_knows (id : NodeId) (s : Sketch) : Stable fun b => b.Knows id s :=
  fun _ _ h hs => h id s hs

theorem stable_knowsKey (id : NodeId) : Stable fun b => b.KnowsKey id := by
  rintro b b' h ⟨s, hs, hkey⟩
  exact ⟨s, h id s hs, hkey⟩

theorem Stable.and {P Q : Building → Prop} (hP : Stable P) (hQ : Stable Q) :
    Stable fun b => P b ∧ Q b := fun b b' h hb => ⟨hP b b' h hb.1, hQ b b' h hb.2⟩

/-- A node that was not known gets known. -/
theorem Stable.learn {P : Building → Prop} (hP : Stable P) (h : P b) (hid : id < b.sketches.size)
    (hnew : ∀ t, ¬ b.Knows id t) : P (b.learn id s waiting) := by
  refine hP _ _ (fun j t hj => (knows_learn_iff hid).2 ?_) h
  split
  · next hij => exact absurd hj (hij ▸ hnew t)
  · exact hj

end Building

namespace Build

open Building

abbrev Any : Fault → Prop := fun _ => True

variable {P : Building → Prop}

theorem lt_size_of_tag? {ns : Nodes} {id : NodeId} {tag : Tag} (h : ns.tag? id = some tag) :
    id < ns.size := by
  obtain ⟨n, hn, -⟩ := Option.map_eq_some_iff.1 h
  exact (Array.getElem?_eq_some_iff.1 hn).1

theorem lt_size_of_ofScalar {ns : Nodes} {id : NodeId} {s : Sketch}
    (h : Sketch.ofScalar ns id = .ok s) : id < ns.size := by
  dsimp only [Sketch.ofScalar] at h
  split at h
  · cases h
  · next n hn => exact (Array.getElem?_eq_some_iff.1 hn).1

theorem allows_of_ofScalar {b : Building} {ns : Nodes} {id : NodeId} {s : Sketch}
    (h : Sketch.ofScalar ns id = .ok s) : b.Allows s := by
  obtain rfl | ⟨tag, text, v, hv, rfl⟩ := (Sketch.gives_ofScalar ns id).of_eq_ok h
  · exact trivial
  · exact ⟨ScalarValue.isScalar_of_ofText hv, ScalarValue.isProper_of_ofText hv⟩

/-- A collection that is not open has no entries. -/
theorem allows_of_closed? {b : Building} {tag : Tag} {s : Sketch}
    (h : Sketch.closed? tag = some s) : b.Allows s := by
  cases tag with
  | map =>
    cases h
    exact nofun
  | seq | set | omap | pairs =>
    cases h
    exact trivial
  | _ => cases h

/-- Looking at a node keeps what is known and tells what is known of the node then. -/
theorem leads_look (hP : Stable P) (id : NodeId) :
    Leads (fun b => b.Keyed ∧ P b) Any (fun s b => b.Keyed ∧ P b ∧ b.Knows id s) (look id) := by
  refine .get_bind fun b hb => ?_
  split
  · next s hs =>
    refine .pure ?_
    rintro _ rfl
    exact ⟨hb.1, hb.2, getElem?_of_getD_none hs⟩
  next hnone =>
  have hnew := not_knows_of_getD hnone
  have hlearn {s : Sketch} {waiting : List NodeId} (hid : id < b.nodes.size)
      (hs : b.Allows s) : (b.learn id s waiting).Keyed ∧ P (b.learn id s waiting) ∧
        (b.learn id s waiting).Knows id s := by
    have hlt := Nat.lt_of_lt_of_le hid hb.1.size
    refine ⟨hb.1.learn hlt hs ?_, hP.learn hb.2 hlt hnew, knows_learn_self hlt⟩
    rintro ⟨t, ht, -⟩
    exact absurd ht (hnew t)
  refine .get_bind fun b₁ hb₁ => ?_
  subst hb₁
  split
  · next s hs =>
    obtain ⟨tag, htag, hclosed⟩ := Option.bind_eq_some_iff.1 hs
    refine .bind (Q := fun _ b => b.Keyed ∧ P b ∧ b.Knows id s) (.modify ?_) fun _ =>
      .pure fun _ h => h
    rintro _ rfl
    exact hlearn (lt_size_of_tag? htag) (allows_of_closed? hclosed)
  refine .get_bind fun b₂ hb₂ => ?_
  subst hb₂
  refine .lift_bind (fun _ _ => trivial) fun s hs => ?_
  refine .bind (Q := fun _ b => b.Keyed ∧ P b ∧ b.Knows id s) (.modify ?_) fun _ =>
    .pure fun _ h => h
  rintro _ rfl
  exact hlearn (lt_size_of_ofScalar hs) (allows_of_ofScalar hs)

theorem safe_look (hP : Stable P) (id : NodeId) :
    Safe (fun b => b.Keyed ∧ P b) Any (look id) :=
  .of_leads ((leads_look hP id).imp (fun _ h => h) fun _ _ h => ⟨h.1, h.2.1⟩)

theorem leads_lookAtKey (hP : Stable P) (id : NodeId) :
    Leads (fun b => b.Keyed ∧ P b) Any (fun _ b => b.Keyed ∧ P b ∧ b.KnowsKey id)
      (lookAtKey id) := by
  refine (leads_look hP id).bind fun s => ?_
  split
  · exact .throw trivial
  · next hkey => exact .pure fun _ h => ⟨h.1, h.2.1, s, h.2.2, by simpa using hkey⟩

theorem safe_items (hP : Stable P) (id : NodeId) :
    Safe (fun b => b.Keyed ∧ P b) Any (items id) := by
  refine .get_bind fun b _ => ?_
  split
  · exact .throw trivial
  · exact .bind (.forM (fun i => .map _ (safe_look hP i)) _) fun _ => .pure _

theorem safe_onlyEntries (hP : Stable P) (id : NodeId) :
    Safe (fun b => b.Keyed ∧ P b) Any (onlyEntries id) := by
  refine .get_bind fun b _ => ?_
  split
  · exact .throw trivial
  refine .mapM (fun i => .get_bind fun b _ => ?_) _
  split
  · exact .bind (.map _ (safe_look hP _)) fun _ => .bind (.map _ (safe_look hP _)) fun _ => .pure _
  · exact .throw trivial

theorem leads_lookAtEntries (hP : Stable P) (es : List (NodeId × NodeId)) :
    Leads (fun b => b.Keyed ∧ P b) Any
      (fun _ b => b.Keyed ∧ P b ∧ ∀ e ∈ es, b.KnowsKey e.1)
      (es.forM fun (key, value) => do
        lookAtKey key
        discard (look value)) := by
  induction es generalizing P with
  | nil => exact .pure fun _ h => ⟨h.1, h.2, nofun⟩
  | cons e es ih =>
    have hkey := hP.and (stable_knowsKey e.1)
    refine .bind (Q := fun _ b => b.Keyed ∧ P b ∧ b.KnowsKey e.1) ?_ fun _ => ?_
    · exact (leads_lookAtKey hP e.1).bind fun _ => ((safe_look hkey e.2).map _).leads
    · exact (ih hkey).imp (fun _ h => h) fun _ _ h =>
        ⟨h.1, h.2.1.1, List.forall_mem_cons.2 ⟨h.2.1.2, h.2.2⟩⟩

/-- The entries of a mapping that has been merged have keys that are known. -/
theorem leads_entries (hP : Stable P) (id : NodeId) :
    Leads (fun b => b.Keyed ∧ P b) Any
      (fun es b => b.Keyed ∧ P b ∧ ∀ e ∈ es, b.KnowsKey e.1) (entries id) := by
  -- while merging works on the nodes, the state holds none of them
  refine .modifyGet_bind fun b hb => .lift_bind (fun _ _ => trivial) ?_
  rintro ⟨es, merged⟩ hes
  have hsize : merged.size = b.nodes.size :=
    (Merging.safe_entries b.nodes.size greatestCalls id).ok rfl hes
  refine .bind (Q := fun _ b => b.Keyed ∧ P b) (.modify ?_) fun _ =>
    (leads_lookAtEntries hP es).bind fun _ => .pure fun _ h => h
  rintro _ rfl
  refine ⟨⟨hsize.trans_le hb.1.size, fun j t hj => ?_⟩, hP b _ (fun _ _ h => h) hb.2⟩
  exact (hb.1.allows j t hj).mono fun _ h => h

/-- An opened node is known as what may be known of it, and a key as a key. -/
theorem leads_opened (id : NodeId) :
    Leads Keyed Any (fun s b => b.Keyed ∧ b.Allows s ∧ (b.KnowsKey id → s.isKey = true))
      (opened id) := by
  -- what is no key stays no key while the collection is opened
  have hno {s : Sketch} (hs : s.isKey = false) {b : Building} (h : b.Knows id s) (t : Sketch) :
      b.KnowsKey id → t.isKey = true := by
    rintro ⟨t', ht', hkey⟩
    rw [← h.eq ht', hs] at hkey
    cases hkey
  refine .bind ((leads_look stable_true id).imp (fun _ h => ⟨h, trivial⟩) fun s b h =>
    (⟨h.1, h.2.2⟩ : b.Keyed ∧ b.Knows id s)) fun s => ?_
  have hstable := stable_knows id s
  split
  · exact .bind (safe_items hstable id).leads fun _ =>
      .pure fun b h => ⟨h.1, trivial, hno rfl h.2 _⟩
  · exact (leads_entries hstable id).bind fun _ =>
      .pure fun b h => ⟨h.1, h.2.2, hno rfl h.2.1 _⟩
  · exact (leads_entries hstable id).bind fun _ =>
      .pure fun b h => ⟨h.1, trivial, hno rfl h.2.1 _⟩
  · exact .bind (safe_onlyEntries hstable id).leads fun _ =>
      .pure fun b h => ⟨h.1, trivial, hno rfl h.2 _⟩
  · refine .pure fun b h => ⟨h.1, h.1.allows id s h.2, ?_⟩
    rintro ⟨t, ht, hkey⟩
    rwa [h.2.eq ht]

theorem safe_openNode (id : NodeId) : Safe Keyed Any (openNode id) := by
  refine .of_leads ((leads_opened id).bind fun s => .modify fun b h => ?_)
  by_cases hid : id < b.sketches.size
  · exact h.1.learn hid h.2.1 h.2.2
  · rw [Array.setIfInBounds, dif_neg hid]
    exact h.1

theorem safe_openAll (n : Nat) : Safe Keyed Any (openAll n) := by
  induction n with
  | zero => exact .throw trivial
  | succ n ih =>
    refine .get_bind fun b _ => ?_
    split
    · exact .pure _
    · refine .bind (.modify fun b h => ⟨h.size, fun j t hj => ?_⟩) fun _ =>
        .bind (.forM (fun id => safe_openNode id) _) fun _ => ih
      exact (h.allows j t hj).mono fun _ h => h

theorem keyed_start (ns : Nodes) : Keyed ⟨ns, Array.replicate ns.size none, []⟩ where
  size := by simp
  allows id s hs := absurd hs (getElem?_replicate_none_ne _ id s)

end Build

/-! ## Values -/

namespace Sketch

/-- A key has the value it is known as, whatever those of other nodes are. -/
theorem value_of_knows {b : Building} {id : NodeId} {s : Sketch} (hs : b.Knows id s)
    (h : s.isKey = true) (part : NodeId → Option Value) :
    s.value b.sketches part = some (b.keyOf id) := by
  rw [Building.keyOf, hs.getD_eq]
  cases s with
  | scalar | nan => rfl
  | _ => cases h

/-- Of keys that are the same, merging keeps one. -/
theorem pairwise_mergeKeys (sketches : Array (Option Sketch)) (es : List (NodeId × NodeId)) :
    ((mergeKeys sketches es).map Prod.fst).Pairwise fun k l => sameKey sketches l k = false :=
  List.foldlRecOn es _ (motive := fun ps : List (NodeId × NodeId) =>
    (ps.map Prod.fst).Pairwise fun k l => sameKey sketches l k = false) .nil
    fun _ hps e _ => Value.pairwise_insertBy hps e.1 e.2

/-- Keys that are not the same node, nor both the name nan, have values that are not the same. -/
theorem sameKey_keyOf {b : Building} {k l : NodeId} (hk : b.KnowsKey k) (hl : b.KnowsKey l)
    (h : sameKey b.sketches k l = false) : Value.sameKey (b.keyOf k) (b.keyOf l) = false := by
  obtain ⟨s, hs, hskey⟩ := hk
  obtain ⟨t, ht, htkey⟩ := hl
  rw [Building.keyOf, Building.keyOf, hs.getD_eq, ht.getD_eq]
  rw [sameKey, Bool.or_eq_false_iff, hs.getD_eq, ht.getD_eq] at h
  cases s with
  | scalar v =>
    cases t with
    | scalar w => exact h.2
    | nan => exact Value.sameKey_nan_right v
    | _ => cases htkey
  | nan => exact Value.sameKey_nan_left _
  | _ => cases hskey

theorem keyOf_proper {b : Building} (hb : b.Keyed) {id : NodeId} (h : b.KnowsKey id) :
    (b.keyOf id).isScalar = true ∧ (b.keyOf id).IsProper := by
  obtain ⟨s, hs, hkey⟩ := h
  rw [Building.keyOf, hs.getD_eq]
  cases s with
  | scalar v => exact hb.allows id _ hs
  | nan => exact ⟨rfl, trivial⟩
  | _ => cases hkey

/-- The value of a node has proper keys, and that of a key is what the node is known as. -/
structure KeyedValue (b : Building) (id : NodeId) (v : Value) : Prop where
  wellKeyed : v.WellKeyed
  key : b.KnowsKey id → v = b.keyOf id

variable {b : Building} {part : NodeId → Option Value}

theorem keyed_entries (h : ∀ id v, part id = some v → KeyedValue b id v) (hb : b.Keyed)
    {es : List (NodeId × NodeId)} (hes : ∀ e ∈ es, b.KnowsKey e.1) {entries : List (Value × Value)}
    (hentries : (mergeKeys b.sketches es).mapM (value.pair part) = some entries) :
    Value.Keyed entries := by
  have hknown : ∀ e ∈ mergeKeys b.sketches es, b.KnowsKey e.1 := fun e he =>
    (forall_mergeKeys (Q := fun _ => True) (fun e he => ⟨hes e he, trivial⟩) e he).1
  -- the keys of the entries are what the nodes are known as
  have hkeys : List.Forall₂ (fun e entry => b.KnowsKey e.1 ∧ b.keyOf e.1 = entry.1)
      (mergeKeys b.sketches es) entries := by
    refine (List.forall₂_and_left _ _).2 ⟨hknown, ?_⟩
    refine ((List.forall₂_and_left _ _).2 ⟨hknown, mapM_eq_some_iff.1 hentries⟩).imp ?_
    rintro e entry ⟨hkey, hpair⟩
    exact ((of_pair_eq_some h hpair).1.key hkey).symm
  have hproper : ∀ entry ∈ entries, entry.1.isScalar = true ∧ entry.1.IsProper := by
    intro entry hentry
    obtain ⟨e, -, hkey, heq⟩ := exists_of_forall₂ hkeys hentry
    exact heq ▸ keyOf_proper hb hkey
  refine ⟨fun e he => (hproper e he).1, fun e he => (hproper e he).2, ?_⟩
  rw [← map_eq_map_of_forall₂ (f := fun e => b.keyOf e.1) hkeys fun _ _ h => h.2]
  have hpairs := List.pairwise_map.1 (pairwise_mergeKeys b.sketches es)
  refine List.pairwise_map.2 (hpairs.imp_of_mem fun he hf hef => ?_)
  exact sameKey_keyOf (hknown _ hf) (hknown _ he) hef

theorem keyedValue_value (h : ∀ id v, part id = some v → KeyedValue b id v) (hb : b.Keyed)
    {id : NodeId} {s : Sketch} (hs : b.Knows id s) {v : Value}
    (hv : value b.sketches part s = some v) : KeyedValue b id v where
  key := by
    rintro ⟨t, ht, hkey⟩
    obtain rfl := hs.eq ht
    rw [value_of_knows hs hkey part] at hv
    exact (Option.some.inj hv).symm
  wellKeyed := by
    have hallows := hb.allows id s hs
    cases s with
    | scalar w =>
      cases hv
      exact .scalar hallows.1
    | nan =>
      cases hv
      exact .scalar rfl
    | list items =>
      obtain ⟨ws, hws, rfl⟩ := Option.map_eq_some_iff.1 hv
      refine .list fun w hw => ?_
      obtain ⟨i, -, hi⟩ := exists_of_forall₂ (mapM_eq_some_iff.1 hws) hw
      exact (h i w hi).wellKeyed
    | map es =>
      obtain ⟨entries, hes, rfl⟩ := Option.map_eq_some_iff.1 hv
      refine .map (keyed_entries h hb hallows hes) fun e he => ?_
      obtain ⟨_, -, hpair⟩ := exists_of_forall₂ (mapM_eq_some_iff.1 hes) he
      exact (of_pair_eq_some h hpair).2.wellKeyed
    | set es =>
      obtain ⟨ws, hws, rfl⟩ := Option.map_eq_some_iff.1 hv
      refine .set fun w hw => ?_
      obtain ⟨e, -, he⟩ := exists_of_forall₂ (mapM_eq_some_iff.1 hws) hw
      exact (h e.1 w he).wellKeyed
    | pairs es =>
      obtain ⟨entries, hes, rfl⟩ := Option.map_eq_some_iff.1 hv
      refine .list (List.forall_mem_map.2 fun e he => .tuple ?_)
      obtain ⟨_, -, hpair⟩ := exists_of_forall₂ (mapM_eq_some_iff.1 hes) he
      obtain ⟨hkey, hvalue⟩ := of_pair_eq_some h hpair
      simpa using ⟨hkey.wellKeyed, hvalue.wellKeyed⟩

/-- A node that nothing is known of counts as null. -/
theorem keyedValue_null {id : NodeId} (h : ∀ s, ¬ b.Knows id s) : KeyedValue b id .null where
  wellKeyed := .scalar rfl
  key := fun ⟨s, hs, _⟩ => absurd hs (h s)

end Sketch

/-! ## Documents -/

theorem Document.wellKeyed_of_value {d : Document} {v : Value} (h : d.value = .ok v) :
    v.WellKeyed := by
  have hlook : Safe Building.Keyed Build.Any (Build.look d.root) :=
    .of_leads ((Build.leads_look Building.stable_true d.root).imp (fun _ h => ⟨h, trivial⟩)
      fun _ _ h => h.1)
  obtain ⟨b, -, hv⟩ := d.exists_of_value_eq_ok
    (.bind (.map _ hlook) fun _ => Build.safe_openAll _) (Build.keyed_start _)
    (P := Sketch.KeyedValue)
    (fun _ hb _ _ _ hs hpart _ hv => Sketch.keyedValue_value hpart hb hs hv)
    (fun _ _ hid => Sketch.keyedValue_null hid) h
  exact hv.wellKeyed

/-- The value that a text means has proper keys. -/
theorem wellKeyed_of_read {text : String} {v : Value} (h : read text = .ok v) : v.WellKeyed := by
  obtain ⟨-, rfl⟩ | ⟨d, -, hd⟩ := of_read_eq_ok h
  · exact .scalar rfl
  · exact Document.wellKeyed_of_value hd

end Firewall.Yaml
