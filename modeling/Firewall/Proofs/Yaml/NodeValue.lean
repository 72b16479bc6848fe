import Mathlib.Data.Fintype.Pigeonhole
import Firewall.Proofs.Mapping
import Firewall.Proofs.Yaml.Merge
import Firewall.Yaml.NodeValue

/-!
# Faults and values of documents

`Document.explains_of_value_eq_error`: a document has no value because it is malformed, because one
of its nodes has a type that refuses the text of the node, because many nodes stand one inside the
other, or because a node stands inside itself. It does not matter where the node is, nor whether its
value is used. If the document has a value, that is put together from what is known of its nodes,
which their types allow (`Document.exists_of_value_eq_ok`).

1. Merging changes nodes only in ways that keep what they refuse (`Nodes.Refuses.of_derivedFrom`).
2. A scalar fails only by what its node refuses (`Sketch.gives_ofScalar`), and what is
   known of a node is of the sort that its type has (`Sketch.FromNodes`).
3. So no step of building values fails otherwise or learns anything else (`Build.sound_openAll`).
4. A node that has no value after a number of rounds is followed by as many nodes, each inside the
   one before (`Sketch.deepFrom_of_valueWithin`); if these are more than there are, one of them
   stands inside itself (`Nodes.knotted_of_deepFrom`).
-/

namespace Firewall.Yaml

/-! ## Causes in the nodes -/

namespace Nodes

variable {ns ms : Nodes}

/-- A node of the table has a type that refuses a text: its own, or for a mapping that of the
default value inside it. A mapping is refused as a date whatever it stands for. -/
inductive Refuses (ns : Nodes) : ScalarFault → Prop
  | text {i j : NodeId} {n m : Node} {s : String} {f : ScalarFault} (hn : ns[i]? = some n)
      (hm : ns[j]? = some m) (hs : m.content = .scalar s)
      (hsame : j = i ∨ n.content.isMapping = true ∧ ns.Holds i j)
      (hf : ScalarValue.ofText n.tag s = .error (.scalar f)) : Refuses ns f
  | moment {i : NodeId} {n : Node} (hn : ns[i]? = some n) (htag : n.tag = .timestamp)
      (hmap : n.content.isMapping = true) : Refuses ns .momentOfMapping

/-- More nodes stand one inside the other than calls can. -/
def Deep (ns : Nodes) : Prop := ∃ id, ns.DeepFrom greatestCalls id

/-- A node stands inside itself, as only an alias inside its own node makes it do. -/
def Knotted (ns : Nodes) : Prop := ∃ id, ns.Holds id id

/-- The faults of a table of nodes: it is malformed, a type refuses a text, or nodes stand too deep
inside others. -/
def Explains (ns : Nodes) (g : Fault) : Prop :=
  g = .malformed ∨ (g = .tooDeep ∧ ns.Deep) ∨ ∃ f, g = .scalar f ∧ ns.Refuses f

theorem explains_malformed : ns.Explains .malformed := .inl rfl

theorem lt_size_of_holds {id inner : NodeId} (h : ns.Holds id inner) : id < ns.size := by
  obtain ⟨_, ⟨n, hn, -⟩, -⟩ := Relation.TransGen.head'_iff.1 h
  exact (Array.getElem?_eq_some_iff.1 hn).1

/-- Of more nodes than there are, each inside the one before, one comes twice. -/
theorem knotted_of_deepFrom {n : Nat} {id : NodeId} (h : ns.DeepFrom n id) (hn : ns.size < n) :
    ns.Knotted := by
  obtain ⟨ids, rfl, hchain⟩ := h
  have hholds := List.pairwise_iff_getElem.1 hchain.pairwise
  have hlt (i : Fin ids.length) : (id :: ids)[i.val] < ns.size :=
    lt_size_of_holds (hholds i (i + 1) (by grind) (by grind) i.val.lt_succ_self)
  obtain ⟨i, j, hne, heq⟩ := Fintype.exists_ne_map_eq_of_card_lt
    (fun i : Fin ids.length => (⟨(id :: ids)[i.val], hlt i⟩ : Fin ns.size)) (by simpa using hn)
  have hsame : (id :: ids)[i.val] = (id :: ids)[j.val] := Fin.mk.inj heq
  rcases Nat.lt_or_gt_of_ne (Fin.val_ne_of_ne hne) with hij | hji
  · exact ⟨_, hsame ▸ hholds i j (by grind) (by grind) hij⟩
  · exact ⟨_, hsame ▸ hholds j i (by grind) (by grind) hji⟩

/-- What a table refuses that merging has changed, the table before refuses too. -/
theorem Refuses.of_derivedFrom {f : ScalarFault} (h : ns.Refuses f) (hd : ns.DerivedFrom ms) :
    ms.Refuses f := by
  cases h with
  | @text i j n m s _ hn hm hs hsame hf =>
    obtain ⟨n', hn', hdn, -⟩ := hd i n hn
    obtain ⟨m', hm', hdm, -⟩ := hd j m hm
    have htag : n.tag = n'.tag := by
      refine hdn.tag.resolve_right fun hstr => ?_
      rw [hstr] at hf
      cases hf
    exact .text hn' hm' (hdm.scalar hs)
      (hsame.imp_right fun h => ⟨hdn.isMapping_eq ▸ h.1, hd.holds h.2⟩) (htag ▸ hf)
  | @moment i n hn htag hmap =>
    obtain ⟨n', hn', hdn, -⟩ := hd i n hn
    refine .moment hn' ?_ (hdn.isMapping_eq ▸ hmap)
    obtain ht | ht := hdn.tag
    · rw [← ht, htag]
    · rw [htag] at ht
      cases ht

theorem Explains.of_derivedFrom {g : Fault} (h : ns.Explains g) (hd : ns.DerivedFrom ms) :
    ms.Explains g := by
  obtain rfl | ⟨rfl, id, hdeep⟩ | ⟨f, rfl, hf⟩ := h
  · exact .inl rfl
  · exact .inr (.inl ⟨rfl, id, hd.deepFrom hdeep⟩)
  · exact .inr (.inr ⟨f, rfl, hf.of_derivedFrom hd⟩)

theorem holds_of_find? {id value key : NodeId} {tag : Tag} {es : List (NodeId × NodeId)}
    (hn : ns[id]? = some ⟨tag, .mapping es⟩) {p : NodeId × NodeId → Bool}
    (h : es.find? p = some (key, value)) : ns.Holds id value :=
  .single ⟨_, hn, Content.mem_parts_mapping.2 ⟨_, List.mem_of_find?_eq_some h, .inr rfl⟩⟩

/-- The text that a node stands for is that of a scalar: the node itself, or one inside a mapping.
There is none if there is no such scalar, or it stands too deep. -/
theorem scalarText_spec (ns : Nodes) (n : Nat) (id : NodeId) :
    Gives (fun g => g = .malformed ∨ g = .tooDeep ∧ ns.DeepFrom n id)
      (fun s => ∃ j m, ns[j]? = some m ∧ m.content = .scalar s ∧
        (j = id ∨ (∀ k, ns[id]? = some k → k.content.isMapping = true) ∧ ns.Holds id j))
      (ns.scalarText n id) := by
  induction n generalizing id with
  | zero => exact .error (.inr ⟨rfl, .zero id⟩)
  | succ n ih =>
    rw [scalarText]
    split
    · next tag text hn => exact .ok ⟨id, _, hn, rfl, .inl rfl⟩
    · next tag es hn =>
      have hmap : ∀ k, ns[id]? = some k → k.content.isMapping = true := by
        rintro k hk
        rw [hn] at hk
        cases hk
        rfl
      split
      · next key value hfind =>
        have hin := holds_of_find? hn hfind
        refine (ih value).imp (fun g hg => hg.imp_right fun h => ⟨h.1, h.2.succ hin⟩) ?_
        rintro s ⟨j, m, hm, hs, rfl | ⟨-, hj⟩⟩
        · exact ⟨j, m, hm, hs, .inr ⟨hmap, hin⟩⟩
        · exact ⟨j, m, hm, hs, .inr ⟨hmap, hin.trans hj⟩⟩
      · exact .error (.inl rfl)
    · exact .error (.inl rfl)

end Nodes

/-! ## Values of scalars -/

theorem ScalarValue.ofText_eq_error {tag : Tag} {s : String} {g : Fault}
    (h : ofText tag s = .error g) : g = .malformed ∨ ∃ f, g = .scalar f := by
  have hscalar : ∀ {α : Type} {x : Except ScalarFault α}, x.mapError Fault.scalar = .error g →
      ∃ f, g = .scalar f := by
    intro α x hx
    obtain ⟨f, -, hf⟩ := mapError_eq_error_iff.1 hx
    exact ⟨f, hf.symm⟩
  unfold ofText at h
  split at h
  case h_1 => cases h
  case h_2 => exact .inr (hscalar h)
  case h_3 => exact .inr (hscalar h)
  case h_4 => exact .inr (hscalar h)
  case h_5 => exact .inr (hscalar h)
  case h_6 =>
    split at h
    · cases h
    · exact .inl (Except.error.inj h).symm
  case h_7 => cases h
  case h_8 => exact .inl (Except.error.inj h).symm

/-- A scalar is known as a value of its type, and fails only by what its node refuses. -/
theorem Sketch.gives_ofScalar (ns : Nodes) (id : NodeId) :
    Gives ns.Explains
      (fun s => s = .nan ∨ ∃ tag text v, ScalarValue.ofText tag text = .ok v ∧ s = .scalar v)
      (ofScalar ns id) := by
  dsimp only [ofScalar]
  split
  · exact .error (.inl rfl)
  next n hn =>
  have hdeep (g : Fault) (hg : g = .malformed ∨ g = .tooDeep ∧ ns.DeepFrom greatestCalls id) :
      ns.Explains g := hg.imp_right fun h => .inl ⟨h.1, id, h.2⟩
  have htext := (ns.scalarText_spec greatestCalls id).imp hdeep fun _ hs => hs
  refine .check (fun _ => Nodes.explains_malformed)
    (htext.bind fun text ⟨j, m, hm, hms, hsame⟩ => ?_)
  have hmoment (hdate : n.tag = .timestamp ∧ n.content.isMapping = true) :
      ns.Explains (.scalar .momentOfMapping) := .inr (.inr ⟨_, rfl, .moment hn hdate.1 hdate.2⟩)
  refine .check hmoment ?_
  refine .ite (fun _ => .ok (.inl rfl)) fun _ => ?_
  cases hv : ScalarValue.ofText n.tag text with
  | ok v => exact .ok (.inr ⟨n.tag, text, v, hv, rfl⟩)
  | error g =>
    refine .error ((ScalarValue.ofText_eq_error hv).imp_right fun ⟨f, hf⟩ => .inr ⟨f, hf, ?_⟩)
    subst hf
    exact .text hn hm hms (hsame.imp_right fun hs => ⟨hs.1 n hn, hs.2⟩) hv

/-! ## What is known of nodes -/

/-- What a place holds is found there. -/
theorem getElem?_of_getD_none {α : Type} {as : Array (Option α)} {id : NodeId} {a : α}
    (h : as.getD id none = some a) : as[id]? = some (some a) := by
  rw [Array.getD_eq_getD_getElem?] at h
  cases hid : as[id]? with
  | none =>
    rw [hid] at h
    cases h
  | some o =>
    rw [hid, Option.getD_some] at h
    rw [h]

theorem getD_induction {α : Type} {as : Array α} {Q : NodeId → α → Prop} {a : α} {id : NodeId}
    (has : ∀ j b, as[j]? = some b → Q j b) (ha : as.size ≤ id → Q id a) : Q id (as.getD id a) := by
  rw [Array.getD_eq_getD_getElem?]
  cases hid : as[id]? with
  | none => exact ha (Array.getElem?_eq_none_iff.1 hid)
  | some b => exact has id b hid

theorem getElem?_ne_of_size_le {α : Type} {as : Array (Option α)} {id : NodeId}
    (h : as.size ≤ id) (a : α) : as[id]? ≠ some (some a) := by
  rw [Array.getElem?_eq_none h]
  exact nofun

theorem getElem?_replicate_none_ne {α : Type} (n : Nat) (id : NodeId) (a : α) :
    (Array.replicate n none)[id]? ≠ some (some a) := by
  rw [Array.getElem?_replicate]
  split
  · exact nofun
  · exact nofun

/-- A node of the table has the type. -/
def Nodes.Uses (ns : Nodes) (tag : Tag) : Prop := ∃ id, ns.tag? id = some tag

/-- A type that merging has left as it is was there before. -/
theorem Nodes.Uses.of_derivedFrom {ns ms : Nodes} (hd : ns.DerivedFrom ms) {tag : Tag}
    (h : ns.Uses tag) (hstr : tag ≠ .str) : ms.Uses tag := by
  obtain ⟨id, hid⟩ := h
  obtain ⟨n, hn, rfl⟩ := Option.map_eq_some_iff.1 hid
  obtain ⟨m, hm, hnm, -⟩ := hd id n hn
  refine ⟨id, ?_⟩
  rw [Nodes.tag?, hm, Option.map_some, hnm.tag.resolve_right hstr]

/-- What is known of the value of a node is allowed by the types of the nodes, and its parts stand
inside the node. -/
def Sketch.FromNodes (ns : Nodes) (id : NodeId) : Sketch → Prop
  | .scalar v => v.isScalar = true
  | .nan => True
  | .list items => ∀ i ∈ items, ns.Holds id i
  | .map es => ns.HoldsAll id es
  | .set es => ns.Uses .set ∧ ns.HoldsAll id es
  | .pairs es => (ns.Uses .omap ∨ ns.Uses .pairs) ∧ ns.HoldsAll id es

theorem ScalarValue.isScalar_of_timestamp {s : String} {v : Value} (h : timestamp s = .ok v) :
    v.isScalar = true := by
  unfold timestamp at h
  split at h
  · cases h
  · split at h
    · cases h
      rfl
    · cases h
  · split at h
    · cases h
      rfl
    · cases h

theorem ScalarValue.isScalar_of_ofText {tag : Tag} {s : String} {v : Value}
    (h : ofText tag s = .ok v) : v.isScalar = true := by
  have hmap : ∀ {α : Type} {x : Except ScalarFault α} {f : α → Value},
      (∀ a, (f a).isScalar = true) → (x.map f).mapError Fault.scalar = .ok v →
      v.isScalar = true := by
    intro α x f hf hx
    cases x with
    | error e => cases hx
    | ok a =>
      cases hx
      exact hf a
  unfold ofText at h
  split at h
  case h_1 =>
    cases h
    rfl
  case h_2 => exact hmap (fun _ => rfl) h
  case h_3 => exact hmap (fun _ => rfl) h
  case h_4 => exact hmap (fun _ => rfl) h
  case h_5 => exact isScalar_of_timestamp (mapError_eq_ok_iff.1 h)
  case h_6 =>
    split at h
    · cases h
      rfl
    · cases h
  case h_7 =>
    cases h
    rfl
  case h_8 => cases h

namespace Sketch

variable {ns ms : Nodes} {id : NodeId}

theorem fromNodes_of_ofScalar {s : Sketch} (h : ofScalar ms id = .ok s) : s.FromNodes ns id := by
  obtain rfl | ⟨tag, text, v, hv, rfl⟩ := (gives_ofScalar ms id).of_eq_ok h
  · exact trivial
  · exact ScalarValue.isScalar_of_ofText hv

theorem fromNodes_of_closed? {tag : Tag} {s : Sketch} (h : closed? tag = some s)
    (hd : ms.DerivedFrom ns) (htag : ms.Uses tag) : s.FromNodes ns id := by
  cases tag with
  | set =>
    cases h
    exact ⟨htag.of_derivedFrom hd nofun, nofun⟩
  | omap =>
    cases h
    exact ⟨.inl (htag.of_derivedFrom hd nofun), nofun⟩
  | pairs =>
    cases h
    exact ⟨.inr (htag.of_derivedFrom hd nofun), nofun⟩
  | seq | map =>
    cases h
    exact nofun
  | _ => cases h

end Sketch

/-! ## Building -/

namespace Build

/-- The nodes are those of the document but for what merging changes, and all that is known of their
values is allowed by them. -/
structure Sketched (ns : Nodes) (b : Building) : Prop where
  nodes : b.nodes.DerivedFrom ns
  sketches : ∀ (id : NodeId) (s : Sketch), b.sketches[id]? = some (some s) → s.FromNodes ns id

/-- The step changes nodes only as merging does, learns only what they allow, and has no faults but
those of the document. -/
abbrev Sound {α : Type} (ns : Nodes) (x : Build α) : Prop := Safe (Sketched ns) ns.Explains x

variable {ns : Nodes}

theorem Sketched.learn {b : Building} (h : Sketched ns b) {id : NodeId} {s : Sketch}
    (hs : s.FromNodes ns id) (waiting : List NodeId) :
    Sketched ns ⟨b.nodes, b.sketches.setIfInBounds id (some s), waiting⟩ where
  nodes := h.nodes
  sketches j s' hj := by
    rw [Array.getElem?_setIfInBounds] at hj
    split at hj
    · next hid =>
      subst hid
      split at hj
      · cases hj
        exact hs
      · cases hj
    · exact h.sketches j s' hj

theorem Sketched.fromNodes_of_getD {b : Building} (h : Sketched ns b) {id : NodeId} {s : Sketch}
    (hs : b.sketches.getD id none = some s) : s.FromNodes ns id :=
  h.sketches id s (getElem?_of_getD_none hs)

theorem yields_look (id : NodeId) :
    Yields (Sketched ns) ns.Explains (Sketch.FromNodes ns id) (look id) := by
  refine .get_bind fun b hb => ?_
  split
  case h_1 s hs => exact .pure (hb.fromNodes_of_getD hs)
  refine .get_bind fun b hb => ?_
  split
  case h_1 s hs =>
    obtain ⟨tag, htag, hclosed⟩ := Option.bind_eq_some_iff.1 hs
    have hfrom : s.FromNodes ns id := Sketch.fromNodes_of_closed? hclosed hb.nodes ⟨id, htag⟩
    exact .modify_bind (fun _ h => h.learn hfrom _) (.pure hfrom)
  refine .get_bind fun b hb => .lift_bind ?_ fun s hs => ?_
  · exact fun g hg => ((Sketch.gives_ofScalar _ id).of_eq_error hg).of_derivedFrom hb.nodes
  · have hfrom : s.FromNodes ns id := Sketch.fromNodes_of_ofScalar hs
    exact .modify_bind (fun _ h => h.learn hfrom _) (.pure hfrom)

theorem sound_look (id : NodeId) : Sound ns (look id) := .of_yields (yields_look id)

theorem sound_lookAtKey (id : NodeId) : Sound ns (lookAtKey id) :=
  (sound_look id).bind fun _ => .ite (.throw Nodes.explains_malformed) (.pure _)

theorem yields_items (id : NodeId) :
    Yields (Sketched ns) ns.Explains (fun is => ∀ i ∈ is, ns.Holds id i) (items id) := by
  refine .get_bind fun b hb => ?_
  split
  · exact .throw Nodes.explains_malformed
  · next is his =>
    exact .bind (.of_safe (.forM (fun i => .map _ (sound_look i)) _)) fun _ _ =>
      .pure (hb.nodes.of_items? his)

theorem yields_entries (id : NodeId) :
    Yields (Sketched ns) ns.Explains (ns.HoldsAll id) (entries id) := by
  have hmerging := @Merging.yields_entries ns greatestCalls id
  -- while merging works on the nodes, the state holds none of them
  refine .modifyGet_bind (fun _ hb => ⟨.empty, hb.sketches⟩) fun b hb => .lift_bind ?_ ?_
  · intro g hg
    exact (hmerging.error hb.nodes hg).imp_right fun h => .inl ⟨h.1, id, h.2⟩
  · rintro ⟨es, merged⟩ hes
    obtain ⟨hmerged, hholds⟩ := hmerging.ok hb.nodes hes
    refine .modify_bind (fun _ h => ⟨hmerged, h.sketches⟩)
      (.bind (.of_safe (.forM (fun e => ?_) _)) fun _ _ => .pure hholds)
    exact (sound_lookAtKey _).bind fun _ => .map _ (sound_look _)

theorem yields_onlyEntries (id : NodeId) :
    Yields (Sketched ns) ns.Explains (ns.HoldsAll id) (onlyEntries id) := by
  refine .get_bind fun b hb => ?_
  split
  · exact .throw Nodes.explains_malformed
  next is his =>
  refine .mapM fun i hi => .get_bind fun b' hb' => ?_
  have hin := hb.nodes.of_items? his i hi
  split
  · next key value he =>
    have hentry := ((hb'.nodes.of_entries? he).2.trans hin) _ List.mem_cons_self
    exact .bind (.of_safe (.map _ (sound_look _))) fun _ _ =>
      .bind (.of_safe (.map _ (sound_look _))) fun _ _ => .pure hentry
  · exact .throw Nodes.explains_malformed

theorem yields_opened (id : NodeId) :
    Yields (Sketched ns) ns.Explains (Sketch.FromNodes ns id) (opened id) := by
  refine (yields_look id).bind fun s hs => ?_
  split
  · exact (yields_items id).bind fun _ h => .pure h
  · exact (yields_entries id).bind fun _ h => .pure h
  · exact (yields_entries id).bind fun _ h => .pure ⟨hs.1, h⟩
  · exact (yields_onlyEntries id).bind fun _ h => .pure ⟨hs.1, h⟩
  · exact .pure hs

theorem sound_openNode (id : NodeId) : Sound ns (openNode id) :=
  .of_yields ((yields_opened id).bind fun _ hs =>
    .of_safe (.modify fun _ h => h.learn hs _))

theorem sound_openAll (n : Nat) : Sound ns (openAll n) := by
  induction n with
  | zero => exact .throw Nodes.explains_malformed
  | succ n ih =>
    refine .get_bind fun b _ => ?_
    split
    · exact .pure _
    · exact .bind (.modify fun _ h => ⟨h.nodes, h.sketches⟩) fun _ =>
        .bind (.forM (fun id => sound_openNode id) _) fun _ => ih

theorem sketched_start (ns : Nodes) (n : Nat) : Sketched ns ⟨ns, Array.replicate n none, []⟩ where
  nodes := .refl ns
  sketches id s hs := absurd hs (getElem?_replicate_none_ne n id s)

end Build

/-! ## Values -/

namespace Sketch

variable {sketches : Array (Option Sketch)} {part : NodeId → Option Value}

/-- One round through the nodes: what follows for the value of a node from what is true of the
values of its parts, be they new or from before, is true of all new values. -/
theorem round_induction {P Q : NodeId → Option Value → Prop} {before : Array (Option Value)}
    (hvalue : ∀ (id : NodeId) (s : Sketch) (part : NodeId → Option Value),
      sketches[id]? = some (some s) → (∀ j, P j (part j)) → Q id (value sketches part s))
    (hnull : ∀ id : NodeId, (∀ s, sketches[id]? ≠ some (some s)) → Q id (some .null))
    (hPQ : ∀ id v, Q id v → P id v) (hbefore : ∀ id, P id (before.getD id (some .null)))
    (id : NodeId) : Q id ((round sketches before).getD id (some .null)) := by
  have hall : (round sketches before).size = sketches.size ∧
      ∀ id v, (round sketches before)[id]? = some v → Q id v := by
    refine Array.foldl_induction
      (motive := fun n (vs : Array (Option Value)) =>
        vs.size = n ∧ ∀ id v, vs[id]? = some v → Q id v)
      ⟨rfl, by simp⟩ ?_
    rintro i vs ⟨hsize, hvs⟩
    refine ⟨by rw [Array.size_push, hsize], fun id v hid => ?_⟩
    rw [Array.getElem?_push] at hid
    split at hid
    · next hlast =>
      cases hid
      rw [hsize] at hlast
      subst hlast
      have hi : sketches[i.val]? = some sketches[i] := Array.getElem?_eq_getElem i.2
      cases hs : sketches[i] with
      | none =>
        rw [hs] at hi
        exact hnull i fun s h => by cases hi.symm.trans h
      | some s =>
        exact hvalue i s _ (hs ▸ hi) fun j =>
          getD_induction (fun j v hj => hPQ j v (hvs j v hj)) fun _ => hbefore j
    · exact hvs id v hid
  exact getD_induction hall.2 fun hid => hnull id (getElem?_ne_of_size_le (hall.1 ▸ hid))

/-- What is true of the value of a node whenever it is of those of its parts is true of it after
any number of rounds. -/
theorem of_valueWithin_eq_some {P : NodeId → Value → Prop}
    (hvalue : ∀ (id : NodeId) (s : Sketch) (part : NodeId → Option Value),
      sketches[id]? = some (some s) → (∀ j v, part j = some v → P j v) →
        ∀ v, value sketches part s = some v → P id v)
    (hnull : ∀ id : NodeId, (∀ s, sketches[id]? ≠ some (some s)) → P id .null)
    {n : Nat} {before : Array (Option Value)}
    (hbefore : ∀ id v, before.getD id (some .null) = some v → P id v) {id : NodeId} {v : Value}
    (h : valueWithin sketches id n before = some v) : P id v := by
  induction n generalizing before with
  | zero => exact hbefore id v h
  | succ n ih =>
    rw [valueWithin] at h
    split at h
    · next w hw =>
      cases h
      exact hbefore id v hw
    · refine ih (fun id => ?_) h
      exact round_induction (Q := fun id o => ∀ v, o = some v → P id v) hvalue
        (fun id hid v hv => by cases hv; exact hnull id hid) (fun _ _ h => h) hbefore id

/-- Merging equal keys brings in no other keys and values. -/
theorem forall_mergeKeys {P Q : NodeId → Prop} {es : List (NodeId × NodeId)}
    (h : ∀ e ∈ es, P e.1 ∧ Q e.2) : ∀ e ∈ mergeKeys sketches es, P e.1 ∧ Q e.2 :=
  List.foldlRecOn es _ (motive := fun ps : List (NodeId × NodeId) => ∀ e ∈ ps, P e.1 ∧ Q e.2)
    nofun fun _ hps e he => Value.forall_insertBy hps (h e he).1 (h e he).2

theorem of_pair_eq_some {P : NodeId → Value → Prop} (h : ∀ id v, part id = some v → P id v)
    {e : NodeId × NodeId} {entry : Value × Value} (he : value.pair part e = some entry) :
    P e.1 entry.1 ∧ P e.2 entry.2 := by
  unfold value.pair at he
  obtain ⟨key, hkey, he⟩ := Option.bind_eq_some_iff.1 he
  obtain ⟨v, hv, hentry⟩ := Option.bind_eq_some_iff.1 he
  cases hentry
  exact ⟨h e.1 key hkey, h e.2 v hv⟩

/-- A node has no value only if something inside it has none yet. -/
theorem exists_of_value_eq_none {ns : Nodes} {id : NodeId} {s : Sketch} (hs : s.FromNodes ns id)
    (h : value sketches part s = none) : ∃ inner, ns.Holds id inner ∧ part inner = none := by
  have hpair {es : List (NodeId × NodeId)} (hes : ns.HoldsAll id es)
      (hnone : es.mapM (value.pair part) = none) :
      ∃ inner, ns.Holds id inner ∧ part inner = none := by
    obtain ⟨e, he, hnone⟩ := exists_of_mapM_eq_none hnone
    cases hkey : part e.1 with
    | none => exact ⟨e.1, (hes e he).1, hkey⟩
    | some key =>
      refine ⟨e.2, (hes e he).2, ?_⟩
      cases hvalue : part e.2 with
      | none => rfl
      | some v => simp [value.pair, hkey, hvalue] at hnone
  cases s with
  | scalar v => cases h
  | nan => cases h
  | list items =>
    obtain ⟨i, hi, hnone⟩ := exists_of_mapM_eq_none (Option.map_eq_none_iff.1 h)
    exact ⟨i, hs i hi, hnone⟩
  | map es => exact hpair (forall_mergeKeys hs) (Option.map_eq_none_iff.1 h)
  | set es =>
    obtain ⟨e, he, hnone⟩ := exists_of_mapM_eq_none (Option.map_eq_none_iff.1 h)
    exact ⟨e.1, (forall_mergeKeys hs.2 e he).1, hnone⟩
  | pairs es => exact hpair hs.2 (Option.map_eq_none_iff.1 h)

/-- A node without a value is followed by one more node inside the other for each round. -/
theorem deepFrom_of_valueWithin {ns : Nodes}
    (hsketches : ∀ (id : NodeId) (s : Sketch), sketches[id]? = some (some s) → s.FromNodes ns id)
    {k n : Nat} {before : Array (Option Value)}
    (hbefore : ∀ id, before.getD id (some .null) = none → ns.DeepFrom k id) {id : NodeId}
    (h : valueWithin sketches id n before = none) : ns.DeepFrom (k + n) id := by
  induction n generalizing k before with
  | zero => exact hbefore id h
  | succ n ih =>
    rw [valueWithin] at h
    split at h
    · cases h
    · have hrounds : k + (n + 1) = k + 1 + n := by omega
      rw [hrounds]
      refine ih (fun id => ?_) h
      refine round_induction (P := fun id o => o = none → ns.DeepFrom k id)
        (Q := fun id o => o = none → ns.DeepFrom (k + 1) id) (fun id s part hs hpart hnone => ?_)
        (fun _ _ h => by cases h) (fun _ _ h ho => (h ho).mono k.le_succ) hbefore id
      obtain ⟨inner, hin, hinner⟩ := exists_of_value_eq_none (hsketches id s hs) hnone
      exact (hpart inner hinner).succ hin

end Sketch

namespace Document

variable {d : Document}

/-- Building the values of a document. -/
theorem sound_build (d : Document) :
    Build.Sound d.nodes (do
      discard (Build.look d.root)
      Build.openAll (d.nodes.size + 1)) :=
  .bind (.map _ (Build.sound_look _)) fun _ => Build.sound_openAll _

/-- A document has no value because of what its nodes explain, or because they are knotted. -/
theorem explains_of_value_eq_error {g : Fault} (h : d.value = .error g) :
    d.nodes.Explains g ∨ g = .beyond .knot ∧ d.nodes.Knotted := by
  rw [Document.value, bind_eq_error_iff] at h
  obtain h | ⟨⟨_, b⟩, hb, h⟩ := h
  · exact .inl ((sound_build d).error (Build.sketched_start _ _) h)
  · have hsketched := (sound_build d).ok (Build.sketched_start _ _) hb
    dsimp only at h
    split at h
    · cases h
    · next hnone =>
      cases h
      have hdeep : d.nodes.DeepFrom (0 + (d.nodes.size + 1)) d.root :=
        Sketch.deepFrom_of_valueWithin hsketched.sketches (fun id _ => .zero id) hnone
      exact .inr ⟨rfl, Nodes.knotted_of_deepFrom hdeep (by omega)⟩

/-- What building leads to gives the value of a document whatever is true of the values of nodes
whenever it is of those of their parts. -/
theorem exists_of_value_eq_ok (d : Document) {I : Building → Prop} {E : Fault → Prop}
    (hbuild : Safe I E (do
      discard (Build.look d.root)
      Build.openAll (d.nodes.size + 1)))
    (hstart : I ⟨d.nodes, Array.replicate d.nodes.size none, []⟩)
    {P : Building → NodeId → Value → Prop}
    (hvalue : ∀ b, I b → ∀ (id : NodeId) (s : Sketch) (part : NodeId → Option Value),
      b.sketches[id]? = some (some s) → (∀ j v, part j = some v → P b j v) →
        ∀ v, s.value b.sketches part = some v → P b id v)
    (hnull : ∀ b (id : NodeId), (∀ s, b.sketches[id]? ≠ some (some s)) → P b id .null) {v : Value}
    (h : d.value = .ok v) : ∃ b, I b ∧ P b d.root v := by
  rw [Document.value, bind_eq_ok_iff] at h
  obtain ⟨⟨_, b⟩, hb, h⟩ := h
  have hb' := hbuild.ok hstart hb
  refine ⟨b, hb', ?_⟩
  dsimp only at h
  split at h
  · next w hw =>
    cases h
    refine Sketch.of_valueWithin_eq_some (hvalue b hb') (hnull b) (fun id v hv => ?_) hw
    refine getD_induction (Q := fun id o => ∀ v, o = some v → P b id v) ?_ ?_ v hv
    · rintro j _ hj v rfl
      exact absurd hj (getElem?_replicate_none_ne _ j v)
    · rintro hid _ ⟨⟩
      rw [Array.size_replicate] at hid
      exact hnull b id (getElem?_ne_of_size_le hid)
  · cases h

end Document

/-! ## Texts -/

/-- The document of a text, if it holds one. -/
def Document.ofText (text : String) : Except Fault (Option Document) :=
  Document.ofTokens (Token.ofText text.toList).1 ((Token.ofText text.toList).2.getD .malformed)

/-- A text has the value of its document, or null if it holds none. -/
theorem of_read_eq_ok {text : String} {v : Value} (h : read text = .ok v) :
    (Document.ofText text = .ok none ∧ v = .null) ∨
      ∃ d, Document.ofText text = .ok (some d) ∧ d.value = .ok v := by
  have hread : (Document.ofText text >>= _) = .ok v := h
  obtain ⟨_ | d, hd, h⟩ := bind_eq_ok_iff.1 hread
  · cases h
    exact .inl ⟨hd, rfl⟩
  · obtain ⟨w, hw, h⟩ := bind_eq_ok_iff.1 h
    split at h
    · cases h
    · cases h
      exact .inr ⟨d, hd, hw⟩

/-- A text has no value because it holds no document, because its document has no value, or because
there is half of a pair in its tokens. -/
theorem of_read_eq_error {text : String} {g : Fault} (h : read text = .error g) :
    Document.ofText text = .error g ∨
      ∃ d, Document.ofText text = .ok (some d) ∧ (d.value = .error g ∨
        g = .beyond .halfPair ∧ (Token.ofText text.toList).1.any Token.isTorn = true) := by
  have hread : (Document.ofText text >>= _) = .error g := h
  obtain hd | ⟨_ | d, hd, h⟩ := bind_eq_error_iff.1 hread
  · exact .inl hd
  · cases h
  · refine .inr ⟨d, hd, ?_⟩
    obtain hv | ⟨v, -, h⟩ := bind_eq_error_iff.1 h
    · exact .inl hv
    · split at h
      · next htorn =>
        cases h
        exact .inr ⟨rfl, htorn⟩
      · cases h

end Firewall.Yaml
