import Firewall.Proofs.Steps
import Firewall.Yaml.Grammar

/-!
# What the grammar reads

`Document.ofTokens_eq_error`: tokens give no document because they do not fit the grammar, because
very many collections are open somewhere in them, or because of the fault that follows them. In
particular no fault of a scalar comes from the grammar.

Not every collection has tokens that begin and end it. A sequence in a block mapping need not be
indented, and an entry in a flow sequence is a mapping of its own; but both stand right inside a
collection with tokens. So there are at most twice as many collections around a node as the tokens
before it have opened, and what is read inside a collection with tokens may assume one less.
-/

namespace Firewall.Yaml

/-! ## Open collections -/

/-- How many collections a token begins, less than none if it ends one. -/
def Token.turn : Token → Int
  | .blockSequenceStart | .blockMappingStart | .flowSequenceStart | .flowMappingStart => 1
  | .blockEnd | .flowSequenceEnd | .flowMappingEnd => -1
  | _ => 0

/-- How many more collections begin than end in tokens. -/
def opened : List Token → Int
  | [] => 0
  | t :: ts => t.turn + opened ts

theorem opened_append_singleton (ts : List Token) (t : Token) :
    opened (ts ++ [t]) = opened ts + t.turn := by
  induction ts with
  | nil => simp [opened]
  | cons u ts ih => rw [List.cons_append, opened, opened, ih, Int.add_assoc]

/-- The first of the tokens open half as many collections as may stand around a node. -/
def Nested (ts : List Token) : Prop :=
  ∃ first rest, ts = first ++ rest ∧ (Read.greatestDepth : Int) ≤ 2 * opened first

namespace Read

/-- The faults that reading `ts` can have when `f` follows the last of them. -/
def FaultBefore (ts : List Token) (f g : Fault) : Prop :=
  g = .malformed ∨ (g = .tooDeep ∧ Nested ts) ∨ g = f

/-- The reading stands inside of so many collections; with the slack, these are at most twice as
many as the tokens read so far have opened. -/
structure Stands (ts : List Token) (f : Fault) (depth : Nat) (slack : Int) (r : Reading) : Prop
    where
  fault : r.fault = f
  inside : r.depth = depth
  first : ∃ first, ts = first ++ r.tokens ∧ depth + slack ≤ 2 * opened first

variable {α β : Type} {ts : List Token} {f : Fault} {d : Nat} {k k' l : Int} {t : Token}

theorem Stands.mono {r : Reading} (h : Stands ts f d k r) (hk : l ≤ k) : Stands ts f d l r := by
  obtain ⟨first, hts, hle⟩ := h.first
  exact ⟨h.fault, h.inside, first, hts, by omega⟩

/-- The step has no faults but those of the grammar and the one that follows the tokens, and it ends
inside the same collections, with another slack. -/
abbrev Turns (ts : List Token) (f : Fault) (d : Nat) (k l : Int) (x : Read α) : Prop :=
  Leads (Stands ts f d k) (FaultBefore ts f) (fun _ => Stands ts f d l) x

namespace Turns

variable {x : Read α}

theorem mono (h : Turns ts f d k l x) (hk : k ≤ k') : Turns ts f d k' l x :=
  h.imp (fun _ hr => hr.mono hk) fun _ _ hr => hr

protected theorem pure (a : α) : Turns ts f d k k (pure a) := Leads.pure fun _ hr => hr

/-- A change that leaves alone what is known of the reading. -/
protected theorem modify {g : Reading → Reading} (hfault : ∀ r, (g r).fault = r.fault)
    (hdepth : ∀ r, (g r).depth = r.depth) (htokens : ∀ r, (g r).tokens = r.tokens) :
    Turns ts f d k k (modify g) :=
  Leads.modify fun r hr => ⟨(hfault r).trans hr.fault, (hdepth r).trans hr.inside, by
    rw [htokens]
    exact hr.first⟩

protected theorem bind {g : α → Read β} (hx : Turns ts f d k k' x)
    (hg : ∀ a, Turns ts f d k' l (g a)) : Turns ts f d k l (x >>= g) := Leads.bind hx hg

protected theorem ite {c : Prop} [Decidable c] {y : Read α} (hx : Turns ts f d k l x)
    (hy : Turns ts f d k l y) : Turns ts f d k l (if c then x else y) := Leads.ite hx hy

theorem get_bind {g : Reading → Read β} (hg : ∀ r, Turns ts f d k l (g r)) :
    Turns ts f d k l (get >>= g) := fun r hr => hg r r hr

end Turns

theorem turns_refuse : Turns ts f d k l (refuse : Read α) := Leads.throw (.inl rfl)

/-! ## Single tokens -/

/-- The reading stands before a token. -/
abbrev StandsAt (ts : List Token) (f : Fault) (d : Nat) (k : Int) (t : Token) (r : Reading) :
    Prop :=
  Stands ts f d k r ∧ r.tokens.head? = some t

theorem leads_peek : Leads (Stands ts f d k) (FaultBefore ts f) (StandsAt ts f d k) peek := by
  refine .get_bind fun r hr => ?_
  split
  · next t rest hrest =>
    refine .pure ?_
    rintro _ rfl
    exact ⟨hr, by rw [hrest, List.head?_cons]⟩
  · exact .throw (.inr (.inr hr.fault))

theorem leads_skip :
    Leads (StandsAt ts f d k t) (FaultBefore ts f) (fun _ => Stands ts f d (k + 2 * t.turn))
      skip := by
  refine .modify fun r hr => ?_
  obtain ⟨first, hts, hle⟩ := hr.1.first
  obtain ⟨rest, hrest⟩ := List.head?_eq_some_iff.1 hr.2
  refine ⟨hr.1.fault, hr.1.inside, first ++ [t], ?_, ?_⟩
  · rw [hts, hrest, List.append_assoc, List.singleton_append, List.tail_cons]
  · rw [opened_append_singleton]
    omega

theorem peek_bind {g : Token → Read β}
    (hg : ∀ t, Leads (StandsAt ts f d k t) (FaultBefore ts f) (fun _ => Stands ts f d l) (g t)) :
    Turns ts f d k l (peek >>= g) := leads_peek.bind hg

theorem Turns.at {x : Read α} (h : Turns ts f d k l x) :
    Leads (StandsAt ts f d k t) (FaultBefore ts f) (fun _ => Stands ts f d l) x :=
  h.imp (fun _ hr => hr.1) fun _ _ hr => hr

theorem skip_bind {g : Unit → Read β} (hg : Turns ts f d (k + 2 * t.turn) l (g ())) :
    Leads (StandsAt ts f d k t) (FaultBefore ts f) (fun _ => Stands ts f d l) (skip >>= g) :=
  leads_skip.bind fun _ => hg

theorem leads_take? (t : Token) :
    Leads (Stands ts f d k) (FaultBefore ts f)
      (fun taken => Stands ts f d (if taken then k + 2 * t.turn else k)) (take? t) := by
  refine leads_peek.bind fun u => ?_
  split
  · next hu =>
    subst hu
    exact leads_skip.bind fun _ => .pure fun _ hr => hr
  · exact .pure fun _ hr => hr.1

/-- Past the next token if it is `t`, or else before it. -/
theorem take?_bind {g : Bool → Read β} (ht : k + 2 * t.turn = k')
    (htrue : Turns ts f d k' l (g true)) (hfalse : Turns ts f d k l (g false)) :
    Turns ts f d k l (take? t >>= g) := by
  refine (leads_take? t).bind fun taken => ?_
  cases taken with
  | true =>
    rw [if_pos rfl, ht]
    exact htrue
  | false => exact hfalse

theorem take?_ite {x y : Read β} (ht : k + 2 * t.turn = k') (hx : Turns ts f d k' l x)
    (hy : Turns ts f d k l y) :
    Turns ts f d k l (take? t >>= fun taken => if taken = true then x else y) :=
  take?_bind ht hx hy

theorem expect_bind {g : Unit → Read β} (ht : k + 2 * t.turn = k')
    (hg : Turns ts f d k' l (g ())) : Turns ts f d k l (expect t >>= g) :=
  .bind (take?_bind ht (.pure _) turns_refuse) fun _ => hg

/-! ## What is written in front of a node -/

theorem keeps_tagName (t : WrittenTag) : Turns ts f d k k (tagName t) := by
  cases t with
  | whole name => exact .pure _
  | short handle suffix =>
    refine Turns.get_bind fun r => ?_
    split
    · exact .pure _
    · exact turns_refuse

theorem keeps_anchor? : Turns ts f d k k anchor? := by
  refine peek_bind fun t => ?_
  split
  · exact skip_bind ((Turns.pure _).mono (by simp [Token.turn]))
  · exact (Turns.pure _).at

theorem keeps_tag? : Turns ts f d k k tag? := by
  refine peek_bind fun t => ?_
  split
  · exact skip_bind ((Turns.pure _).mono (by simp [Token.turn]))
  · exact (Turns.pure _).at

theorem keeps_properties : Turns ts f d k k properties := by
  have hname (t : WrittenTag) : Turns ts f d k k (some <$> tagName t) := by
    rw [map_eq_pure_bind]
    exact (keeps_tagName t).bind fun _ => .pure _
  refine keeps_anchor?.bind fun first => keeps_tag?.bind fun tag => ?_
  cases tag with
  | none =>
    cases first <;> exact (Turns.pure _).bind fun _ => (Turns.pure _).bind fun _ => .pure _
  | some t =>
    cases first with
    | none => exact keeps_anchor?.bind fun _ => (hname t).bind fun _ => .pure _
    | some name => exact (Turns.pure _).bind fun _ => (hname t).bind fun _ => .pure _

theorem keeps_claim (p : Properties) : Turns ts f d k k (claim p) := by
  unfold claim
  split
  · exact .pure _
  · exact Turns.get_bind fun r => .ite turns_refuse
      (.modify (fun _ => rfl) (fun _ => rfl) fun _ => rfl)

/-! ## Nodes -/

theorem keeps_add (n : Node) : Turns ts f d k k (add n) :=
  .get_bind fun _ => .bind (.modify (fun _ => rfl) (fun _ => rfl) fun _ => rfl) fun _ => .pure _

theorem keeps_addAnchored (p : Properties) (n : Node) : Turns ts f d k k (addAnchored p n) := by
  refine (keeps_add n).bind fun id => ?_
  split
  · exact .pure _
  · exact .bind (.modify (fun _ => rfl) (fun _ => rfl) fun _ => rfl) fun _ => .pure _

theorem keeps_aliased (name : String) : Turns ts f d k k (aliased name) := by
  refine Turns.get_bind fun r => ?_
  split
  · exact .pure _
  · exact (keeps_add _).bind fun _ =>
      .bind (.modify (fun _ => rfl) (fun _ => rfl) fun _ => rfl) fun _ => .pure _
  · exact turns_refuse

/-- What is read inside a collection has one less to spare. -/
theorem turns_inside {content : Read α} (hk : 0 ≤ k)
    (h : Turns ts f (d + 1) (k - 1) (l - 1) content) : Turns ts f d k l (inside content) := by
  refine Leads.get_bind fun r hr => ?_
  obtain ⟨first, hts, hle⟩ := hr.first
  have hinside := hr.inside
  dsimp only
  split
  · next hdeep =>
    refine Leads.throw (.inr (.inl ⟨rfl, first, r.tokens, hts, ?_⟩))
    omega
  · refine Leads.bind (Q := fun _ => Stands ts f (d + 1) (k - 1)) (.modify ?_) fun _ =>
      Leads.bind h fun a => Leads.bind (Q := fun _ => Stands ts f d l) (.modify ?_) fun _ =>
        .pure fun _ hs => hs
    · rintro _ rfl
      exact ⟨hr.fault, by rw [hinside], first, hts, by push_cast; omega⟩
    · intro s hs
      obtain ⟨first, hts, hle⟩ := hs.first
      exact ⟨hs.fault, hinside, first, hts, by push_cast at hle; omega⟩

theorem keeps_scalar (p : Properties) (text : String) (plain : Bool) :
    Turns ts f d k k (scalar p text plain) :=
  (keeps_claim p).bind fun _ => keeps_addAnchored p _

theorem keeps_missing : Turns ts f d k k missing := keeps_add _

theorem turns_sequence (p : Properties) {items : Read (List NodeId)} (hk : 0 ≤ k)
    (h : Turns ts f (d + 1) (k - 1) (l - 1) items) : Turns ts f d k l (sequence p items) :=
  (keeps_claim p).bind fun _ => (turns_inside hk h).bind fun _ => keeps_addAnchored p _

theorem turns_mapping (p : Properties) {entries : Read (List (NodeId × NodeId))} (hk : 0 ≤ k)
    (h : Turns ts f (d + 1) (k - 1) (l - 1) entries) : Turns ts f d k l (mapping p entries) :=
  (keeps_claim p).bind fun _ => (turns_inside hk h).bind fun _ => keeps_addAnchored p _

/-- What a node in a place has to spare: one collection, where a sequence need not be indented. -/
def Place.spare : Place → Int
  | .mappingBlock => 1
  | _ => 0

/-- What all readers of nodes do, up to an amount of fuel: a reader of the inside of a collection
with tokens reads the one that ends it, too. -/
structure TurnsUpTo (ts : List Token) (f : Fault) (fuel : Nat) : Prop where
  node : ∀ {d k} place, place.spare ≤ k → Turns ts f d k k (node fuel place)
  nodeUnless : ∀ {d k} place ends, place.spare ≤ k →
    Turns ts f d k k (nodeUnless fuel place ends)
  blockSequence : ∀ {d k}, 1 ≤ k → Turns ts f d k (k - 2) (blockSequence fuel)
  openSequence : ∀ {d k}, 0 ≤ k → Turns ts f d k k (openSequence fuel)
  blockMapping : ∀ {d k}, 1 ≤ k → Turns ts f d k (k - 2) (blockMapping fuel)
  flowValue : ∀ {d k} close, 0 ≤ k → Turns ts f d k k (flowValue fuel close)
  flowEntry : ∀ {d k} close, 0 ≤ k → Turns ts f d k k (flowEntry fuel close)
  flowSequence : ∀ {d k} first, 1 ≤ k → Turns ts f d k (k - 2) (flowSequence fuel first)
  flowMapping : ∀ {d k} first, 1 ≤ k → Turns ts f d k (k - 2) (flowMapping fuel first)

theorem turnsUpTo (fuel : Nat) : TurnsUpTo ts f fuel := by
  induction fuel with
  | zero => constructor <;> intros <;> exact turns_refuse
  | succ fuel ih =>
    exact
      { node := by
          intro d k place hk
          have hnonneg : 0 ≤ k := by cases place <;> simp only [Place.spare] at hk <;> omega
          -- the token that begins a collection pays for it, and for one more inside it
          have hbegins {t : Token} {c : Read NodeId} (ht : t.turn = 1)
              (hc : Turns ts f d (k + 2) k c) :
              Leads (StandsAt ts f d k t) (FaultBefore ts f) (fun _ => Stands ts f d k)
                (skip >>= fun _ => c) := skip_bind (hc.mono (by omega))
          have hsequence (p : Properties) {c : Read (List NodeId)}
              (hc : ∀ {d k}, 1 ≤ k → Turns ts f d k (k - 2) c) :
              Turns ts f d (k + 2) k (sequence p c) :=
            turns_sequence p (by omega) (by have := hc (d := d + 1) (k := k + 1) (by omega); grind)
          have hmapping (p : Properties) {c : Read (List (NodeId × NodeId))}
              (hc : ∀ {d k}, 1 ≤ k → Turns ts f d k (k - 2) c) :
              Turns ts f d (k + 2) k (mapping p c) :=
            turns_mapping p (by omega) (by have := hc (d := d + 1) (k := k + 1) (by omega); grind)
          rw [Read.node]
          refine peek_bind fun t => ?_
          split
          · exact skip_bind ((keeps_aliased _).mono (by simp [Token.turn]))
          refine Turns.at (keeps_properties.bind fun p => peek_bind fun t => ?_)
          split
          · exact (turns_sequence p hnonneg (ih.openSequence (by simpa [Place.spare] using hk))).at
          · exact skip_bind ((keeps_scalar p _ _).mono (by simp [Token.turn]))
          · exact hbegins rfl (hsequence p (ih.flowSequence true))
          · exact hbegins rfl (hmapping p (ih.flowMapping true))
          · exact hbegins rfl (hsequence p ih.blockSequence)
          · exact hbegins rfl (hsequence p ih.blockSequence)
          · exact hbegins rfl (hmapping p ih.blockMapping)
          · exact hbegins rfl (hmapping p ih.blockMapping)
          · exact Turns.at (.ite turns_refuse (keeps_scalar p _ _))
        nodeUnless := fun place ends hk =>
          peek_bind fun _ => Turns.at (.ite keeps_missing (ih.node place hk))
        blockSequence := fun hk =>
          take?_ite (Int.add_zero _)
            ((ih.nodeUnless _ _ (by simp only [Place.spare]; omega)).bind fun _ =>
              (ih.blockSequence hk).bind fun _ => .pure _)
            (expect_bind rfl (.pure _))
        openSequence := fun hk =>
          take?_ite (Int.add_zero _)
            ((ih.nodeUnless _ _ hk).bind fun _ => (ih.openSequence hk).bind fun _ => .pure _)
            (.pure _)
        blockMapping := by
          intro d k hk
          refine take?_ite (Int.add_zero _) ?_ (expect_bind rfl (.pure _))
          refine (ih.nodeUnless _ _ hk).bind fun key => take?_ite (Int.add_zero _)
            (.bind (ih.nodeUnless _ _ hk) fun _ => ?_) (.bind keeps_missing fun _ => ?_)
          all_goals exact (ih.blockMapping hk).bind fun _ => .pure _
        flowValue := fun close hk =>
          take?_ite (Int.add_zero _) (ih.nodeUnless _ _ hk) keeps_missing
        flowEntry := fun close hk =>
          (ih.nodeUnless _ _ hk).bind fun _ => (ih.flowValue close hk).bind fun _ => .pure _
        flowSequence := by
          intro d k first hk
          have hpair : Turns ts f d k k
              (mapping ⟨none, none⟩ do return [← flowEntry fuel .flowSequenceEnd]) :=
            turns_mapping _ (by omega) ((ih.flowEntry _ (by omega)).bind fun _ => .pure _)
          have hnode : Turns ts f d k k (node fuel .flow) :=
            ih.node .flow (by simp only [Place.spare]; omega)
          -- the item is read in the same way with a comma before it and without
          refine take?_ite rfl (.pure _) (.ite (expect_bind (Int.add_zero _) ?_) ?_)
          all_goals
            refine take?_ite rfl (.pure _)
              (take?_ite (Int.add_zero _) (hpair.bind fun _ => ?_) (hnode.bind fun _ => ?_))
            all_goals exact (ih.flowSequence false hk).bind fun _ => .pure _
        flowMapping := by
          intro d k first hk
          have hnode : Turns ts f d k k (node fuel .flow) :=
            ih.node .flow (by simp only [Place.spare]; omega)
          refine take?_ite rfl (.pure _) (.ite (expect_bind (Int.add_zero _) ?_) ?_)
          all_goals
            refine take?_ite rfl (.pure _)
              (take?_ite (Int.add_zero _) ((ih.flowEntry _ (by omega)).bind fun _ => ?_)
                (hnode.bind fun _ => keeps_missing.bind fun _ => .bind (.pure _) fun _ => ?_))
            all_goals exact (ih.flowMapping false hk).bind fun _ => .pure _ }

/-! ## Documents -/

theorem keeps_instructions (fuel : Nat) (versioned : Bool) (handles : List (String × String)) :
    Turns ts f d k k (instructions fuel versioned handles) := by
  induction fuel generalizing versioned handles with
  | zero => exact turns_refuse
  | succ fuel ih =>
    refine peek_bind fun t => ?_
    split
    · refine skip_bind (Turns.mono ?_ (Int.le_of_eq (Int.add_zero k).symm))
      split
      · exact .ite turns_refuse (ih _ _)
      · exact .ite turns_refuse (ih _ _)
      · exact ih _ _
    · exact (Turns.pure _).at

theorem keeps_skipEnds (fuel : Nat) : Turns ts f d k k (skipEnds fuel) := by
  induction fuel with
  | zero => exact turns_refuse
  | succ fuel ih => exact take?_ite (Int.add_zero k) ih (.pure _)

theorem keeps_explicitDocument (fuel : Nat) (hk : 0 ≤ k) :
    Turns ts f d k k (explicitDocument fuel) := by
  refine (keeps_instructions fuel _ _).bind fun _ =>
    .bind (.modify (fun _ => rfl) (fun _ => rfl) fun _ => rfl) fun _ =>
    expect_bind (Int.add_zero k) (peek_bind fun t => Turns.at ?_)
  split
  · exact keeps_missing
  · exact keeps_missing
  · exact keeps_missing
  · exact keeps_missing
  · exact (turnsUpTo fuel).node _ hk

theorem keeps_finish (fuel : Nat) : Turns ts f d k k (finish fuel) :=
  take?_bind (Int.add_zero k) (.pure _) ((keeps_instructions fuel _ _).bind fun _ => turns_refuse)

theorem keeps_document? (fuel : Nat) (hk : 0 ≤ k) : Turns ts f d k k (document? fuel) := by
  have hend (id : NodeId) : Turns ts f d k k
      (do skipEnds fuel; finish fuel; return some id : Read (Option NodeId)) :=
    (keeps_skipEnds fuel).bind fun _ => (keeps_finish fuel).bind fun _ => .pure _
  refine peek_bind fun t => Turns.at ?_
  split
  · exact .pure _
  · exact (keeps_explicitDocument fuel hk).bind fun _ => hend _
  · exact (keeps_explicitDocument fuel hk).bind fun _ => hend _
  · exact ((turnsUpTo fuel).node _ hk).bind fun _ => hend _

theorem Stands.initial (ts : List Token) (f : Fault) :
    Stands ts f 0 0 ⟨ts, f, standardHandles, #[], [], [], 0⟩ :=
  ⟨rfl, rfl, [], rfl, Int.le_refl 0⟩

end Read

/-- Tokens give no document because of themselves or because of the fault that follows them. -/
theorem Document.ofTokens_eq_error {ts : List Token} {f g : Fault}
    (h : ofTokens ts f = .error g) : g = .malformed ∨ (g = .tooDeep ∧ Nested ts) ∨ g = f := by
  rw [ofTokens, bind_eq_error_iff] at h
  obtain h | ⟨r, -, h⟩ := h
  · exact (Read.keeps_document? _ (Int.le_refl 0)).error (Read.Stands.initial ts f) h
  · cases h

end Firewall.Yaml
