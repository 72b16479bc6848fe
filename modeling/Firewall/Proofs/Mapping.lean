import Firewall.Value

/-!
# Mappings with text keys

Where all keys are texts and no two are the same, a mapping holds its entries as they are written
(`Value.ofEntries_eq_map`), and a field holds the one value under its name
(`Value.field_eq_of_mem`). In any mapping a field is null
or the value of an entry (`Value.field_induction`).
-/

namespace Firewall.Value

variable {es fs : List (Value × Value)}

/-! ## Entries -/

theorem sameKey_str_iff {s : String} {k : Value} : sameKey (.str s) k = true ↔ k = .str s := by
  cases k with
  | str t => rw [sameKey, beq_iff_eq, Value.str.injEq, eq_comm]
  | _ => simp [sameKey, integer?]

/-- All keys are texts, and no two are the same. -/
structure TextKeyed (es : List (Value × Value)) : Prop where
  text : ∀ e ∈ es, ∃ s, e.1 = .str s
  distinct : (es.map Prod.fst).Nodup

theorem TextKeyed.of_perm (h : TextKeyed fs) (hperm : es.Perm fs) : TextKeyed es where
  text e he := h.text e (hperm.mem_iff.1 he)
  distinct := (hperm.map Prod.fst).nodup_iff.2 h.distinct

theorem TextKeyed.append (hes : TextKeyed es) (hfs : TextKeyed fs)
    (h : ∀ e ∈ es, ∀ f ∈ fs, e.1 ≠ f.1) : TextKeyed (es ++ fs) where
  text := List.forall_mem_append.2 ⟨hes.text, hfs.text⟩
  distinct := by
    rw [List.map_append, List.nodup_append]
    refine ⟨hes.distinct, hfs.distinct, ?_⟩
    intro k hk l hl
    obtain ⟨e, he, rfl⟩ := List.mem_map.1 hk
    obtain ⟨f, hf, rfl⟩ := List.mem_map.1 hl
    exact h e he f hf

theorem map_fst_insertBy {κ ν : Type} (same : κ → Bool) (key : κ) (value : ν) (ps : List (κ × ν)) :
    (insertBy same key value ps).map Prod.fst =
      if ps.any fun p => same p.1 then ps.map Prod.fst else ps.map Prod.fst ++ [key] := by
  induction ps with
  | nil => rfl
  | cons p ps ih =>
    rw [insertBy]
    split
    · next h => simp [h]
    · next h => by_cases hps : ps.any fun p => same p.1 <;> simp [h, ih, hps]

/-- No key comes to be the same as one that stands before it. -/
theorem pairwise_insertBy {κ ν : Type} {same : κ → κ → Bool} {ps : List (κ × ν)}
    (h : (ps.map Prod.fst).Pairwise fun k l => same l k = false) (key : κ) (value : ν) :
    ((insertBy (same key) key value ps).map Prod.fst).Pairwise fun k l => same l k = false := by
  rw [map_fst_insertBy]
  split
  · exact h
  · next hnew =>
    rw [List.pairwise_append]
    refine ⟨h, List.pairwise_singleton _ _, ?_⟩
    simpa using hnew

theorem forall_insertBy {κ ν : Type} {P : κ → Prop} {Q : ν → Prop} {same : κ → Bool} {key : κ}
    {value : ν} {ps : List (κ × ν)} (hps : ∀ e ∈ ps, P e.1 ∧ Q e.2) (hkey : P key)
    (hvalue : Q value) : ∀ e ∈ insertBy same key value ps, P e.1 ∧ Q e.2 := by
  induction ps with
  | nil => exact List.forall_mem_singleton.2 ⟨hkey, hvalue⟩
  | cons p ps ih =>
    obtain ⟨hp, hrest⟩ := List.forall_mem_cons.1 hps
    rw [insertBy]
    split
    · exact List.forall_mem_cons.2 ⟨⟨hp.1, hvalue⟩, hrest⟩
    · exact List.forall_mem_cons.2 ⟨hp, ih hrest⟩

theorem insert_eq_append {key value : Value} (h : ∀ e ∈ es, sameKey key e.1 = false) :
    insert es key value = es ++ [(key, value)] := by
  unfold insert
  induction es with
  | nil => rfl
  | cons e es ih =>
    obtain ⟨he, hes⟩ := List.forall_mem_cons.1 h
    rw [insertBy, he, ih hes]
    rfl

/-- Entries with distinct keys are put in one after the other. -/
theorem foldl_insert_eq (h : TextKeyed (es ++ fs)) :
    fs.foldl (fun es e => insert es e.1 e.2) es = es ++ fs := by
  induction fs generalizing es with
  | nil => simp
  | cons f fs ih =>
    have hnew : ∀ e ∈ es, sameKey f.1 e.1 = false := by
      intro e he
      obtain ⟨s, hs⟩ := h.text f (by simp)
      have hne : e.1 ≠ f.1 := by
        have hd := h.distinct
        rw [List.map_append, List.nodup_append] at hd
        exact hd.2.2 e.1 (List.mem_map_of_mem he) f.1 (by simp)
      rw [hs] at hne ⊢
      rw [← Bool.not_eq_true, sameKey_str_iff]
      exact hne
    rw [List.foldl_cons, insert_eq_append hnew, ih (by simpa using h), List.append_assoc]
    rfl

/-- A mapping holds its entries as they are written. -/
theorem ofEntries_eq_map (h : TextKeyed es) : ofEntries es = .map es := by
  rw [ofEntries, @foldl_insert_eq [] es h, List.nil_append]

/-! ## Fields -/

theorem field_eq_null {name : String} (h : ∀ v, (.str name, v) ∉ es) : field es name = .null := by
  have hfind : es.find? (fun e => sameKey (.str name) e.1) = none := by
    rw [List.find?_eq_none]
    rintro ⟨k, v⟩ he hk
    obtain rfl : k = .str name := sameKey_str_iff.1 hk
    exact h v he
  rw [field, hfind]

theorem field_eq_of_mem {name : String} {v : Value} (hv : (.str name, v) ∈ es)
    (h : ∀ w, (.str name, w) ∈ es → w = v) : field es name = v := by
  cases hfind : es.find? (fun e => sameKey (.str name) e.1) with
  | none =>
    rw [List.find?_eq_none] at hfind
    exact absurd (sameKey_str_iff.2 rfl) (hfind (.str name, v) hv)
  | some e =>
    have hkey : e.1 = .str name := by
      have hsame := List.find?_some hfind
      exact sameKey_str_iff.1 hsame
    rw [field, hfind]
    exact h e.2 (hkey ▸ List.mem_of_find?_eq_some hfind)

/-- What is true of null and of the values of all entries is true of every field. -/
theorem field_induction {P : Value → Prop} (hnull : P .null) (h : ∀ e ∈ es, P e.2)
    (name : String) : P (field es name) := by
  unfold field
  cases hfind : es.find? (fun e => sameKey (.str name) e.1) with
  | none => exact hnull
  | some e => exact h e (List.mem_of_find?_eq_some hfind)

end Firewall.Value
