import Firewall.Proofs.Calendar
import Firewall.Proofs.Number.Layout
import Firewall.Proofs.Text.Shown
import Firewall.Value

/-!
# Scalars told apart by their texts

The text of a scalar that is no text itself tells its kind (`kindOf_text`) and then the scalar
(`text_inj`). So two keys of which neither replaces the other have the same text only in two ways:
one of them is a text, and the other is not, or both are nan (`text_eq_iff_alike`).
-/

namespace Firewall.Value

def IsStr (v : Value) : Prop := ∃ s, v = .str s

/-- The scalar has the form in which texts mean it: dates and moments exist, and numbers are in
their proper form. -/
def IsProper : Value → Prop
  | .float x => x.IsProper
  | .date d => d.Exists
  | .moment m => m.Exists
  | _ => True

/-! ## Kinds -/

/-- The kinds of scalars other than texts. -/
inductive Kind where
  | null
  | bool
  | int
  | float
  | bytes
  | date
  | moment
  deriving DecidableEq

def kind? : Value → Option Kind
  | .null => some .null
  | .bool _ => some .bool
  | .int _ => some .int
  | .float _ => some .float
  | .bytes _ => some .bytes
  | .date _ => some .date
  | .moment _ => some .moment
  | _ => none

/-- The kind of a scalar with a given text. -/
def kindOf (cs : List Char) : Kind :=
  if cs.head? = some 'N' then .null
  else if cs.head? = some 'T' ∨ cs.head? = some 'F' then .bool
  else if cs.head? = some 'b' then .bytes
  else if ':' ∈ cs then .moment
  else if '.' ∈ cs ∨ 'e' ∈ cs ∨ 'n' ∈ cs then .float
  else if '-' ∈ cs.tail then .date
  else .int

/-- The text begins like a number: with a digit, a minus or the name of nan or of infinity. -/
def BeginsNumber (cs : List Char) : Prop := ∃ c ∈ cs.head?, c.isDigit = true ∨ c ∈ ['-', 'i', 'n']

theorem BeginsNumber.head?_ne {cs : List Char} (h : BeginsNumber cs) {c : Char}
    (hc : c.isDigit = false ∧ c ∉ ['-', 'i', 'n']) : cs.head? ≠ some c := by
  obtain ⟨d, hd, hdigit⟩ := h
  intro heq
  rw [heq] at hd
  cases hd
  rcases hdigit with hdigit | hmem
  · rw [hc.1] at hdigit
    cases hdigit
  · exact hc.2 hmem

theorem BeginsNumber.kindOf_eq {cs : List Char} (h : BeginsNumber cs) :
    kindOf cs =
      if ':' ∈ cs then .moment
      else if '.' ∈ cs ∨ 'e' ∈ cs ∨ 'n' ∈ cs then .float
      else if '-' ∈ cs.tail then .date
      else .int := by
  have hn := h.head?_ne (c := 'N') (by decide)
  have ht := h.head?_ne (c := 'T') (by decide)
  have hf := h.head?_ne (c := 'F') (by decide)
  have hb := h.head?_ne (c := 'b') (by decide)
  rw [kindOf, if_neg hn, if_neg (not_or.2 ⟨ht, hf⟩), if_neg hb]

/-! ## Texts of each kind -/

theorem beginsNumber_toDigits_append (n : ℕ) (rest : List Char) :
    BeginsNumber (Nat.toDigits 10 n ++ rest) := by
  obtain ⟨c, ds, hds⟩ := List.exists_cons_of_ne_nil (Nat.toDigits_ne_nil (n := n) (b := 10))
  have hc : c ∈ Nat.toDigits 10 n := hds ▸ List.mem_cons_self
  exact ⟨c, by rw [hds]; rfl, .inl (Text.isDigit_of_mem_toDigits hc)⟩

theorem beginsNumber_zeroPadded_append (w n : ℕ) (rest : List Char) :
    BeginsNumber ((Text.zeroPadded w n).toList ++ rest) := by
  obtain ⟨c, ds, hds⟩ := List.exists_cons_of_ne_nil (Text.zeroPadded_ne_nil w n)
  have hc : c ∈ (Text.zeroPadded w n).toList := hds ▸ List.mem_cons_self
  exact ⟨c, by rw [hds]; rfl, .inl (Text.isDigit_of_mem_zeroPadded hc)⟩

theorem beginsNumber_signedDecimal (i : ℤ) : BeginsNumber (Text.signedDecimal i).toList := by
  rw [Text.toList_signedDecimal]
  split
  · exact ⟨'-', rfl, .inr (by decide)⟩
  · have h := beginsNumber_toDigits_append i.natAbs []
    rwa [List.append_nil] at h

theorem beginsNumber_float (x : Binary64) : BeginsNumber (floatLayout.text x).toList := by
  cases x with
  | nan => exact ⟨'n', rfl, .inr (by decide)⟩
  | infinity s => cases s <;> exact ⟨_, rfl, .inr (by decide)⟩
  | finite s m e =>
    rw [FloatLayout.toList_text_finite]
    cases s
    · obtain ⟨c, hc, hdigit⟩ := (FloatLayout.isDecimalText_decimal floatLayout
        (FloatLayout.digitsOf m e).1 (FloatLayout.digitsOf m e).2).head
      exact ⟨c, hc, .inl hdigit⟩
    · exact ⟨'-', rfl, .inr (by decide)⟩

theorem beginsNumber_date_append (d : Date) (rest : List Char) :
    BeginsNumber (d.text.toList ++ rest) := by
  rw [Date.toList_text, List.append_assoc]
  exact beginsNumber_zeroPadded_append 4 d.year _

theorem not_mem_of_areDigits {cs : List Char} (h : ∀ c ∈ cs, c.isDigit = true) {c : Char}
    (hc : c.isDigit = false) : c ∉ cs := by
  intro hmem
  rw [h c hmem] at hc
  cases hc

theorem kindOf_int (i : ℤ) : kindOf (Text.signedDecimal i).toList = .int := by
  have hmark {c : Char} (hc : c.isDigit = false) : c ∉ Nat.toDigits 10 i.natAbs :=
    not_mem_of_areDigits (fun _ => Text.isDigit_of_mem_toDigits) hc
  have htail {c : Char} (hc : c.isDigit = false) :
      c ∉ (Text.signedDecimal i).toList.tail := by
    rw [Text.toList_signedDecimal]
    split
    · exact hmark hc
    · exact fun hmem => hmark hc (List.mem_of_mem_tail hmem)
  have hlist {c : Char} (hc : c.isDigit = false) (hne : c ≠ '-') :
      c ∉ (Text.signedDecimal i).toList := by
    rw [Text.toList_signedDecimal, List.mem_append, not_or]
    refine ⟨?_, hmark hc⟩
    split
    · simpa using hne
    · exact List.not_mem_nil
  rw [(beginsNumber_signedDecimal i).kindOf_eq, if_neg (hlist (by decide) (by decide)),
    if_neg (not_or.2 ⟨hlist (by decide) (by decide), not_or.2
      ⟨hlist (by decide) (by decide), hlist (by decide) (by decide)⟩⟩),
    if_neg (htail (by decide))]

theorem kindOf_float (x : Binary64) : kindOf (floatLayout.text x).toList = .float := by
  cases x with
  | nan => decide
  | infinity s => cases s <;> decide
  | finite s m e =>
    have hcolon : ':' ∉ (floatLayout.text (.finite s m e)).toList := fun h =>
      absurd (FloatLayout.mem_text_finite h) (by decide)
    have hmark : '.' ∈ (floatLayout.text (.finite s m e)).toList ∨
        'e' ∈ (floatLayout.text (.finite s m e)).toList := by
      rw [FloatLayout.toList_text_finite]
      exact (FloatLayout.isDecimalText_decimal floatLayout _ _).mark.imp
        (List.mem_append_right _) (List.mem_append_right _)
    rw [(beginsNumber_float _).kindOf_eq, if_neg hcolon,
      if_pos (hmark.imp_right fun h => .inl h)]

theorem kindOf_date (d : Date) : kindOf d.text.toList = .date := by
  have hchars {c : Char} (hc : c.isDigit = false) (hne : c ≠ '-') : c ∉ d.text.toList := by
    have hpart (w n : ℕ) : c ∉ (Text.zeroPadded w n).toList :=
      not_mem_of_areDigits (fun _ => Text.isDigit_of_mem_zeroPadded) hc
    rw [Date.toList_text]
    simp [hpart, hne]
  have hhyphen : '-' ∈ d.text.toList.tail := by
    obtain ⟨c, ds, hds⟩ := List.exists_cons_of_ne_nil (Text.zeroPadded_ne_nil 4 d.year)
    rw [Date.toList_text, hds]
    simp
  have hbegins := beginsNumber_date_append d []
  rw [List.append_nil] at hbegins
  rw [hbegins.kindOf_eq, if_neg (hchars (by decide) (by decide)),
    if_neg (not_or.2 ⟨hchars (by decide) (by decide), not_or.2
      ⟨hchars (by decide) (by decide), hchars (by decide) (by decide)⟩⟩), if_pos hhyphen]

theorem kindOf_moment (m : Moment) : kindOf m.text.toList = .moment := by
  have hcolon : ':' ∈ m.text.toList := by
    rw [Moment.toList_text]
    simp
  have hbegins : BeginsNumber m.text.toList := by
    rw [Moment.toList_text]
    exact beginsNumber_date_append m.date _
  rw [hbegins.kindOf_eq, if_pos hcolon]

/-- The text of a scalar tells its kind. -/
theorem kindOf_text {v : Value} {k : Kind} (h : v.kind? = some k) : kindOf v.text.toList = k := by
  cases v with
  | null => cases h; decide
  | bool b => cases h; cases b <;> decide
  | int i => cases h; exact kindOf_int i
  | float x => cases h; exact kindOf_float x
  | bytes bs =>
    cases h
    simp [text, shown, Text.shownBytes, kindOf]
  | date d => cases h; exact kindOf_date d
  | moment m => cases h; exact kindOf_moment m
  | _ => cases h

/-- No text of a scalar begins with an exclamation mark but that of a text. -/
theorem head?_text_ne {v : Value} {k : Kind} (h : v.kind? = some k) :
    v.text.toList.head? ≠ some '!' := by
  cases v with
  | null => decide
  | bool b => cases b <;> decide
  | int i => exact (beginsNumber_signedDecimal i).head?_ne (by decide)
  | float x => exact (beginsNumber_float x).head?_ne (by decide)
  | bytes bs => simp [text, shown, Text.shownBytes]
  | date d =>
    have hbegins := beginsNumber_date_append d []
    rw [List.append_nil] at hbegins
    exact hbegins.head?_ne (by decide)
  | moment m =>
    have hbegins : BeginsNumber m.text.toList := by
      rw [Moment.toList_text]
      exact beginsNumber_date_append m.date _
    exact hbegins.head?_ne (by decide)
  | _ => cases h

theorem exists_kind {v : Value} (h : v.isScalar = true) (hs : ¬ v.IsStr) :
    ∃ k, v.kind? = some k := by
  cases v with
  | str s => exact absurd ⟨s, rfl⟩ hs
  | list items => cases h
  | tuple items => cases h
  | set items => cases h
  | map entries => cases h
  | _ => exact ⟨_, rfl⟩

/-- Scalars that are no texts are told by their texts. -/
theorem text_inj {v w : Value} (hv : v.isScalar = true) (hw : w.isScalar = true)
    (hvs : ¬ v.IsStr) (hws : ¬ w.IsStr) (hvp : v.IsProper) (hwp : w.IsProper)
    (h : v.text = w.text) : v = w := by
  obtain ⟨k, hk⟩ := exists_kind hv hvs
  obtain ⟨l, hl⟩ := exists_kind hw hws
  have hkind : k = l := by rw [← kindOf_text hk, ← kindOf_text hl, h]
  subst hkind
  cases v with
  | null => cases hk; cases w <;> cases hl; rfl
  | bool b =>
    cases hk
    cases w <;> cases hl
    next c => cases b <;> cases c <;> simp [text, shown] at h ⊢
  | int i =>
    cases hk
    cases w <;> cases hl
    exact congrArg _ (Text.signedDecimal_inj h)
  | float x =>
    cases hk
    cases w <;> cases hl
    exact congrArg _ (FloatLayout.text_inj hvp hwp h)
  | bytes bs =>
    cases hk
    cases w <;> cases hl
    exact congrArg _ (Text.shownBytes_inj h)
  | date d =>
    cases hk
    cases w <;> cases hl
    exact congrArg _ (Date.text_inj hvp hwp h)
  | moment m =>
    cases hk
    cases w <;> cases hl
    exact congrArg _ (Moment.text_inj hvp hwp h)
  | _ => cases hk

/-! ## Keys -/

/-- Two keys that are alike: their texts are the same although one of them is a text and the other
is not, or both are nan, which is the same as no key. -/
def Alike (v w : Value) : Prop :=
  (v.text = w.text ∧ (v.IsStr ↔ ¬ w.IsStr)) ∨ (v = .float .nan ∧ w = .float .nan)

theorem sameKey_nan_right (v : Value) : sameKey v (.float .nan) = false := by
  cases v with
  | float x => cases x <;> rfl
  | _ => rfl

theorem sameKey_nan_left (v : Value) : sameKey (.float .nan) v = false := by
  cases v <;> rfl

/-- Of all scalars only nan is another key than itself. -/
theorem sameKey_self {v : Value} (h : v.isScalar = true) (hn : v ≠ .float .nan) :
    sameKey v v = true := by
  cases v with
  | null => rfl
  | bool b => cases b <;> rfl
  | int i => simp [sameKey, integer?]
  | float x =>
    cases x with
    | nan => exact absurd rfl hn
    | infinity s => cases s <;> rfl
    | finite s m e => simp [sameKey, Binary64.same]
  | str s => simp [sameKey]
  | bytes bs => simp [sameKey]
  | date d => simp [sameKey]
  | moment m =>
    rw [sameKey, Moment.same]
    cases m.offset <;> simp
  | _ => cases h

/-- Keys of which neither replaces the other have the same text exactly when they are alike. -/
theorem text_eq_iff_alike {v w : Value} (hv : v.isScalar = true) (hw : w.isScalar = true)
    (hvp : v.IsProper) (hwp : w.IsProper) (h : sameKey v w = false) :
    v.text = w.text ↔ Alike v w := by
  constructor
  · intro htext
    by_cases hvs : v.IsStr <;> by_cases hws : w.IsStr
    · -- two texts with the same text are the same key
      obtain ⟨s, rfl⟩ := hvs
      obtain ⟨t, rfl⟩ := hws
      rw [show s = t from htext, sameKey_self (v := .str t) rfl nofun] at h
      cases h
    · exact .inl ⟨htext, iff_of_true hvs hws⟩
    · exact .inl ⟨htext, iff_of_false hvs (not_not.2 hws)⟩
    · have hsame := text_inj hv hw hvs hws hvp hwp htext
      subst hsame
      by_cases hn : v = .float .nan
      · exact .inr ⟨hn, hn⟩
      · rw [sameKey_self hv hn] at h
        cases h
  · rintro (⟨htext, -⟩ | ⟨rfl, rfl⟩)
    · exact htext
    · rfl

theorem alike_comm {v w : Value} : Alike v w ↔ Alike w v := by
  unfold Alike
  rw [eq_comm (a := v.text), and_comm (a := v = .float .nan)]
  refine or_congr (and_congr_right fun _ => ?_) Iff.rfl
  by_cases hv : v.IsStr <;> by_cases hw : w.IsStr <;> simp [hv, hw]

/-! ## Mappings -/

/-- All keys are proper scalars, and none replaces one that stands before it. -/
structure Keyed (es : List (Value × Value)) : Prop where
  scalar : ∀ e ∈ es, e.1.isScalar = true
  proper : ∀ e ∈ es, e.1.IsProper
  distinct : (es.map Prod.fst).Pairwise fun k l => sameKey l k = false

def Unlike (es : List (Value × Value)) : Prop := es.Pairwise fun e f => ¬ Alike e.1 f.1

/-- The texts of keys are distinct unless two keys are alike. -/
theorem Keyed.nodup_text_iff {es : List (Value × Value)} (h : Keyed es) :
    (es.map fun e => e.1.text).Nodup ↔ Unlike es := by
  rw [List.Nodup, List.pairwise_map, Unlike]
  have hpairs := List.Pairwise.and_mem.1 (List.pairwise_map.1 h.distinct)
  have hiff {e f : Value × Value} (hef : e ∈ es ∧ f ∈ es ∧ sameKey f.1 e.1 = false) :
      e.1.text ≠ f.1.text ↔ ¬ Alike e.1 f.1 := by
    obtain ⟨he, hf, hsame⟩ := hef
    rw [ne_comm, alike_comm]
    exact not_congr
      (text_eq_iff_alike (h.scalar f hf) (h.scalar e he) (h.proper f hf) (h.proper e he) hsame)
  constructor
  · exact fun htexts => hpairs.imp₂ (fun _ _ hef => (hiff hef).1) htexts
  · exact fun hunlike => hpairs.imp₂ (fun _ _ hef => (hiff hef).2) hunlike

theorem Keyed.filter {es : List (Value × Value)} (h : Keyed es) (p : Value × Value → Bool) :
    Keyed (es.filter p) where
  scalar e he := h.scalar e (List.mem_of_mem_filter he)
  proper e he := h.proper e (List.mem_of_mem_filter he)
  distinct := h.distinct.sublist (List.filter_sublist.map Prod.fst)

/-- The entries of a mapping; no other value has any. -/
def entries : Value → List (Value × Value)
  | .map es => es
  | _ => []

/-- All mappings that the value is put together from have proper keys. -/
inductive WellKeyed : Value → Prop
  | scalar {v : Value} (h : v.isScalar = true) : WellKeyed v
  | list {items : List Value} (h : ∀ v ∈ items, WellKeyed v) : WellKeyed (.list items)
  | tuple {items : List Value} (h : ∀ v ∈ items, WellKeyed v) : WellKeyed (.tuple items)
  | set {items : List Value} (h : ∀ v ∈ items, WellKeyed v) : WellKeyed (.set items)
  | map {entries : List (Value × Value)} (hkeys : Keyed entries)
      (hvalues : ∀ e ∈ entries, WellKeyed e.2) : WellKeyed (.map entries)

namespace WellKeyed

theorem keyed_entries {v : Value} (h : v.WellKeyed) : Keyed v.entries := by
  cases h with
  | map hkeys _ => exact hkeys
  | scalar hv =>
    cases v with
    | map es => cases hv
    | _ => exact ⟨nofun, nofun, .nil⟩
  | _ => exact ⟨nofun, nofun, .nil⟩

theorem of_mem_map {es : List (Value × Value)} (h : WellKeyed (.map es)) :
    ∀ e ∈ es, WellKeyed e.2 := by
  cases h with
  | scalar hv => cases hv
  | map _ hvalues => exact hvalues

theorem of_mem_list {items : List Value} (h : WellKeyed (.list items)) :
    ∀ v ∈ items, WellKeyed v := by
  cases h with
  | scalar hv => cases hv
  | list hitems => exact hitems

end WellKeyed

end Firewall.Value
