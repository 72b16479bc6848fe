import Firewall.Text.CaseMap
import Mathlib.Data.List.Basic

/-!
# Letter case over all characters

The two cases of a text and how they meet in ASCII. Upper-casing makes and loses no character of
ASCII that is no letter (`mem_upper_iff`). Lower-casing makes ASCII letters of ASCII letters and of
one other character, the Kelvin sign, which upper-casing leaves alone (`ascii_or_kelvin_of_lower`);
so a text whose lower case is in ASCII has the upper case of that lower case, up to its Kelvin signs
(`upper_readKelvin`). A text in ASCII has the same lower case before and after upper-casing
(`lower_upper_of_ascii`).
-/

namespace Firewall.Text

def isAscii (c : Char) : Bool := c.toNat < 128

/-- A fact about the 128 characters of ASCII can be checked one by one. -/
theorem ascii_cases {p : Char → Prop} (h : ∀ n : Fin 128, p (Char.ofNat n)) {c : Char}
    (hc : isAscii c = true) : p c := by
  have := h ⟨c.toNat, by simpa [isAscii] using hc⟩
  rwa [Char.ofNat_toNat] at this

/-! ## What the tables do -/

/-- All characters that the range moves land beyond ASCII. -/
def CaseRange.LandsBeyondAscii (r : CaseRange) : Prop :=
  128 ≤ (r.first : Int) + r.shift ∧
    ((r.last : Int) + r.shift < 0xD800 ∨
      0xE000 ≤ (r.first : Int) + r.shift ∧ (r.last : Int) + r.shift < 0x110000)

instance : DecidablePred CaseRange.LandsBeyondAscii := fun r => by
  unfold CaseRange.LandsBeyondAscii; infer_instance

theorem CaseRange.LandsBeyondAscii.target {r : CaseRange} (h : r.LandsBeyondAscii) {n : Nat}
    (hn : r.contains n = true) : isAscii (Char.ofNat (r.target n)) = false := by
  obtain ⟨hl, hv⟩ := h
  simp only [CaseRange.contains, Bool.and_eq_true, decide_eq_true_eq] at hn
  obtain ⟨⟨hf, ht⟩, -⟩ := hn
  have ht' : (r.target n : Int) = n + r.shift := by
    unfold CaseRange.target
    rw [Int.ofNat_eq_natCast, Int.toNat_of_nonneg (by omega)]
  have hvalid : (r.target n).isValidChar := by
    unfold Nat.isValidChar
    omega
  have hnat : (Char.ofNat (r.target n)).toNat = r.target n := by
    rw [Char.ofNat, dif_pos hvalid]
    rfl
  rw [isAscii, hnat, decide_eq_false_iff_not]
  omega

/-- A character goes to a text of the first table, to its place in a range of the second, or to
itself. -/
theorem mapCase_cases (texts : List (Nat × List Nat)) (ranges : List CaseRange) (c : Char) :
    (∃ e ∈ texts, e.1 = c.toNat ∧ mapCase texts ranges c = e.2.map Char.ofNat) ∨
    (∃ r ∈ ranges, r.contains c.toNat = true ∧
      mapCase texts ranges c = [Char.ofNat (r.target c.toNat)]) ∨
    mapCase texts ranges c = [c] := by
  unfold mapCase
  cases ht : texts.lookup c.toNat with
  | some cs =>
    obtain ⟨l, r, hlr, -⟩ := List.lookup_eq_some_iff.1 ht
    exact .inl ⟨(c.toNat, cs), by simp [hlr], rfl, rfl⟩
  | none =>
    cases hr : ranges.find? (·.contains c.toNat) with
    | some r =>
      have hc : r.contains c.toNat = true := by simpa using List.find?_some hr
      exact .inr (.inl ⟨r, List.mem_of_find?_eq_some hr, hc, rfl⟩)
    | none => exact .inr (.inr rfl)

theorem lowerRanges_land : ∀ r ∈ lowerRanges,
    r.LandsBeyondAscii ∨ r.first = 0x212A ∧ r.last = 0x212A := by
  decide +kernel

theorem lowerTexts_land : ∀ e ∈ lowerTexts, ∃ n ∈ e.2, isAscii (Char.ofNat n) = false := by
  decide +kernel

theorem upperRanges_land : ∀ r ∈ upperRanges,
    r.LandsBeyondAscii ∨
      r.first = r.last ∧ (Char.ofNat (r.target r.first)).isAlpha = true := by
  decide +kernel

theorem upperTexts_land : ∀ e ∈ upperTexts,
    e.2 ≠ [] ∧ ∀ n ∈ e.2, isAscii (Char.ofNat n) = false ∨ (Char.ofNat n).isAlpha = true := by
  decide +kernel

/-! ## Upper case -/

theorem upperChar_of_ascii {c : Char} (hc : isAscii c = true) : upperChar c = [c.toUpper] := by
  unfold upperChar
  rw [if_pos (by simpa [isAscii] using hc)]

theorem lowerChar_of_ascii {c : Char} (hc : isAscii c = true) : lowerChar c = [c.toLower] := by
  unfold lowerChar
  rw [if_pos (by simpa [isAscii] using hc)]

/-- Beyond ASCII, upper case makes no character of ASCII but letters. -/
theorem upperChar_lands {c : Char} (hc : isAscii c = false) :
    upperChar c ≠ [] ∧ ∀ d ∈ upperChar c, isAscii d = false ∨ d.isAlpha = true := by
  unfold upperChar
  rw [if_neg (by simpa [isAscii] using hc)]
  obtain ⟨e, he, -, h⟩ | ⟨r, hr, hn, h⟩ | h := mapCase_cases upperTexts upperRanges c
  · obtain ⟨hne, hall⟩ := upperTexts_land e he
    rw [h]
    refine ⟨by simpa using hne, fun d hd => ?_⟩
    obtain ⟨n, hn, rfl⟩ := List.mem_map.1 hd
    exact hall n hn
  · rw [h]
    refine ⟨by simp, fun d hd => ?_⟩
    rw [List.mem_singleton.1 hd]
    obtain hl | ⟨he, ha⟩ := upperRanges_land r hr
    · exact .inl (hl.target hn)
    · have : c.toNat = r.first := by
        simp only [CaseRange.contains, Bool.and_eq_true, decide_eq_true_eq] at hn
        omega
      exact .inr (this ▸ ha)
  · rw [h]
    exact ⟨by simp, fun d hd => .inl (List.mem_singleton.1 hd ▸ hc)⟩

theorem upperChar_ne_nil (c : Char) : upperChar c ≠ [] := by
  cases hc : isAscii c with
  | true => simp [upperChar_of_ascii hc]
  | false => exact (upperChar_lands hc).1

/-- Upper case takes a character of ASCII that is no letter from that character alone. -/
theorem mem_upperChar_iff {c d : Char} (hd : isAscii d = true) (ha : d.isAlpha = false) :
    d ∈ upperChar c ↔ c = d := by
  constructor
  · intro h
    cases hc : isAscii c with
    | true =>
      rw [upperChar_of_ascii hc, List.mem_singleton] at h
      have key : c.toUpper.isAlpha = false → c = c.toUpper :=
        ascii_cases (p := fun c => c.toUpper.isAlpha = false → c = c.toUpper) (by decide) hc
      rw [h]
      exact key (h ▸ ha)
    | false =>
      obtain hn | hl := (upperChar_lands hc).2 d h
      · rw [hd] at hn; cases hn
      · rw [ha] at hl; cases hl
  · rintro rfl
    have key : c.isAlpha = false → c.toUpper = c :=
      ascii_cases (p := fun c => c.isAlpha = false → c.toUpper = c) (by decide) hd
    rw [upperChar_of_ascii hd, key ha]
    exact List.mem_singleton_self c

/-- Upper case keeps a character of ASCII that is no letter, and adds none. -/
theorem mem_upper_iff {s : String} {d : Char} (hd : isAscii d = true) (ha : d.isAlpha = false) :
    d ∈ (upper s).toList ↔ d ∈ s.toList := by
  simp only [toList_upper, List.mem_flatMap, mem_upperChar_iff hd ha, exists_eq_right]

theorem upper_eq_empty_iff {s : String} : upper s = "" ↔ s = "" := by
  rw [← String.toList_inj, ← String.toList_inj, toList_upper]
  cases s.toList <;> simp [upperChar_ne_nil]

/-- The upper case of a text holds that of each of its characters in one piece. -/
theorem upperChar_infix_upper {c : Char} {s : String} (h : c ∈ s.toList) :
    upperChar c <:+: (upper s).toList := by
  obtain ⟨before, after, hs⟩ := List.append_of_mem h
  refine ⟨before.flatMap upperChar, after.flatMap upperChar, ?_⟩
  rw [toList_upper, hs, List.flatMap_append, List.flatMap_cons, List.append_assoc]

/-! ## Lower case in ASCII -/

theorem isAscii_toUpper {c : Char} (hc : isAscii c = true) : isAscii c.toUpper = true :=
  ascii_cases (p := fun c => isAscii c.toUpper = true) (by decide) hc

theorem upper_eq_toUpper_of_ascii {s : String} (h : ∀ c ∈ s.toList, isAscii c = true) :
    upper s = s.toUpper := by
  rw [← String.toList_inj, toList_upper, String.toUpper, String.toList_map,
    ← List.flatMap_pure_eq_map]
  exact List.flatMap_congr fun c hc => upperChar_of_ascii (h c hc)

theorem ascii_upper_of_ascii {s : String} (h : ∀ c ∈ s.toList, isAscii c = true) :
    ∀ d ∈ (upper s).toList, isAscii d = true := by
  intro d hd
  rw [upper_eq_toUpper_of_ascii h, String.toUpper, String.toList_map] at hd
  obtain ⟨c, hc, rfl⟩ := List.mem_map.1 hd
  exact isAscii_toUpper (h c hc)

theorem lower_eq_self_of_ascii {s : String} (h : ∀ c ∈ s.toList, isAscii c = true)
    (hsmall : ∀ c ∈ s.toList, c.toLower = c) : lower s = s := by
  rw [← String.toList_inj, toList_lower]
  calc s.toList.flatMap lowerChar = s.toList.flatMap ([·]) := List.flatMap_congr fun c hc => by
        rw [lowerChar_of_ascii (h c hc), hsmall c hc]
    _ = s.toList := List.flatMap_singleton' _

theorem lower_upper_of_ascii {s : String} (h : ∀ c ∈ s.toList, isAscii c = true) :
    lower (upper s) = lower s := by
  rw [← String.toList_inj, toList_lower, toList_upper, toList_lower, List.flatMap_assoc]
  refine List.flatMap_congr fun c hc => ?_
  have key : c.toUpper.toLower = c.toLower :=
    ascii_cases (p := fun c => c.toUpper.toLower = c.toLower) (by decide) (h c hc)
  rw [upperChar_of_ascii (h c hc), List.flatMap_cons, List.flatMap_nil, List.append_nil,
    lowerChar_of_ascii (isAscii_toUpper (h c hc)), lowerChar_of_ascii (h c hc), key]

/-- Lower case keeps a character of ASCII that is no letter. -/
theorem mem_lower_of_mem {s : String} {d : Char} (hd : isAscii d = true) (ha : d.isAlpha = false)
    (h : d ∈ s.toList) : d ∈ (lower s).toList := by
  have key : d.isAlpha = false → d.toLower = d :=
    ascii_cases (p := fun d => d.isAlpha = false → d.toLower = d) (by decide) hd
  rw [toList_lower]
  refine List.mem_flatMap.2 ⟨d, h, ?_⟩
  rw [lowerChar_of_ascii hd, key ha]
  exact List.mem_singleton_self d

/-- The only character beyond ASCII whose lower case is in ASCII. -/
def kelvinSign : Char := '\u212A'

/-- The Kelvin sign read as the letter that it looks like. -/
def readKelvin (c : Char) : Char := if c = kelvinSign then 'K' else c

theorem toUpper_ne_kelvinSign {c : Char} (hc : isAscii c = true) : c.toUpper ≠ kelvinSign :=
  ascii_cases (p := fun c => c.toUpper ≠ kelvinSign) (by decide) hc

theorem ascii_or_kelvin_of_lowerChar {c : Char} (h : ∀ d ∈ lowerChar c, isAscii d = true) :
    isAscii c = true ∨ c = kelvinSign := by
  cases hc : isAscii c with
  | true => exact .inl rfl
  | false =>
    right
    have hm : lowerChar c = mapCase lowerTexts lowerRanges c := by
      unfold lowerChar
      rw [if_neg (by simpa [isAscii] using hc)]
    obtain ⟨e, he, -, hl⟩ | ⟨r, hr, hn, hl⟩ | hl := mapCase_cases lowerTexts lowerRanges c
    · obtain ⟨n, hn, hf⟩ := lowerTexts_land e he
      have := h (Char.ofNat n) (by rw [hm, hl]; exact List.mem_map_of_mem hn)
      rw [hf] at this; cases this
    · have ha := h (Char.ofNat (r.target c.toNat)) (by rw [hm, hl]; exact List.mem_singleton_self _)
      obtain hb | ⟨hf, ht⟩ := lowerRanges_land r hr
      · rw [hb.target hn] at ha; cases ha
      · have : c.toNat = 0x212A := by
          simp only [CaseRange.contains, Bool.and_eq_true, decide_eq_true_eq] at hn
          omega
        rw [← Char.ofNat_toNat c, this]
        rfl
    · have := h c (by rw [hm, hl]; exact List.mem_singleton_self c)
      rw [hc] at this; cases this

/-- A character whose lower case is in ASCII has the upper case of that lower case, if the Kelvin
sign is read as a letter. -/
theorem upperChar_readKelvin {c : Char} (h : ∀ d ∈ lowerChar c, isAscii d = true) :
    (upperChar c).map readKelvin = (lowerChar c).map Char.toUpper := by
  obtain hc | rfl := ascii_or_kelvin_of_lowerChar h
  · have key : readKelvin c.toUpper = c.toLower.toUpper :=
      ascii_cases (p := fun c => readKelvin c.toUpper = c.toLower.toUpper) (by decide) hc
    rw [upperChar_of_ascii hc, lowerChar_of_ascii hc, List.map_singleton, List.map_singleton, key]
  · decide +kernel

theorem upper_readKelvin {s : String} (h : ∀ d ∈ (lower s).toList, isAscii d = true) :
    (upper s).map readKelvin = (lower s).toUpper := by
  rw [← String.toList_inj]
  simp only [String.toUpper, String.toList_map, toList_upper, toList_lower] at h ⊢
  rw [List.map_flatMap, List.map_flatMap]
  refine List.flatMap_congr fun c hc => upperChar_readKelvin fun d hd => ?_
  exact h d (List.mem_flatMap.2 ⟨c, hc, hd⟩)

/-- Of the texts whose lower case is in ASCII, those without a Kelvin sign have the upper case of
that lower case. -/
theorem upper_eq_toUpper_lower_iff {s : String} (h : ∀ d ∈ (lower s).toList, isAscii d = true) :
    upper s = (lower s).toUpper ↔ kelvinSign ∉ s.toList := by
  constructor
  · intro he hk
    have hu : kelvinSign ∈ (upper s).toList := by
      rw [toList_upper]
      exact List.mem_flatMap.2 ⟨kelvinSign, hk, by decide +kernel⟩
    rw [he, String.toUpper, String.toList_map] at hu
    obtain ⟨d, hd, hdk⟩ := List.mem_map.1 hu
    exact toUpper_ne_kelvinSign (h d hd) hdk
  · intro hk
    have hu : ∀ d ∈ (upper s).toList, readKelvin d = d := by
      intro d hd
      rw [toList_upper] at hd
      obtain ⟨c, hc, hd⟩ := List.mem_flatMap.1 hd
      have hl : ∀ d ∈ lowerChar c, isAscii d = true := fun d hd =>
        h d (by rw [toList_lower]; exact List.mem_flatMap.2 ⟨c, hc, hd⟩)
      obtain ha | rfl := ascii_or_kelvin_of_lowerChar hl
      · rw [upperChar_of_ascii ha, List.mem_singleton] at hd
        rw [hd, readKelvin, if_neg (toUpper_ne_kelvinSign ha)]
      · exact absurd hc hk
    rw [← upper_readKelvin h, ← String.toList_inj, String.toList_map]
    exact ((List.map_congr_left hu).trans (List.map_id' _)).symm

end Firewall.Text
