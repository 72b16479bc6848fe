import Firewall.Calendar
import Firewall.Proofs.Text.Digits

/-!
# Dates and moments told apart by their texts

Dates and moments that exist have numbers of a fixed width in their texts, so the text tells them
(`Date.text_inj`, `Moment.text_inj`). What may be missing in a moment, a fraction of a second and
the distance from universal time, is told by the character in front of it.
-/

namespace Firewall

open Text

namespace Date

theorem toList_text (d : Date) :
    d.text.toList = (zeroPadded 4 d.year).toList ++ '-' :: ((zeroPadded 2 d.month).toList ++
      '-' :: (zeroPadded 2 d.day).toList) := by
  simp [text]

theorem day_lt {d : Date} (h : d.Exists) : d.day < 32 := by
  have hdays : daysIn d.year d.month ≤ 31 := by
    unfold daysIn
    split
    · split <;> decide
    · split <;> decide
  obtain ⟨-, -, -, -, -, hday⟩ := h
  omega

/-- Behind a date the text can be cut. -/
theorem text_append_inj {d e : Date} (hd : d.Exists) (he : e.Exists) {s t : List Char}
    (h : d.text.toList ++ s = e.text.toList ++ t) : d = e ∧ s = t := by
  have hdday := day_lt hd
  have heday := day_lt he
  obtain ⟨-, hdyear, -, hdmonth, -⟩ := hd
  obtain ⟨-, heyear, -, hemonth, -⟩ := he
  rw [toList_text, toList_text, List.append_assoc, List.append_assoc] at h
  obtain ⟨hyear, h⟩ := zeroPadded_append_inj (by decide) (by omega) (by omega) h
  rw [List.cons_append, List.cons_append, List.cons.injEq, List.append_assoc,
    List.append_assoc] at h
  obtain ⟨hmonth, h⟩ := zeroPadded_append_inj (by decide) (by omega) (by omega) h.2
  rw [List.cons_append, List.cons_append, List.cons.injEq] at h
  obtain ⟨hday, hrest⟩ := zeroPadded_append_inj (by decide) (by omega) (by omega) h.2
  cases d
  cases e
  cases hyear
  cases hmonth
  cases hday
  exact ⟨rfl, hrest⟩

theorem text_inj {d e : Date} (hd : d.Exists) (he : e.Exists) (h : d.text = e.text) : d = e := by
  have hchars : d.text.toList ++ [] = e.text.toList ++ [] := by rw [h]
  exact (text_append_inj hd he hchars).1

end Date

namespace Moment

/-! ## Distances from universal time -/

theorem toList_offsetText (s : Int) :
    (offsetText s).toList = (if s < 0 then '-' else '+') ::
      ((zeroPadded 2 (s.natAbs / 3600)).toList ++ ':' ::
        ((zeroPadded 2 (s.natAbs / 60 % 60)).toList ++
          (if s.natAbs % 60 = 0 then [] else ':' :: (zeroPadded 2 (s.natAbs % 60)).toList))) := by
  unfold offsetText
  by_cases hs : s < 0 <;> by_cases hn : s.natAbs % 60 = 0 <;> simp [hs, hn]

theorem offsetText_inj {s t : Int} (hs : s.natAbs < 86400) (ht : t.natAbs < 86400)
    (h : (offsetText s).toList = (offsetText t).toList) : s = t := by
  rw [toList_offsetText, toList_offsetText, List.cons.injEq] at h
  obtain ⟨hsign, h⟩ := h
  obtain ⟨hhour, h⟩ := zeroPadded_append_inj (by decide) (by omega) (by omega) h
  rw [List.cons.injEq] at h
  obtain ⟨hminute, h⟩ := zeroPadded_append_inj (by decide) (by omega) (by omega) h.2
  have hsecond : s.natAbs % 60 = t.natAbs % 60 := by
    split at h <;> split at h
    · omega
    · cases h
    · cases h
    · have hread := congrArg readDigits (List.cons.inj h).2
      rwa [readDigits_zeroPadded, readDigits_zeroPadded] at hread
  have habs : s.natAbs = t.natAbs := by omega
  have hneg : s < 0 ↔ t < 0 := by
    split at hsign <;> split at hsign
    · exact iff_of_true ‹_› ‹_›
    · cases hsign
    · cases hsign
    · exact iff_of_false ‹_› ‹_›
  omega

/-! ## Texts -/

/-- What may follow the seconds: a fraction, and a distance from universal time. -/
def tailText (m : Moment) : List Char :=
  (if m.microsecond = 0 then [] else '.' :: (zeroPadded 6 m.microsecond).toList) ++
    ((m.offset.map fun s => (offsetText s).toList).getD [])

theorem toList_text (m : Moment) :
    m.text.toList = m.date.text.toList ++ ' ' :: ((zeroPadded 2 m.hour).toList ++
      ':' :: ((zeroPadded 2 m.minute).toList ++ ':' :: ((zeroPadded 2 m.second).toList ++
        m.tailText))) := by
  unfold text tailText
  by_cases hm : m.microsecond = 0 <;> cases m.offset <;> simp [hm]

theorem head?_offset_ne (o : Option Int) :
    ((o.map fun s => (offsetText s).toList).getD []).head? ≠ some '.' := by
  cases o with
  | none => exact nofun
  | some s =>
    rw [Option.map_some, Option.getD_some, toList_offsetText]
    split <;> simp

theorem tailText_inj {m n : Moment} (hm : m.Exists) (hn : n.Exists)
    (h : m.tailText = n.tailText) : m.microsecond = n.microsecond ∧ m.offset = n.offset := by
  obtain ⟨-, -, -, -, hmmicro, hmoffset⟩ := hm
  obtain ⟨-, -, -, -, hnmicro, hnoffset⟩ := hn
  have hoffset (h : (m.offset.map fun s => (offsetText s).toList).getD [] =
      (n.offset.map fun s => (offsetText s).toList).getD []) : m.offset = n.offset := by
    cases hmo : m.offset with
    | none =>
      cases hno : n.offset with
      | none => rfl
      | some t => simp [hmo, hno, toList_offsetText] at h
    | some s =>
      cases hno : n.offset with
      | none => simp [hmo, hno, toList_offsetText] at h
      | some t =>
        rw [hmo, hno] at h
        have hs := hmoffset s hmo
        have ht := hnoffset t hno
        rw [offsetText_inj (by omega) (by omega) h]
  unfold tailText at h
  by_cases hmz : m.microsecond = 0 <;> by_cases hnz : n.microsecond = 0
  · rw [if_pos hmz, if_pos hnz] at h
    exact ⟨hmz.trans hnz.symm, hoffset h⟩
  · rw [if_pos hmz, if_neg hnz] at h
    exact absurd (congrArg List.head? h) (head?_offset_ne m.offset)
  · rw [if_neg hmz, if_pos hnz] at h
    exact absurd (congrArg List.head? h).symm (head?_offset_ne n.offset)
  · rw [if_neg hmz, if_neg hnz, List.cons_append, List.cons_append, List.cons.injEq] at h
    obtain ⟨hmicro, hrest⟩ := zeroPadded_append_inj (by decide) (by omega) (by omega) h.2
    exact ⟨hmicro, hoffset hrest⟩

theorem text_inj {m n : Moment} (hm : m.Exists) (hn : n.Exists) (h : m.text = n.text) :
    m = n := by
  have htail := fun hsame => tailText_inj hm hn hsame
  obtain ⟨hmdate, hmhour, hmminute, hmsecond, -⟩ := hm
  obtain ⟨hndate, hnhour, hnminute, hnsecond, -⟩ := hn
  have h := congrArg String.toList h
  rw [toList_text, toList_text] at h
  obtain ⟨hdate, h⟩ := Date.text_append_inj hmdate hndate h
  rw [List.cons.injEq] at h
  obtain ⟨hhour, h⟩ := zeroPadded_append_inj (by decide) (by omega) (by omega) h.2
  rw [List.cons.injEq] at h
  obtain ⟨hminute, h⟩ := zeroPadded_append_inj (by decide) (by omega) (by omega) h.2
  rw [List.cons.injEq] at h
  obtain ⟨hsecond, h⟩ := zeroPadded_append_inj (by decide) (by omega) (by omega) h.2
  obtain ⟨hmicro, hoffset⟩ := htail h
  cases m
  cases n
  cases hdate
  cases hhour
  cases hminute
  cases hsecond
  cases hmicro
  cases hoffset
  rfl

end Moment

end Firewall
