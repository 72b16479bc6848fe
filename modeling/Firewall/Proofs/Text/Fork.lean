import Mathlib.Data.List.Basic

/-!
# Texts that fork

Two texts fork where they are alike up to a place and then go on with different characters. What
comes behind that place is of no account, so that texts which fork are never one text and its
continuation. Where a text is changed twice, the first of the two places decides
(`ForksAt.trans`).
-/

namespace Firewall.Text

/-- Two texts are alike up to a place where the first goes on with `x` and the second with `y`. -/
def ForksAt (x y : Char) (u v : List Char) : Prop :=
  ∃ front u' v', u = front ++ x :: u' ∧ v = front ++ y :: v'

namespace ForksAt

variable {x y : Char} {u v : List Char}

theorem append_left (h : ForksAt x y u v) (w : List Char) : ForksAt x y (w ++ u) (w ++ v) := by
  obtain ⟨front, u', v', rfl, rfl⟩ := h
  exact ⟨w ++ front, u', v', by simp, by simp⟩

theorem append_right (h : ForksAt x y u v) (w w' : List Char) :
    ForksAt x y (u ++ w) (v ++ w') := by
  obtain ⟨front, u', v', rfl, rfl⟩ := h
  exact ⟨front, u' ++ w, v' ++ w', by simp, by simp⟩

theorem cons (h : ForksAt x y u v) (c : Char) : ForksAt x y (c :: u) (c :: v) :=
  h.append_left [c]

/-- Of two changes, one after the other, the one that comes first in the text decides. -/
theorem trans {y' z : Char} {w : List Char} (h : ForksAt x y u v) (h' : ForksAt y' z v w)
    (hne : y ≠ y') : ForksAt x y u w ∨ ForksAt y' z u w := by
  obtain ⟨a, u', v', rfl, rfl⟩ := h
  obtain ⟨b, v'', w', hv, rfl⟩ := h'
  obtain ⟨c, rfl, hc⟩ | ⟨c, rfl, hc⟩ := List.append_eq_append_iff.1 hv
  · cases c with
    | nil => exact absurd (List.cons.inj hc).1 hne
    | cons d c =>
      obtain ⟨rfl, -⟩ := List.cons.inj hc
      exact .inl ⟨a, u', c ++ z :: w', rfl, by simp⟩
  · cases c with
    | nil => exact absurd (List.cons.inj hc).1.symm hne
    | cons d c =>
      obtain ⟨rfl, -⟩ := List.cons.inj hc
      exact .inr ⟨b, c ++ x :: u', w', by simp, rfl⟩

theorem ne_append (h : ForksAt x y u v) (hne : x ≠ y) (w : List Char) : u ≠ v ++ w := by
  obtain ⟨front, u', v', rfl, rfl⟩ := h
  intro heq
  rw [List.append_assoc, List.append_cancel_left_eq] at heq
  exact hne (List.cons.inj heq).1

end ForksAt

end Firewall.Text
