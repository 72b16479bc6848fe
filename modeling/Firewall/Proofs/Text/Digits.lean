import Firewall.Text.Digit
import Mathlib.Data.Nat.Digits.Defs

/-!
# Numbers read back from their digits

The texts of natural numbers and of integers determine them. So do digits with zeros in front, and
where numbers of a fixed width follow each other the text can be cut between them
(`zeroPadded_append_inj`).
-/

namespace Firewall.Text

def readDigits (cs : List Char) : Nat := Nat.ofDigitChars 10 cs 0

theorem readDigits_toDigits (n : Nat) : readDigits (Nat.toDigits 10 n) = n :=
  Nat.ofDigitChars_ten_toDigits

theorem toDigits_inj {m n : Nat} (h : Nat.toDigits 10 m = Nat.toDigits 10 n) : m = n := by
  have hread := congrArg readDigits h
  rwa [readDigits_toDigits, readDigits_toDigits] at hread

theorem readDigits_append (cs ds : List Char) :
    readDigits (cs ++ ds) = readDigits cs * 10 ^ ds.length + readDigits ds := by
  rw [readDigits, Nat.ofDigitChars_append, Nat.ofDigitChars_eq_ofDigitChars_zero, readDigits,
    readDigits, Nat.mul_comm]

theorem readDigits_replicate_zero (n : Nat) : readDigits (List.replicate n '0') = 0 := by
  rw [readDigits, Nat.ofDigitChars_replicate_zero, Nat.mul_zero]

theorem isDigit_of_mem_toDigits {n : Nat} {c : Char} (h : c ∈ Nat.toDigits 10 n) :
    c.isDigit = true :=
  Nat.isDigit_of_mem_toDigits (by decide) (by decide) h

/-! ## Decimal texts -/

@[simp] theorem toList_decimal (n : Nat) : (decimal n).toList = Nat.toDigits 10 n := by
  simp [decimal]

theorem toList_signedDecimal (i : Int) :
    (signedDecimal i).toList =
      (if i < 0 then ['-'] else []) ++ Nat.toDigits 10 i.natAbs := by
  cases i with
  | ofNat n =>
    rw [if_neg (by simp)]
    exact toList_decimal n
  | negSucc n =>
    rw [if_pos (Int.negSucc_lt_zero n), signedDecimal, String.toList_append, toList_decimal]
    rfl

theorem head?_toDigits_ne {c : Char} (hc : c.isDigit = false) (n : Nat) :
    (Nat.toDigits 10 n).head? ≠ some c := by
  intro h
  have hdigit := isDigit_of_mem_toDigits (List.mem_of_mem_head? h)
  rw [hc] at hdigit
  cases hdigit

theorem signedDecimal_inj {i j : Int} (h : signedDecimal i = signedDecimal j) : i = j := by
  have hchars := congrArg String.toList h
  rw [toList_signedDecimal, toList_signedDecimal] at hchars
  have hnone := fun n => head?_toDigits_ne (c := '-') (by decide) n
  by_cases hi : i < 0 <;> by_cases hj : j < 0
  · rw [if_pos hi, if_pos hj] at hchars
    have hdigits := toDigits_inj (List.append_cancel_left hchars)
    omega
  · rw [if_pos hi, if_neg hj] at hchars
    exact absurd (congrArg List.head? hchars).symm (hnone j.natAbs)
  · rw [if_neg hi, if_pos hj] at hchars
    exact absurd (congrArg List.head? hchars) (hnone i.natAbs)
  · rw [if_neg hi, if_neg hj] at hchars
    have hdigits := toDigits_inj (List.append_cancel_left hchars)
    omega

/-! ## Numbers of a width -/

theorem toList_zeroPadded (w n : Nat) :
    (zeroPadded w n).toList =
      List.replicate (w - (Nat.toDigits 10 n).length) '0' ++ Nat.toDigits 10 n := by
  simp [zeroPadded]

theorem isDigit_of_mem_zeroPadded {w n : Nat} {c : Char} (h : c ∈ (zeroPadded w n).toList) :
    c.isDigit = true := by
  rw [toList_zeroPadded, List.mem_append] at h
  rcases h with h | h
  · rw [List.eq_of_mem_replicate h]
    decide
  · exact isDigit_of_mem_toDigits h

theorem readDigits_zeroPadded (w n : Nat) : readDigits (zeroPadded w n).toList = n := by
  rw [toList_zeroPadded, readDigits_append, readDigits_replicate_zero, readDigits_toDigits,
    Nat.zero_mul, Nat.zero_add]

theorem zeroPadded_ne_nil (w n : Nat) : (zeroPadded w n).toList ≠ [] := by
  rw [toList_zeroPadded]
  exact List.append_ne_nil_of_right_ne_nil _ Nat.toDigits_ne_nil

/-- A number that is small enough has its width. -/
theorem length_zeroPadded {w n : Nat} (hw : 0 < w) (hn : n < 10 ^ w) :
    (zeroPadded w n).toList.length = w := by
  have hle : (Nat.toDigits 10 n).length ≤ w := Nat.toDigits_length 10 n w hw hn
  rw [toList_zeroPadded, List.length_append, List.length_replicate]
  omega

/-- Behind a number of a width the text can be cut. -/
theorem zeroPadded_append_inj {w m n : Nat} (hw : 0 < w) (hm : m < 10 ^ w) (hn : n < 10 ^ w)
    {s t : List Char} (h : (zeroPadded w m).toList ++ s = (zeroPadded w n).toList ++ t) :
    m = n ∧ s = t := by
  have hlength : (zeroPadded w m).toList.length = (zeroPadded w n).toList.length := by
    rw [length_zeroPadded hw hm, length_zeroPadded hw hn]
  obtain ⟨hdigits, hrest⟩ := List.append_inj h hlength
  refine ⟨?_, hrest⟩
  have hread := congrArg readDigits hdigits
  rwa [readDigits_zeroPadded, readDigits_zeroPadded] at hread

end Firewall.Text
