import Firewall.Number.Read
import Firewall.Proofs.Number.Shortest

/-!
# Numbers in their proper form

A number has one proper form: nan, an infinity, a zero with the least exponent, or a significand
that has all its bits unless the exponent is the least. Rounding gives numbers in this form
(`isProper_ofRatio`), so whatever computes or reads a number does.
-/

namespace Firewall.Binary64

def IsProper : Binary64 → Prop
  | .nan | .infinity _ => True
  | .finite _ m e => (m = 0 ∧ e = -1074) ∨ IsHeld m e

theorem isProper_zero (s : Bool) : (zero s).IsProper := .inl ⟨rfl, rfl⟩

/-- A quotient between two numbers is rounded to a number between them. -/
theorem roundDiv_le {num den a : ℕ} (hden : 0 < den) (h : (num : ℚ) / den < a) :
    roundDiv num den ≤ a := by
  have hlow := (roundDiv_near num hden).1
  have hlt : (roundDiv num den : ℚ) < a + 1 := by linarith
  have hlt' : roundDiv num den < a + 1 := by exact_mod_cast hlt
  omega

theorem le_roundDiv {num den a : ℕ} (hden : 0 < den) (h : (a : ℚ) ≤ (num : ℚ) / den) :
    a ≤ roundDiv num den := by
  have htop := (roundDiv_near num hden).2
  have hlt : (a : ℚ) < roundDiv num den + 1 := by linarith
  have hlt' : a < roundDiv num den + 1 := by exact_mod_cast hlt
  omega

theorem isProper_ofRatio (s : Bool) (num : ℕ) {den : ℕ} (hden : 0 < den) :
    (ofRatio s num den).IsProper := by
  by_cases hnum : num = 0
  · rw [ofRatio, if_pos hnum]
    exact isProper_zero s
  obtain ⟨hle, hlt⟩ := floorLog2_spec (Nat.pos_of_ne_zero hnum) hden
  rw [ofRatio, if_neg hnum]
  dsimp only
  generalize hexp : max (floorLog2 num den - 52) leastExponent = e
  have hleast : -1074 ≤ e := by
    have := le_max_right (floorLog2 num den - 52) leastExponent
    rw [hexp] at this
    exact this
  obtain ⟨hpos, hratio⟩ := @scaleRatio_spec 2 num den (by decide) hden (-e)
  have hscaled : ((scaleRatio 2 num den (-e)).1 : ℚ) / (scaleRatio 2 num den (-e)).2 =
      (num : ℚ) / den * (2 : ℚ) ^ (-e) := by
    rw [hratio, Nat.cast_ofNat]
  have hpow : (0 : ℚ) < (2 : ℚ) ^ (-e) := zpow_pos (by norm_num) (-e)
  -- scaled by the exponent, the ratio has all bits of a significand and no more
  have htop : ((scaleRatio 2 num den (-e)).1 : ℚ) / (scaleRatio 2 num den (-e)).2 <
      ((2 ^ 53 : ℕ) : ℚ) := by
    rw [hscaled]
    calc (num : ℚ) / den * (2 : ℚ) ^ (-e)
        < (2 : ℚ) ^ (floorLog2 num den + 1) * (2 : ℚ) ^ (-e) := mul_lt_mul_of_pos_right hlt hpow
      _ = (2 : ℚ) ^ (floorLog2 num den + 1 - e) := by
          rw [← zpow_add₀ (by norm_num), ← sub_eq_add_neg]
      _ ≤ (2 : ℚ) ^ (53 : ℤ) := by
          refine zpow_le_zpow_right₀ (by norm_num) ?_
          have := le_max_left (floorLog2 num den - 52) leastExponent
          omega
      _ = ((2 ^ 53 : ℕ) : ℚ) := by norm_num
  have hfull : -1074 < e → ((2 ^ 52 : ℕ) : ℚ) ≤
      ((scaleRatio 2 num den (-e)).1 : ℚ) / (scaleRatio 2 num den (-e)).2 := by
    intro he
    have hlog : floorLog2 num den = e + 52 := by
      rcases max_choice (floorLog2 num den - 52) leastExponent with h | h
      · omega
      · rw [hexp] at h
        exact absurd he (by rw [h]; decide)
    rw [hscaled]
    calc ((2 ^ 52 : ℕ) : ℚ) = (2 : ℚ) ^ (52 : ℤ) := by norm_num
      _ = (2 : ℚ) ^ (floorLog2 num den) * (2 : ℚ) ^ (-e) := by
          rw [← zpow_add₀ (by norm_num), hlog]
          congr 1
          omega
      _ ≤ (num : ℚ) / den * (2 : ℚ) ^ (-e) := mul_le_mul_of_nonneg_right hle hpow.le
  have hm := roundDiv_le hpos htop
  have hmfull := fun he => le_roundDiv hpos (hfull he)
  generalize roundDiv (scaleRatio 2 num den (-e)).1 (scaleRatio 2 num den (-e)).2 = m at hm hmfull
  by_cases hcarry : m = Nat.pow 2 precision
  · rw [if_pos hcarry]
    dsimp only
    split
    · trivial
    · next hgreat =>
      refine .inr ⟨by decide, by decide, by omega, ?_, fun _ => by decide⟩
      simpa [greatestExponent] using hgreat
  · rw [if_neg hcarry]
    dsimp only
    split
    · trivial
    · next hgreat =>
      have hgreatest : e ≤ 971 := by simpa [greatestExponent] using hgreat
      have hlt' : m < 2 ^ 53 := lt_of_le_of_ne hm hcarry
      rcases Nat.eq_zero_or_pos m with hz | hz
      · refine .inl ⟨hz, ?_⟩
        by_contra hne
        have := hmfull (by omega)
        omega
      · exact .inr ⟨hz, hlt', hleast, hgreatest, hmfull⟩

theorem isProper_ofDecimal (s : Bool) (digits : ℕ) (k : ℤ) : (ofDecimal s digits k).IsProper := by
  unfold ofDecimal
  split
  · exact isProper_zero s
  · split
    · trivial
    · split
      · exact isProper_zero s
      · exact isProper_ofRatio s _ (scaleRatio_spec (by decide) (by decide) k).1

theorem isProper_neg {x : Binary64} (h : x.IsProper) : x.neg.IsProper := by
  cases x with
  | nan => trivial
  | infinity s => trivial
  | finite s m e => exact h

theorem isProper_add (x y : Binary64) : (x.add y).IsProper := by
  cases x <;> cases y <;> try trivial
  · next s t =>
    show (if s = t then infinity s else nan).IsProper
    split <;> trivial
  · next s m e t n k =>
    unfold add
    dsimp only
    split
    · exact isProper_zero _
    · exact isProper_ofRatio _ _ (scaleRatio_spec (by decide) (by decide) _).1

theorem isProper_of_float? {cs : List Char} {x : Binary64} (h : Number.float? cs = some x) :
    x.IsProper := by
  obtain ⟨cs', -, h⟩ := Option.bind_eq_some_iff.1 h
  dsimp only at h
  split at h
  · cases h
    trivial
  · split at h
    · cases h
      trivial
    · unfold Number.decimal? at h
      dsimp only at h
      split at h
      · cases h
      · obtain ⟨k, -, rfl⟩ := Option.map_eq_some_iff.1 h
        exact isProper_ofDecimal _ _ _

end Firewall.Binary64
