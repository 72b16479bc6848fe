import Firewall.Number.Shortest
import Mathlib.Algebra.Order.Field.Power
import Mathlib.Data.Nat.Log
import Mathlib.Tactic.Linarith
import Mathlib.Tactic.Positivity
import Mathlib.Tactic.NormNum
import Mathlib.Tactic.Ring
import Mathlib.Tactic.FieldSimp
import Mathlib.Data.Rat.Cast.Order

/-!
# Shortest decimals tell their numbers

The shortest decimal of a positive number lies in the neighbourhood of the number
(`within_shortest`): one of seventeen grids has a point there, as the last of them is fine enough.
Neighbourhoods of different numbers are disjoint (`eq_of_within`), so the decimal tells the number
(`eq_of_shortest`).
-/

namespace Firewall

/-! ## Ratios -/

theorem scaleRatio_spec {base num den : ℕ} (hbase : 0 < base) (hden : 0 < den) (k : ℤ) :
    0 < (scaleRatio base num den k).2 ∧
      ((scaleRatio base num den k).1 : ℚ) / (scaleRatio base num den k).2 =
        (num : ℚ) / den * (base : ℚ) ^ k := by
  have hpos : (0 : ℚ) < base := by exact_mod_cast hbase
  cases k with
  | ofNat n =>
    refine ⟨hden, ?_⟩
    show (((num * base ^ n : ℕ) : ℚ)) / den = _
    rw [Int.ofNat_eq_natCast, zpow_natCast]
    push_cast
    ring
  | negSucc n =>
    refine ⟨Nat.mul_pos hden (Nat.pow_pos hbase), ?_⟩
    show (num : ℚ) / ((den * base ^ (n + 1) : ℕ) : ℚ) = _
    rw [zpow_negSucc]
    push_cast
    rw [div_mul_eq_div_div]
    rfl

theorem scaleRatio_one {base : ℕ} (hbase : 0 < base) (k : ℤ) :
    0 < (scaleRatio base 1 1 k).2 ∧
      ((scaleRatio base 1 1 k).1 : ℚ) / (scaleRatio base 1 1 k).2 = (base : ℚ) ^ k := by
  obtain ⟨hpos, hratio⟩ := @scaleRatio_spec base 1 1 hbase (by decide) k
  rw [hratio]
  exact ⟨hpos, by simp⟩

theorem scaleRatio_ten (k : ℤ) :
    0 < (scaleRatio 10 1 1 k).2 ∧
      ((scaleRatio 10 1 1 k).1 : ℚ) / (scaleRatio 10 1 1 k).2 = (10 : ℚ) ^ k := by
  obtain ⟨hpos, hten⟩ := @scaleRatio_one 10 (by decide) k
  exact ⟨hpos, hten.trans (by rw [Nat.cast_ofNat])⟩

theorem ratio_le_iff {a b c d : ℕ} (hb : 0 < b) (hd : 0 < d) :
    a * d ≤ c * b ↔ (a : ℚ) / b ≤ (c : ℚ) / d := by
  have hb' : (0 : ℚ) < b := by exact_mod_cast hb
  have hd' : (0 : ℚ) < d := by exact_mod_cast hd
  rw [div_le_div_iff₀ hb' hd']
  exact_mod_cast Iff.rfl

theorem ratio_lt_iff {a b c d : ℕ} (hb : 0 < b) (hd : 0 < d) :
    a * d < c * b ↔ (a : ℚ) / b < (c : ℚ) / d := by
  have hb' : (0 : ℚ) < b := by exact_mod_cast hb
  have hd' : (0 : ℚ) < d := by exact_mod_cast hd
  rw [div_lt_div_iff₀ hb' hd']
  exact_mod_cast Iff.rfl

theorem pos_of_ratio_pos {a b : ℕ} (h : (0 : ℚ) < (a : ℚ) / b) : 0 < a := by
  rcases Nat.eq_zero_or_pos a with rfl | ha
  · simp at h
  · exact ha

/-- The rounded quotient is no more than a half away. -/
theorem roundDiv_near (num : ℕ) {den : ℕ} (hden : 0 < den) :
    (roundDiv num den : ℚ) - 1 / 2 ≤ (num : ℚ) / den ∧
      (num : ℚ) / den ≤ (roundDiv num den : ℚ) + 1 / 2 := by
  have hden' : (0 : ℚ) < den := by exact_mod_cast hden
  have hdiv := Nat.div_add_mod num den
  have hmod := Nat.mod_lt num hden
  have hnear : 2 * (roundDiv num den * den) ≤ 2 * num + den ∧
      2 * num ≤ 2 * (roundDiv num den * den) + den := by
    unfold roundDiv
    dsimp only
    have hcomm : num / den * den = den * (num / den) := Nat.mul_comm _ _
    split
    · next hup =>
      have hlow : den ≤ 2 * (num % den) := by omega
      rw [Nat.add_mul, Nat.one_mul]
      omega
    · next hdown =>
      have hhigh : 2 * (num % den) ≤ den := by omega
      omega
  obtain ⟨hlow, hhigh⟩ := hnear
  have hlow' : 2 * ((roundDiv num den : ℚ) * den) ≤ 2 * num + den := by exact_mod_cast hlow
  have hhigh' : 2 * (num : ℚ) ≤ 2 * ((roundDiv num den : ℚ) * den) + den := by
    exact_mod_cast hhigh
  constructor
  · rw [le_div_iff₀ hden']
    linarith
  · rw [div_le_iff₀ hden']
    linarith

namespace Binary64

/-! ## Neighbourhoods -/

/-- The pair is how a positive finite number is held: with all bits of the significand, or with the
least exponent. -/
structure IsHeld (m : ℕ) (e : ℤ) : Prop where
  pos : 0 < m
  lt : m < 2 ^ 53
  least : -1074 ≤ e
  greatest : e ≤ 971
  full : -1074 < e → 2 ^ 52 ≤ m

/-- A quarter of the place value of the last bit. -/
def quarter (e : ℤ) : ℚ := (2 : ℚ) ^ e / 4

theorem quarter_pos (e : ℤ) : 0 < quarter e := by
  have h : (0 : ℚ) < (2 : ℚ) ^ e := zpow_pos (by norm_num) e
  unfold quarter
  linarith

/-- How far a neighbourhood reaches down, in quarters. -/
def reach (m : ℕ) (e : ℤ) : ℕ := if m = 2 ^ 52 ∧ -1074 < e then 1 else 2

theorem reach_le (m : ℕ) (e : ℤ) : reach m e ≤ 2 := by
  unfold reach
  split <;> decide

/-- The rational is in the neighbourhood of `m · 2 ^ e`; the ends belong when `m` is even. -/
structure Within (m : ℕ) (e : ℤ) (x : ℚ) : Prop where
  lower : (4 * m - reach m e : ℕ) * quarter e ≤ x
  upper : x ≤ (4 * m + 2 : ℕ) * quarter e
  inside : m % 2 = 1 → (4 * m - reach m e : ℕ) * quarter e < x ∧ x < (4 * m + 2 : ℕ) * quarter e

theorem neighbourhood_spec (m : ℕ) (e : ℤ) :
    0 < (neighbourhood m e).den ∧
      ((neighbourhood m e).lower : ℚ) / (neighbourhood m e).den =
        (4 * m - reach m e : ℕ) * quarter e ∧
      ((neighbourhood m e).value : ℚ) / (neighbourhood m e).den = (4 * m : ℕ) * quarter e ∧
      ((neighbourhood m e).upper : ℚ) / (neighbourhood m e).den = (4 * m + 2 : ℕ) * quarter e ∧
      ((neighbourhood m e).closed = true ↔ m % 2 = 0) := by
  obtain ⟨hden, hratio⟩ := @scaleRatio_spec 2 1 4 (by decide) (by decide) e
  have hquarter : ((scaleRatio 2 1 4 e).1 : ℚ) / (scaleRatio 2 1 4 e).2 = quarter e := by
    rw [hratio, quarter]
    push_cast
    ring
  have hscale (n : ℕ) : ((n * (scaleRatio 2 1 4 e).1 : ℕ) : ℚ) / (scaleRatio 2 1 4 e).2 =
      n * quarter e := by
    rw [← hquarter, Nat.cast_mul, mul_div_assoc]
  exact ⟨hden, hscale _, hscale _, hscale _, by simp [neighbourhood]⟩

theorem holds_iff {m : ℕ} {e : ℤ} {num den : ℕ} (hden : 0 < den) :
    (neighbourhood m e).holds num den = true ↔ Within m e ((num : ℚ) / den) := by
  obtain ⟨hpos, hlower, -, hupper, hclosed⟩ := neighbourhood_spec m e
  unfold Neighbourhood.holds
  split
  · next hc =>
    have heven := hclosed.1 hc
    rw [Bool.and_eq_true, decide_eq_true_eq, decide_eq_true_eq, ratio_le_iff hpos hden,
      ratio_le_iff hden hpos, hlower, hupper]
    exact ⟨fun h => ⟨h.1, h.2, fun hodd => by omega⟩, fun h => ⟨h.lower, h.upper⟩⟩
  · next hc =>
    have hodd : m % 2 = 1 := by
      have := mt hclosed.2 hc
      omega
    rw [Bool.and_eq_true, decide_eq_true_eq, decide_eq_true_eq, ratio_lt_iff hpos hden,
      ratio_lt_iff hden hpos, hlower, hupper]
    exact ⟨fun h => ⟨h.1.le, h.2.le, fun _ => h⟩, fun h => h.inside hodd⟩

/-! ## Neighbourhoods are disjoint -/

variable {m n : ℕ} {e k : ℤ} {x : ℚ}

/-- A number with the same exponent and a greater significand has another neighbourhood. -/
theorem not_within_of_lt_significand (hm : IsHeld m e) (hn : IsHeld n e) (hlt : m < n)
    (hx : Within m e x) : ¬ Within n e x := by
  intro hy
  have hq := quarter_pos e
  have hreach : reach n e = 2 := by
    unfold reach
    rw [if_neg]
    rintro ⟨rfl, he⟩
    have := hm.full he
    omega
  have hle : 4 * n - reach n e ≤ 4 * m + 2 := by
    have h := le_of_mul_le_mul_right (hy.lower.trans hx.upper) hq
    exact_mod_cast h
  -- the neighbourhoods touch, and one of the two significands is odd
  rcases Nat.mod_two_eq_zero_or_one m with heven | hodd
  · have hnodd : n % 2 = 1 := by omega
    have h := lt_of_mul_lt_mul_right ((hy.inside hnodd).1.trans_le hx.upper) hq.le
    have h' : 4 * n - reach n e < 4 * m + 2 := by exact_mod_cast h
    omega
  · have h := lt_of_mul_lt_mul_right (hy.lower.trans_lt (hx.inside hodd).2) hq.le
    have h' : 4 * n - reach n e < 4 * m + 2 := by exact_mod_cast h
    omega

theorem not_within_of_lt_exponent (hm : IsHeld m e) (hn : IsHeld n k) (hlt : e < k)
    (hx : Within m e x) : ¬ Within n k x := by
  intro hy
  have hq := quarter_pos e
  have hfull : 2 ^ 52 ≤ n := hn.full (lt_of_le_of_lt hm.least hlt)
  have hquarters : 2 * quarter e ≤ quarter k := by
    have hpow : (2 : ℚ) ^ (e + 1) ≤ (2 : ℚ) ^ k := zpow_le_zpow_right₀ (by norm_num) hlt
    rw [zpow_add_one₀ (by norm_num)] at hpow
    unfold quarter
    linarith
  have hlow : (2 ^ 54 - 1 : ℕ) * quarter k ≤ x := by
    refine le_trans (mul_le_mul_of_nonneg_right ?_ (quarter_pos k).le) hy.lower
    have hreach : 2 ^ 54 - 1 ≤ 4 * n - reach n k := by
      unfold reach
      split
      · omega
      · next hne =>
        have : n ≠ 2 ^ 52 := fun h => hne ⟨h, lt_of_le_of_lt hm.least hlt⟩
        omega
    exact_mod_cast hreach
  have htop : (4 * m + 2 : ℕ) ≤ 2 * (2 ^ 54 - 1) := by
    have := hm.lt
    omega
  have hchain : (2 * (2 ^ 54 - 1) : ℕ) * quarter e ≤ x := by
    have hcast : ((2 * (2 ^ 54 - 1) : ℕ) : ℚ) * quarter e =
        (2 ^ 54 - 1 : ℕ) * (2 * quarter e) := by
      rw [Nat.cast_mul]
      push_cast
      ring
    rw [hcast]
    exact (mul_le_mul_of_nonneg_left hquarters (Nat.cast_nonneg _)).trans hlow
  have hle : 2 * (2 ^ 54 - 1) ≤ 4 * m + 2 := by
    have h := le_of_mul_le_mul_right (hchain.trans hx.upper) hq
    exact_mod_cast h
  -- only the greatest significand reaches up to the next exponent, and it is odd
  have hodd : m % 2 = 1 := by omega
  have h := lt_of_mul_lt_mul_right (hchain.trans_lt (hx.inside hodd).2) hq.le
  have h' : 2 * (2 ^ 54 - 1) < 4 * m + 2 := by exact_mod_cast h
  omega

/-- A rational is in the neighbourhood of one number at most. -/
theorem eq_of_within (hm : IsHeld m e) (hn : IsHeld n k) (hx : Within m e x)
    (hy : Within n k x) : m = n ∧ e = k := by
  rcases lt_trichotomy e k with hlt | rfl | hlt
  · exact absurd hy (not_within_of_lt_exponent hm hn hlt hx)
  · rcases lt_trichotomy m n with hlt | rfl | hlt
    · exact absurd hy (not_within_of_lt_significand hm hn hlt hx)
    · exact ⟨rfl, rfl⟩
    · exact absurd hx (not_within_of_lt_significand hn hm hlt hy)
  · exact absurd hx (not_within_of_lt_exponent hn hm hlt hy)

/-! ## Logarithms -/

theorem floorLog2_spec {num den : ℕ} (hnum : 0 < num) (hden : 0 < den) :
    (2 : ℚ) ^ floorLog2 num den ≤ (num : ℚ) / den ∧
      (num : ℚ) / den < (2 : ℚ) ^ (floorLog2 num den + 1) := by
  have hden' : (0 : ℚ) < den := by exact_mod_cast hden
  have hnumlow : (2 : ℚ) ^ (num.log2 : ℤ) ≤ num := by
    rw [zpow_natCast]
    exact_mod_cast Nat.log2_self_le hnum.ne'
  have hnumtop : (num : ℚ) < (2 : ℚ) ^ ((num.log2 : ℤ) + 1) := by
    rw [← Nat.cast_succ, zpow_natCast]
    exact_mod_cast Nat.lt_log2_self
  have hdenlow : (2 : ℚ) ^ (den.log2 : ℤ) ≤ den := by
    rw [zpow_natCast]
    exact_mod_cast Nat.log2_self_le hden.ne'
  have hdentop : (den : ℚ) < (2 : ℚ) ^ ((den.log2 : ℤ) + 1) := by
    rw [← Nat.cast_succ, zpow_natCast]
    exact_mod_cast Nat.lt_log2_self
  obtain ⟨hpos, hpow⟩ := @scaleRatio_one 2 (by decide) ((num.log2 : ℤ) - den.log2)
  -- the logarithms of both parts give the quotient up to a factor of two on either side
  have hlow : (2 : ℚ) ^ ((num.log2 : ℤ) - den.log2 - 1) ≤ (num : ℚ) / den := by
    rw [le_div_iff₀ hden']
    calc (2 : ℚ) ^ ((num.log2 : ℤ) - den.log2 - 1) * den
        ≤ (2 : ℚ) ^ ((num.log2 : ℤ) - den.log2 - 1) * (2 : ℚ) ^ ((den.log2 : ℤ) + 1) :=
          mul_le_mul_of_nonneg_left hdentop.le (zpow_nonneg (by norm_num) _)
      _ = (2 : ℚ) ^ (num.log2 : ℤ) := by
          rw [← zpow_add₀ (by norm_num)]
          congr 1
          omega
      _ ≤ num := hnumlow
  have htop : (num : ℚ) / den < (2 : ℚ) ^ ((num.log2 : ℤ) - den.log2 + 1) := by
    rw [div_lt_iff₀ hden']
    calc (num : ℚ) < (2 : ℚ) ^ ((num.log2 : ℤ) + 1) := hnumtop
      _ = (2 : ℚ) ^ ((num.log2 : ℤ) - den.log2 + 1) * (2 : ℚ) ^ (den.log2 : ℤ) := by
          rw [← zpow_add₀ (by norm_num)]
          congr 1
          omega
      _ ≤ (2 : ℚ) ^ ((num.log2 : ℤ) - den.log2 + 1) * den :=
          mul_le_mul_of_nonneg_left hdenlow (zpow_nonneg (by norm_num) _)
  unfold floorLog2
  dsimp only
  split
  · next hfits =>
    rw [ratio_le_iff hpos hden, hpow] at hfits
    exact ⟨hfits, htop⟩
  · next hfits =>
    rw [ratio_le_iff hpos hden, hpow] at hfits
    refine ⟨hlow, ?_⟩
    rw [sub_add_cancel]
    exact not_le.1 hfits

/-- Powers of ten and of two compare as the exponents do that a multiple of each has. -/
theorem ten_zpow_le_of_mul_le {j k : ℤ} {p q : ℕ} (hq : q ≠ 0) (hj : j * q ≤ p * k)
    (hk : ((10 : ℚ) ^ p) ^ k ≤ ((2 : ℚ) ^ q) ^ k) : (10 : ℚ) ^ j ≤ (2 : ℚ) ^ k := by
  refine (pow_le_pow_iff_left₀ (zpow_nonneg (by norm_num) j) (zpow_nonneg (by norm_num) k) hq).1 ?_
  calc ((10 : ℚ) ^ j) ^ q = (10 : ℚ) ^ (j * q) := by rw [zpow_mul, zpow_natCast]
    _ ≤ (10 : ℚ) ^ ((p : ℤ) * k) := zpow_le_zpow_right₀ (by norm_num) hj
    _ = ((10 : ℚ) ^ p) ^ k := by rw [zpow_mul, zpow_natCast]
    _ ≤ ((2 : ℚ) ^ q) ^ k := hk
    _ = ((2 : ℚ) ^ k) ^ q := by rw [← zpow_natCast, ← zpow_natCast, zpow_comm]

/-- A decimal logarithm estimated from a binary one is at most one too great. -/
theorem ten_zpow_le {k : ℤ} (hlow : -1100 ≤ k) (htop : k < 1100) :
    (10 : ℚ) ^ (k * 30103 / 100000 - 1) ≤ (2 : ℚ) ^ k := by
  -- the logarithm of two is a little more than 31 / 103 and a little less than 16 / 53
  obtain hk | hk := le_or_gt 0 k
  · refine @ten_zpow_le_of_mul_le _ k 31 103 (by decide) (by omega) ?_
    exact zpow_le_zpow_left₀ hk (by norm_num) (by norm_num)
  · refine @ten_zpow_le_of_mul_le _ k 16 53 (by decide) (by omega) ?_
    have hpow : ((2 : ℚ) ^ 53) ^ (-k) ≤ ((10 : ℚ) ^ 16) ^ (-k) :=
      zpow_le_zpow_left₀ (by omega) (by norm_num) (by norm_num)
    rw [zpow_neg, zpow_neg] at hpow
    exact (inv_le_inv₀ (zpow_pos (by norm_num) k) (zpow_pos (by norm_num) k)).1 hpow

theorem floorLog10_le {num den : ℕ} (hnum : 0 < num) (hden : 0 < den)
    (hlow : (2 : ℚ) ^ (-1074 : ℤ) ≤ (num : ℚ) / den)
    (htop : (num : ℚ) / den < (2 : ℚ) ^ (1024 : ℤ)) :
    (10 : ℚ) ^ floorLog10 num den ≤ (num : ℚ) / den := by
  obtain ⟨hle, hlt⟩ := floorLog2_spec hnum hden
  have hfloor : floorLog2 num den < 1024 := by
    exact (zpow_lt_zpow_iff_right₀ (by norm_num)).1 (hle.trans_lt htop)
  have hfloor' : -1074 < floorLog2 num den + 1 := by
    exact (zpow_lt_zpow_iff_right₀ (by norm_num)).1 (hlow.trans_lt hlt)
  have hfits (k : ℤ) (h : (scaleRatio 10 1 1 k).1 * den ≤ num * (scaleRatio 10 1 1 k).2) :
      (10 : ℚ) ^ k ≤ (num : ℚ) / den := by
    obtain ⟨hpos, hten⟩ := scaleRatio_ten k
    rwa [ratio_le_iff hpos hden, hten] at h
  unfold floorLog10
  dsimp only
  split
  · next h => exact hfits _ (of_decide_eq_true h)
  · split
    · next h => exact hfits _ (of_decide_eq_true h)
    · exact (ten_zpow_le (by omega) (by omega)).trans hle

/-! ## Grids -/

/-- A point that is found on a grid is in the neighbourhood. -/
theorem within_of_onGrid? {j : ℤ} {d : ℕ} (h : onGrid? (neighbourhood m e) j = some d) :
    Within m e (d * (10 : ℚ) ^ j) := by
  obtain ⟨hpos, hten⟩ := scaleRatio_ten j
  have hholds (d : ℕ) (h : (neighbourhood m e).holds (d * (scaleRatio 10 1 1 j).1)
      (scaleRatio 10 1 1 j).2 = true) : Within m e (d * (10 : ℚ) ^ j) := by
    rw [holds_iff hpos, Nat.cast_mul, mul_div_assoc, hten] at h
    exact_mod_cast h
  unfold onGrid? at h
  dsimp only at h
  generalize (if roundDiv _ _ = _ then _ else _) = other at h
  split at h
  · next hnear =>
    cases h
    exact hholds _ hnear
  · split at h
    · next hother =>
      cases h
      exact hholds _ hother
    · cases h

/-- A positive number is not far from the next point of a fine grid. -/
theorem within_of_near {y : ℚ} (hm : IsHeld m e)
    (hlow : y - (4 * m : ℕ) * quarter e / (2 * 10 ^ 16) ≤ (4 * m : ℕ) * quarter e)
    (htop : (4 * m : ℕ) * quarter e ≤ y + (4 * m : ℕ) * quarter e / (2 * 10 ^ 16)) :
    Within m e y := by
  have hq := quarter_pos e
  have hlt : ((4 * m : ℕ) : ℚ) < 2 ^ 55 := by
    have := hm.lt
    exact_mod_cast (show 4 * m < 2 ^ 55 by omega)
  have hsum : ((4 * m - reach m e : ℕ) : ℚ) + reach m e = (4 * m : ℕ) := by
    have := reach_le m e
    have := hm.pos
    exact_mod_cast (show 4 * m - reach m e + reach m e = 4 * m by omega)
  -- the distance is less than what the neighbourhood reaches down, which is less than upwards
  have hreach : ((4 * m : ℕ) : ℚ) * quarter e / (2 * 10 ^ 16) < reach m e * quarter e := by
    rw [div_lt_iff₀ (by norm_num), mul_right_comm]
    refine mul_lt_mul_of_pos_right ?_ hq
    unfold reach
    split
    · next h =>
      rw [h.1]
      norm_num
    · refine hlt.trans ?_
      norm_num
  have hreach' : (reach m e : ℚ) * quarter e ≤ 2 * quarter e := by
    refine mul_le_mul_of_nonneg_right ?_ hq.le
    exact_mod_cast reach_le m e
  have hlower : ((4 * m - reach m e : ℕ) : ℚ) * quarter e < y := by
    have hsplit : ((4 * m - reach m e : ℕ) : ℚ) * quarter e =
        (4 * m : ℕ) * quarter e - reach m e * quarter e := by
      rw [← hsum]
      ring
    rw [hsplit]
    linarith
  have hupper : y < ((4 * m + 2 : ℕ) : ℚ) * quarter e := by
    have hsplit : ((4 * m + 2 : ℕ) : ℚ) * quarter e = (4 * m : ℕ) * quarter e + 2 * quarter e := by
      push_cast
      ring
    rw [hsplit]
    linarith
  exact ⟨hlower.le, hupper.le, fun _ => ⟨hlower, hupper⟩⟩

/-- A grid that is finer than the number by sixteen digits has a point in the neighbourhood. -/
theorem onGrid?_ne_none {j : ℤ} (hm : IsHeld m e)
    (hj : (10 : ℚ) ^ (j + 16) ≤ (4 * m : ℕ) * quarter e) :
    onGrid? (neighbourhood m e) j ≠ none := by
  obtain ⟨hpos, hten⟩ := scaleRatio_ten j
  obtain ⟨hden, -, hvalue, -⟩ := neighbourhood_spec m e
  have hpow : (0 : ℚ) < (10 : ℚ) ^ j := zpow_pos (by norm_num) j
  have htenpos : 0 < (scaleRatio 10 1 1 j).1 := pos_of_ratio_pos (hten ▸ hpow)
  set num := (neighbourhood m e).value * (scaleRatio 10 1 1 j).2 with hnum
  set den := (neighbourhood m e).den * (scaleRatio 10 1 1 j).1 with hdenom
  have hratio : (num : ℚ) / den * (10 : ℚ) ^ j = (4 * m : ℕ) * quarter e := by
    rw [← hvalue, ← hten, hnum, hdenom]
    push_cast
    have h1 : ((neighbourhood m e).den : ℚ) ≠ 0 := by exact_mod_cast hden.ne'
    have h2 : ((scaleRatio 10 1 1 j).1 : ℚ) ≠ 0 := by exact_mod_cast htenpos.ne'
    have h3 : ((scaleRatio 10 1 1 j).2 : ℚ) ≠ 0 := by exact_mod_cast hpos.ne'
    field_simp
  obtain ⟨hlow, htop⟩ := @roundDiv_near num _ (Nat.mul_pos hden htenpos)
  have hstep : (10 : ℚ) ^ j / 2 ≤ (4 * m : ℕ) * quarter e / (2 * 10 ^ 16) := by
    rw [zpow_add₀ (by norm_num)] at hj
    rw [div_le_div_iff₀ (by norm_num) (by norm_num)]
    have h16 : (10 : ℚ) ^ (16 : ℤ) = 10 ^ 16 := by norm_cast
    rw [h16] at hj
    linarith
  have hwithin : Within m e (roundDiv num den * (10 : ℚ) ^ j) := by
    have hlow' := mul_le_mul_of_nonneg_right hlow hpow.le
    have htop' := mul_le_mul_of_nonneg_right htop hpow.le
    rw [hratio, sub_mul] at hlow'
    rw [hratio, add_mul] at htop'
    refine within_of_near hm ?_ ?_
    · linarith
    · linarith
  have hholds : (neighbourhood m e).holds (roundDiv num den * (scaleRatio 10 1 1 j).1)
      (scaleRatio 10 1 1 j).2 = true := by
    rw [holds_iff hpos, Nat.cast_mul, mul_div_assoc, hten]
    exact_mod_cast hwithin
  unfold onGrid?
  dsimp only
  rw [← hnum, ← hdenom, if_pos hholds]
  exact nofun

/-- The first grid with a point in the neighbourhood is found among those that are searched. -/
theorem within_firstGrid {j : ℤ} {count : ℕ}
    (h : onGrid? (neighbourhood m e) (j - count) ≠ none) :
    Within m e ((firstGrid (neighbourhood m e) j (count + 1)).1 *
      (10 : ℚ) ^ (firstGrid (neighbourhood m e) j (count + 1)).2) := by
  induction count generalizing j with
  | zero =>
    rw [Int.natCast_zero, sub_zero] at h
    rw [firstGrid]
    cases hgrid : onGrid? (neighbourhood m e) j with
    | none => exact absurd hgrid h
    | some d => exact within_of_onGrid? hgrid
  | succ count ih =>
    rw [firstGrid]
    cases hgrid : onGrid? (neighbourhood m e) j with
    | some d => exact within_of_onGrid? hgrid
    | none =>
      refine ih ?_
      rwa [show j - 1 - (count : ℤ) = j - ((count + 1 : ℕ) : ℤ) by push_cast; ring]

theorem within_shortest (hm : IsHeld m e) :
    Within m e ((shortest m e).1 * (10 : ℚ) ^ (shortest m e).2) := by
  obtain ⟨hden, -, hvalue, -⟩ := neighbourhood_spec m e
  have hexact : (4 * m : ℕ) * quarter e = m * (2 : ℚ) ^ e := by
    unfold quarter
    push_cast
    ring
  have hone : (1 : ℚ) ≤ m := by exact_mod_cast hm.pos
  have hnum : 0 < (neighbourhood m e).value := by
    refine pos_of_ratio_pos (b := (neighbourhood m e).den) ?_
    rw [hvalue]
    have hmpos := hm.pos
    have hquarter := quarter_pos e
    positivity
  have hlog : (10 : ℚ) ^ floorLog10 (neighbourhood m e).value (neighbourhood m e).den ≤
      (4 * m : ℕ) * quarter e := by
    rw [← hvalue]
    refine floorLog10_le hnum hden ?_ ?_
    · rw [hvalue, hexact]
      calc (2 : ℚ) ^ (-1074 : ℤ) ≤ (2 : ℚ) ^ e := zpow_le_zpow_right₀ (by norm_num) hm.least
        _ ≤ m * (2 : ℚ) ^ e := le_mul_of_one_le_left (zpow_nonneg (by norm_num) e) hone
    · rw [hvalue, hexact]
      calc (m : ℚ) * (2 : ℚ) ^ e < (2 : ℚ) ^ (53 : ℤ) * (2 : ℚ) ^ e :=
            mul_lt_mul_of_pos_right (by exact_mod_cast hm.lt) (zpow_pos (by norm_num) e)
        _ = (2 : ℚ) ^ (53 + e) := (zpow_add₀ (by norm_num) _ _).symm
        _ ≤ (2 : ℚ) ^ (1024 : ℤ) := by
          have hgreatest := hm.greatest
          exact zpow_le_zpow_right₀ (by norm_num) (by omega)
  refine within_firstGrid (onGrid?_ne_none hm ?_)
  rwa [show floorLog10 (neighbourhood m e).value (neighbourhood m e).den - ((16 : ℕ) : ℤ) + 16 =
    floorLog10 (neighbourhood m e).value (neighbourhood m e).den by push_cast; ring]

/-- Numbers whose shortest decimals have the same value are the same. -/
theorem eq_of_shortest (hm : IsHeld m e) (hn : IsHeld n k)
    (h : ((shortest m e).1 : ℚ) * (10 : ℚ) ^ (shortest m e).2 =
      (shortest n k).1 * (10 : ℚ) ^ (shortest n k).2) : m = n ∧ e = k :=
  eq_of_within hm hn (within_shortest hm) (h ▸ within_shortest hn)

theorem shortest_pos (hm : IsHeld m e) :
    0 < ((shortest m e).1 : ℚ) * (10 : ℚ) ^ (shortest m e).2 := by
  have hlower := (within_shortest hm).lower
  have hreach := reach_le m e
  have hpos : (0 : ℚ) < ((4 * m - reach m e : ℕ) : ℚ) := by
    have := hm.pos
    exact_mod_cast (show 0 < 4 * m - reach m e by omega)
  exact (mul_pos hpos (quarter_pos e)).trans_le hlower

end Binary64

end Firewall
