import Firewall.Proofs.Number.Proper
import Firewall.Proofs.Text.Digits
import Mathlib.Data.List.TakeWhile

/-!
# Texts of floating point numbers

However a decimal is laid out, its value can be read back (`readDecimal_decimal`). As the shortest
decimal tells the number, so does the text of a number in its proper form (`text_inj`).
-/

namespace Firewall

open Text

theorem Text.dropZeros_append (ds : List Char) :
    ∃ n, ds = dropZeros ds ++ List.replicate n '0' := by
  have hsplit := List.takeWhile_append_dropWhile (p := (· == '0')) (l := ds.reverse)
  have hzeros : ds.reverse.takeWhile (· == '0') =
      List.replicate (ds.reverse.takeWhile (· == '0')).length '0' :=
    List.eq_replicate_iff.2 ⟨rfl, fun c hc => by simpa using List.mem_takeWhile_imp hc⟩
  refine ⟨(ds.reverse.takeWhile (· == '0')).length, ?_⟩
  have h := congrArg List.reverse hsplit
  rw [List.reverse_append, List.reverse_reverse, hzeros, List.reverse_replicate] at h
  exact h.symm

namespace FloatLayout

/-! ## Reading decimals -/

/-- The exponent that ends a decimal. -/
def readExponent : List Char → ℤ
  | 'e' :: '-' :: ds => -(readDigits ds : ℤ)
  | 'e' :: _ :: ds => readDigits ds
  | _ => 0

def readDecimal (cs : List Char) : ℚ :=
  let (frac, rest) := Number.fraction (cs.dropWhile Char.isDigit)
  (readDigits (cs.takeWhile Char.isDigit ++ frac) : ℚ) *
    (10 : ℚ) ^ (readExponent rest - frac.length)

def AreDigits (cs : List Char) : Prop := ∀ c ∈ cs, c.isDigit = true

/-- The text ends, or goes on with no digit. -/
def StopsDigits (cs : List Char) : Prop := ∀ c ∈ cs.head?, c.isDigit = false

theorem takeWhile_digits {ds rest : List Char} (hds : AreDigits ds) (hrest : StopsDigits rest) :
    (ds ++ rest).takeWhile Char.isDigit = ds ∧ (ds ++ rest).dropWhile Char.isDigit = rest := by
  have hnone : rest.takeWhile Char.isDigit = [] ∧ rest.dropWhile Char.isDigit = rest := by
    cases rest with
    | nil => exact ⟨rfl, rfl⟩
    | cons c rest => simp [hrest c rfl]
  rw [List.takeWhile_append_of_pos hds, List.dropWhile_append_of_pos hds, hnone.1, hnone.2,
    List.append_nil]
  exact ⟨rfl, rfl⟩

theorem readDecimal_point {whole frac rest : List Char} (hwhole : AreDigits whole)
    (hfrac : AreDigits frac) (hrest : StopsDigits rest) :
    readDecimal (whole ++ '.' :: (frac ++ rest)) =
      (readDigits (whole ++ frac) : ℚ) * (10 : ℚ) ^ (readExponent rest - frac.length) := by
  have hstop : StopsDigits ('.' :: (frac ++ rest)) := by
    intro c hc
    cases hc
    decide
  obtain ⟨htake, hdrop⟩ := takeWhile_digits hwhole hstop
  obtain ⟨htake', hdrop'⟩ := takeWhile_digits hfrac hrest
  rw [readDecimal, htake, hdrop, Number.fraction]
  dsimp only
  rw [htake', hdrop']

theorem readDecimal_whole {whole rest : List Char} (hwhole : AreDigits whole) :
    readDecimal (whole ++ 'e' :: rest) =
      (readDigits whole : ℚ) * (10 : ℚ) ^ readExponent ('e' :: rest) := by
  have hstop : StopsDigits ('e' :: rest) := by
    intro c hc
    cases hc
    decide
  obtain ⟨htake, hdrop⟩ := takeWhile_digits hwhole hstop
  rw [readDecimal, htake, hdrop, Number.fraction]
  · simp
  · simp

/-! ## The value of a layout -/

theorem areDigits_toDigits (n : ℕ) : AreDigits (Nat.toDigits 10 n) :=
  fun _ => isDigit_of_mem_toDigits

theorem areDigits_replicate_zero (n : ℕ) : AreDigits (List.replicate n '0') := by
  intro c hc
  rw [List.eq_of_mem_replicate hc]
  decide

theorem areDigits_zero : AreDigits ['0'] := areDigits_replicate_zero 1

theorem readExponent_eq (w : ℕ) (top : ℤ) :
    readExponent ('e' :: (if top < 0 then '-' else '+') :: (zeroPadded w top.natAbs).toList) =
      top := by
  split
  · rw [readExponent, readDigits_zeroPadded]
    omega
  · rw [readExponent, readDigits_zeroPadded]
    · omega
    · decide

theorem toList_decimal_of_exponent {f : FloatLayout} {digits : ℕ} {k : ℤ} {ds : List Char}
    {top : ℤ} (hds : Nat.toDigits 10 digits = ds) (htop : k + ds.length - 1 = top)
    (hbounds : top < f.leastPlain ∨ f.greatestPlain < top) :
    (f.decimal digits k).toList = ds.take 1 ++
      ((if (dropZeros ds.tail).isEmpty then [] else '.' :: dropZeros ds.tail) ++
        'e' :: (if top < 0 then '-' else '+') ::
          (zeroPadded f.exponentWidth top.natAbs).toList) := by
  unfold decimal
  dsimp only
  rw [hds, htop, if_pos hbounds]
  by_cases hneg : top < 0 <;> by_cases htail : (dropZeros ds.tail).isEmpty = true <;>
    simp [hneg, htail]

theorem toList_decimal_of_small {f : FloatLayout} {digits : ℕ} {k : ℤ} {ds : List Char}
    {top : ℤ} (hds : Nat.toDigits 10 digits = ds) (htop : k + ds.length - 1 = top)
    (hbounds : ¬ (top < f.leastPlain ∨ f.greatestPlain < top)) (hneg : top < 0) :
    (f.decimal digits k).toList =
      ['0'] ++ '.' :: ((List.replicate (-top - 1).toNat '0' ++ ds) ++ []) := by
  unfold decimal
  dsimp only
  rw [hds, htop, if_neg hbounds, if_pos hneg]
  simp

theorem toList_decimal_of_plain {f : FloatLayout} {digits : ℕ} {k : ℤ} {ds : List Char}
    {top : ℤ} (hds : Nat.toDigits 10 digits = ds) (htop : k + ds.length - 1 = top)
    (hbounds : ¬ (top < f.leastPlain ∨ f.greatestPlain < top)) (hneg : ¬ top < 0) :
    (f.decimal digits k).toList =
      (ds.take (top + 1).toNat ++ List.replicate ((top + 1).toNat - ds.length) '0') ++
        '.' :: ((if (dropZeros (ds.drop (top + 1).toNat)).isEmpty then ['0']
          else dropZeros (ds.drop (top + 1).toNat)) ++ []) := by
  unfold decimal
  dsimp only
  rw [hds, htop, if_neg hbounds, if_neg hneg]
  by_cases hfrac : (dropZeros (ds.drop (top + 1).toNat)).isEmpty = true <;> simp [hfrac]

/-- Zeros behind digits move the point. -/
theorem readDigits_append_zeros (ds : List Char) (n : ℕ) :
    readDigits (ds ++ List.replicate n '0') = readDigits ds * 10 ^ n := by
  rw [readDigits_append, List.length_replicate, readDigits_replicate_zero, Nat.add_zero]

theorem readExponent_nil : readExponent [] = 0 := rfl

theorem stopsDigits_nil : StopsDigits [] := nofun

/-- A power of ten that digits have in them and one that stands for them. -/
theorem ten_pow_mul (n : ℕ) (j : ℤ) : (10 : ℚ) ^ n * (10 : ℚ) ^ j = (10 : ℚ) ^ (j + n) := by
  rw [zpow_add₀ (by norm_num), zpow_natCast, mul_comm]

section Layouts

variable {f : FloatLayout} {digits : ℕ} {k : ℤ} {ds : List Char} {top : ℤ}

theorem areDigits_of_toDigits (hds : Nat.toDigits 10 digits = ds) {cs : List Char}
    (h : ∀ c ∈ cs, c ∈ ds) : AreDigits cs :=
  fun c hc => areDigits_toDigits digits c (hds ▸ h c hc)

theorem areDigits_append {cs es : List Char} (hcs : AreDigits cs) (hes : AreDigits es) :
    AreDigits (cs ++ es) := fun c hc => (List.mem_append.1 hc).elim (hcs c) (hes c)

/-- With an exponent the first digit stands alone, and zeros behind the others are left out. -/
theorem readDecimal_of_exponent (hds : Nat.toDigits 10 digits = ds)
    (htop : k + ds.length - 1 = top) (hbounds : top < f.leastPlain ∨ f.greatestPlain < top) :
    readDecimal (f.decimal digits k).toList = digits * (10 : ℚ) ^ k := by
  rw [toList_decimal_of_exponent hds htop hbounds]
  obtain ⟨n, hn⟩ := dropZeros_append ds.tail
  have hhead : AreDigits (ds.take 1) := areDigits_of_toDigits hds fun c => List.mem_of_mem_take
  have htail : AreDigits (dropZeros ds.tail) := areDigits_of_toDigits hds fun c hc =>
    List.mem_of_mem_tail (by rw [hn]; exact List.mem_append_left _ hc)
  have hsplit : ds = ds.take 1 ++ dropZeros ds.tail ++ List.replicate n '0' := by
    rw [List.append_assoc, ← hn]
    cases ds <;> rfl
  have hlength : (ds.length : ℤ) = 1 + (dropZeros ds.tail).length + n := by
    have hpos : 0 < ds.length := List.length_pos_of_ne_nil (hds ▸ Nat.toDigits_ne_nil)
    have h := congrArg List.length hsplit
    rw [List.length_append, List.length_append, List.length_replicate, List.length_take] at h
    omega
  have hvalue : (readDigits (ds.take 1 ++ dropZeros ds.tail) : ℚ) * 10 ^ n = digits := by
    have h := readDigits_toDigits digits
    rw [hds, hsplit, readDigits_append_zeros] at h
    exact_mod_cast h
  by_cases hempty : (dropZeros ds.tail).isEmpty = true
  · have hnil : dropZeros ds.tail = [] := List.isEmpty_iff.1 hempty
    rw [hnil, List.append_nil] at hvalue
    rw [hnil, List.length_nil] at hlength
    rw [if_pos hempty, List.nil_append, readDecimal_whole hhead, readExponent_eq, ← hvalue,
      mul_assoc, ten_pow_mul]
    congr 2
    omega
  · have hstop : StopsDigits ('e' :: (if top < 0 then '-' else '+') ::
        (zeroPadded f.exponentWidth top.natAbs).toList) := by
      intro c hc
      cases hc
      decide
    rw [if_neg hempty, List.cons_append, readDecimal_point hhead htail hstop, readExponent_eq,
      ← hvalue, mul_assoc, ten_pow_mul]
    congr 2
    omega

/-- A number below one has zeros in front of its digits. -/
theorem readDecimal_of_small (hds : Nat.toDigits 10 digits = ds)
    (htop : k + ds.length - 1 = top) (hbounds : ¬ (top < f.leastPlain ∨ f.greatestPlain < top))
    (hneg : top < 0) : readDecimal (f.decimal digits k).toList = digits * (10 : ℚ) ^ k := by
  have hread : readDigits ds = digits := hds ▸ readDigits_toDigits digits
  have hfrac : AreDigits (List.replicate (-top - 1).toNat '0' ++ ds) :=
    areDigits_append (areDigits_replicate_zero _) (hds ▸ areDigits_toDigits digits)
  have hzeros : readDigits (['0'] ++ List.replicate (-top - 1).toNat '0') = 0 :=
    readDigits_replicate_zero ((-top - 1).toNat + 1)
  rw [toList_decimal_of_small hds htop hbounds hneg,
    readDecimal_point areDigits_zero hfrac stopsDigits_nil, ← List.append_assoc,
    readDigits_append, hread, hzeros, Nat.zero_mul, Nat.zero_add, readExponent_nil,
    List.length_append, List.length_replicate]
  congr 2
  omega

/-- Any other number has digits on both sides of the point, a zero where none are left. -/
theorem readDecimal_of_plain (hds : Nat.toDigits 10 digits = ds)
    (htop : k + ds.length - 1 = top) (hbounds : ¬ (top < f.leastPlain ∨ f.greatestPlain < top))
    (hneg : ¬ top < 0) : readDecimal (f.decimal digits k).toList = digits * (10 : ℚ) ^ k := by
  have hread : readDigits ds = digits := hds ▸ readDigits_toDigits digits
  rw [toList_decimal_of_plain hds htop hbounds hneg]
  obtain ⟨whole, hwhole⟩ : ∃ whole, (top + 1).toNat = whole := ⟨_, rfl⟩
  rw [hwhole]
  obtain ⟨n, hn⟩ := dropZeros_append (ds.drop whole)
  obtain ⟨frac, hfrac⟩ : ∃ frac, dropZeros (ds.drop whole) = frac := ⟨_, rfl⟩
  obtain ⟨ints, hints⟩ :
      ∃ ints, ds.take whole ++ List.replicate (whole - ds.length) '0' = ints := ⟨_, rfl⟩
  rw [hfrac] at hn ⊢
  have hintdigits : AreDigits ints := hints ▸ areDigits_append
    (areDigits_of_toDigits hds fun c => List.mem_of_mem_take) (areDigits_replicate_zero _)
  have hfracdigits : AreDigits frac := areDigits_of_toDigits hds fun c hc =>
    List.mem_of_mem_drop (by rw [hn]; exact List.mem_append_left _ hc)
  -- the zeros that are added in front of the point and those that are left out behind it
  have hsplit : ds ++ List.replicate (whole - ds.length) '0' =
      ints ++ frac ++ List.replicate n '0' := by
    rw [List.append_assoc, ← hn, ← hints]
    rcases Nat.le_total ds.length whole with hle | hle
    · rw [List.take_of_length_le hle, List.drop_of_length_le hle, List.append_nil]
    · rw [Nat.sub_eq_zero_of_le hle, List.replicate_zero, List.append_nil, List.append_nil,
        List.take_append_drop]
  have hlength : ds.length + (whole - ds.length) = whole + frac.length + n := by
    have h := congrArg List.length hsplit
    have hl := congrArg List.length hints
    rw [List.length_append, List.length_append, List.length_append, List.length_replicate,
      List.length_replicate] at h
    rw [List.length_append, List.length_take, List.length_replicate] at hl
    omega
  have hvalue : (digits : ℚ) * 10 ^ (whole - ds.length) = readDigits (ints ++ frac) * 10 ^ n := by
    have h := congrArg readDigits hsplit
    rw [readDigits_append_zeros, readDigits_append_zeros, hread] at h
    exact_mod_cast h
  have hshown : readDecimal (ints ++ '.' :: ((if frac.isEmpty then ['0'] else frac) ++ [])) =
      readDigits (ints ++ frac) * (10 : ℚ) ^ (-(frac.length : ℤ)) := by
    by_cases hempty : frac.isEmpty = true
    · have hone : readDigits (ints ++ ['0']) = readDigits ints * 10 ^ 1 :=
        readDigits_append_zeros ints 1
      rw [if_pos hempty, readDecimal_point hintdigits areDigits_zero stopsDigits_nil,
        List.isEmpty_iff.1 hempty, hone, List.append_nil, Nat.cast_mul, mul_assoc, Nat.cast_pow,
        Nat.cast_ofNat, ten_pow_mul, readExponent_nil]
      simp
    · rw [if_neg hempty, readDecimal_point hintdigits hfracdigits stopsDigits_nil,
        readExponent_nil, zero_sub]
  rw [hints, hshown]
  have hten : ((10 : ℚ) ^ n) ≠ 0 := by positivity
  refine mul_right_cancel₀ hten ?_
  rw [mul_right_comm, ← hvalue, mul_assoc, mul_assoc, ten_pow_mul,
    mul_comm ((10 : ℚ) ^ k) _, ten_pow_mul]
  congr 2
  omega

end Layouts

/-- The value of a decimal is that of its digits and its power of ten. -/
theorem readDecimal_decimal (f : FloatLayout) (digits : ℕ) (k : ℤ) :
    readDecimal (f.decimal digits k).toList = digits * (10 : ℚ) ^ k := by
  obtain ⟨ds, hds⟩ : ∃ ds, Nat.toDigits 10 digits = ds := ⟨_, rfl⟩
  obtain ⟨top, htop⟩ : ∃ top : ℤ, k + ds.length - 1 = top := ⟨_, rfl⟩
  by_cases hbounds : top < f.leastPlain ∨ f.greatestPlain < top
  · exact readDecimal_of_exponent hds htop hbounds
  · by_cases hneg : top < 0
    · exact readDecimal_of_small hds htop hbounds hneg
    · exact readDecimal_of_plain hds htop hbounds hneg

/-! ## Texts -/

/-- The text of a positive number: a digit, then digits and marks, with a point or an exponent. -/
structure IsDecimalText (cs : List Char) : Prop where
  head : ∃ c ∈ cs.head?, c.isDigit = true
  chars : ∀ c ∈ cs, c.isDigit = true ∨ c ∈ ['.', 'e', '+', '-']
  mark : '.' ∈ cs ∨ 'e' ∈ cs

theorem isDecimalText_point {whole frac : List Char} (hne : whole ≠ []) (hwhole : AreDigits whole)
    (hfrac : AreDigits frac) : IsDecimalText (whole ++ '.' :: (frac ++ [])) where
  head := by
    cases whole with
    | nil => exact absurd rfl hne
    | cons c whole => exact ⟨c, rfl, hwhole c List.mem_cons_self⟩
  chars c hc := by
    rw [List.append_nil, List.mem_append, List.mem_cons] at hc
    rcases hc with hc | rfl | hc
    · exact .inl (hwhole c hc)
    · exact .inr (by decide)
    · exact .inl (hfrac c hc)
  mark := .inl (by simp)

theorem isDecimalText_exponent {whole frac ds : List Char} {sign : Char} (hne : whole ≠ [])
    (hwhole : AreDigits whole) (hfrac : ∀ c ∈ frac, c.isDigit = true ∨ c = '.')
    (hsign : sign = '-' ∨ sign = '+') (hds : AreDigits ds) :
    IsDecimalText (whole ++ (frac ++ 'e' :: sign :: ds)) where
  head := by
    cases whole with
    | nil => exact absurd rfl hne
    | cons c whole => exact ⟨c, rfl, hwhole c List.mem_cons_self⟩
  chars c hc := by
    rw [List.mem_append, List.mem_append, List.mem_cons, List.mem_cons] at hc
    rcases hc with hc | hc | rfl | rfl | hc
    · exact .inl (hwhole c hc)
    · exact (hfrac c hc).imp_right fun h => by rw [h]; decide
    · exact .inr (by decide)
    · exact .inr (by rcases hsign with rfl | rfl <;> decide)
    · exact .inl (hds c hc)
  mark := .inr (by simp)

theorem isDecimalText_decimal (f : FloatLayout) (digits : ℕ) (k : ℤ) :
    IsDecimalText (f.decimal digits k).toList := by
  obtain ⟨ds, hds⟩ : ∃ ds, Nat.toDigits 10 digits = ds := ⟨_, rfl⟩
  obtain ⟨top, htop⟩ : ∃ top : ℤ, k + ds.length - 1 = top := ⟨_, rfl⟩
  have hpos : 0 < ds.length := List.length_pos_of_ne_nil (hds ▸ Nat.toDigits_ne_nil)
  have hkept {cs : List Char} (h : ∀ c ∈ cs, c ∈ ds) : AreDigits (dropZeros cs) := by
    obtain ⟨n, hn⟩ := dropZeros_append cs
    exact areDigits_of_toDigits hds fun c hc => h c (by rw [hn]; exact List.mem_append_left _ hc)
  by_cases hbounds : top < f.leastPlain ∨ f.greatestPlain < top
  · rw [toList_decimal_of_exponent hds htop hbounds]
    refine isDecimalText_exponent ?_ (areDigits_of_toDigits hds fun c => List.mem_of_mem_take) ?_ ?_
      fun c => isDigit_of_mem_zeroPadded
    · intro hnil
      have h := congrArg List.length hnil
      rw [List.length_take, List.length_nil] at h
      omega
    · intro c hc
      split at hc
      · cases hc
      · rcases List.mem_cons.1 hc with rfl | hc
        · exact .inr rfl
        · exact .inl (hkept (fun c => List.mem_of_mem_tail) c hc)
    · split
      · exact .inl rfl
      · exact .inr rfl
  · by_cases hneg : top < 0
    · rw [toList_decimal_of_small hds htop hbounds hneg]
      exact isDecimalText_point (by decide) areDigits_zero
        (areDigits_append (areDigits_replicate_zero _) (hds ▸ areDigits_toDigits digits))
    · rw [toList_decimal_of_plain hds htop hbounds hneg]
      refine isDecimalText_point ?_ (areDigits_append
        (areDigits_of_toDigits hds fun c => List.mem_of_mem_take) (areDigits_replicate_zero _)) ?_
      · intro hnil
        have h := congrArg List.length hnil
        rw [List.length_append, List.length_take, List.length_replicate, List.length_nil] at h
        omega
      · split
        · exact areDigits_zero
        · exact hkept fun c => List.mem_of_mem_drop

variable {f : FloatLayout}

/-- The decimal of a finite number without its sign. -/
def digitsOf (m : ℕ) (e : ℤ) : ℕ × ℤ := if m = 0 then (0, 0) else Binary64.shortest m e

theorem toList_text_finite (f : FloatLayout) (s : Bool) (m : ℕ) (e : ℤ) :
    (f.text (.finite s m e)).toList =
      (if s then ['-'] else []) ++ (f.decimal (digitsOf m e).1 (digitsOf m e).2).toList := by
  rw [text, digitsOf]
  cases s <;> simp

theorem digitsOf_inj {m n : ℕ} {e k : ℤ} {s t : Bool} (hm : (Binary64.finite s m e).IsProper)
    (hn : (Binary64.finite t n k).IsProper)
    (h : ((digitsOf m e).1 : ℚ) * (10 : ℚ) ^ (digitsOf m e).2 =
      (digitsOf n k).1 * (10 : ℚ) ^ (digitsOf n k).2) : m = n ∧ e = k := by
  have hzero {n : ℕ} {k : ℤ} (hn : Binary64.IsHeld n k) :
      (0 : ℚ) ≠ (digitsOf n k).1 * (10 : ℚ) ^ (digitsOf n k).2 := by
    rw [digitsOf, if_neg hn.pos.ne']
    exact (Binary64.shortest_pos hn).ne
  have hnone (k : ℤ) : ((digitsOf 0 k).1 : ℚ) * (10 : ℚ) ^ (digitsOf 0 k).2 = 0 := by
    rw [digitsOf, if_pos rfl, Nat.cast_zero, zero_mul]
  rcases hm with ⟨rfl, rfl⟩ | hm <;> rcases hn with ⟨rfl, rfl⟩ | hn
  · exact ⟨rfl, rfl⟩
  · rw [hnone] at h
    exact absurd h (hzero hn)
  · rw [hnone] at h
    exact absurd h.symm (hzero hm)
  · rw [digitsOf, digitsOf, if_neg hm.pos.ne', if_neg hn.pos.ne'] at h
    exact Binary64.eq_of_shortest hm hn h

theorem decimal_ne_minus (f : FloatLayout) (digits : ℕ) (k : ℤ) (rest : List Char) :
    (f.decimal digits k).toList ≠ '-' :: rest := by
  intro h
  obtain ⟨c, hc, hdigit⟩ := (isDecimalText_decimal f digits k).head
  rw [h] at hc
  cases hc
  exact absurd hdigit (by decide)

theorem mem_text_finite {f : FloatLayout} {s : Bool} {m : ℕ} {e : ℤ} {c : Char}
    (h : c ∈ (f.text (.finite s m e)).toList) : c.isDigit = true ∨ c ∈ ['.', 'e', '+', '-'] := by
  rw [toList_text_finite, List.mem_append] at h
  rcases h with h | h
  · cases s
    · cases h
    · rw [List.mem_singleton.1 h]
      exact .inr (by decide)
  · exact (isDecimalText_decimal f _ _).chars c h

theorem mem_text_nan (f : FloatLayout) : 'n' ∈ (f.text .nan).toList := by simp [text]

theorem mem_text_infinity (f : FloatLayout) (s : Bool) : 'n' ∈ (f.text (.infinity s)).toList := by
  cases s <;> simp [text]

/-- Only the names of nan and of infinity have letters other than that of the exponent. -/
theorem text_finite_ne {x : Binary64} (hx : 'n' ∈ (f.text x).toList) (s : Bool) (m : ℕ) (e : ℤ) :
    f.text (.finite s m e) ≠ f.text x := by
  intro h
  rw [← h] at hx
  exact absurd (mem_text_finite hx) (by decide)

/-- Numbers in their proper form are told by their texts. -/
theorem text_inj {x y : Binary64} (hx : x.IsProper) (hy : y.IsProper) (h : f.text x = f.text y) :
    x = y := by
  cases x with
  | nan =>
    cases y with
    | nan => rfl
    | infinity t => cases t <;> simp [text] at h
    | finite t n k => exact absurd h.symm (text_finite_ne (mem_text_nan f) t n k)
  | infinity s =>
    cases y with
    | nan => cases s <;> simp [text] at h
    | infinity t => cases s <;> cases t <;> simp [text] at h ⊢
    | finite t n k => exact absurd h.symm (text_finite_ne (mem_text_infinity f s) t n k)
  | finite s m e =>
    cases y with
    | nan => exact absurd h (text_finite_ne (mem_text_nan f) s m e)
    | infinity t => exact absurd h (text_finite_ne (mem_text_infinity f t) s m e)
    | finite t n k =>
      have hchars := congrArg String.toList h
      rw [toList_text_finite, toList_text_finite] at hchars
      have hsame (h : f.decimal (digitsOf m e).1 (digitsOf m e).2 =
          f.decimal (digitsOf n k).1 (digitsOf n k).2) : m = n ∧ e = k := by
        refine digitsOf_inj hx hy ?_
        rw [← readDecimal_decimal f, ← readDecimal_decimal f, h]
      cases s <;> cases t
      · obtain ⟨rfl, rfl⟩ := hsame (String.toList_inj.1 hchars)
        rfl
      · exact absurd hchars (decimal_ne_minus f _ _ _)
      · exact absurd hchars.symm (decimal_ne_minus f _ _ _)
      · obtain ⟨rfl, rfl⟩ := hsame (String.toList_inj.1 (List.cons.inj hchars).2)
        rfl

end FloatLayout

end Firewall
