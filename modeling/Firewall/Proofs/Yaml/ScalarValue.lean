import Firewall.Proofs.Failure
import Firewall.Proofs.Number.Proper
import Firewall.Proofs.Value
import Firewall.Yaml.ScalarValue

/-!
# Proper values of scalars

`ScalarValue.isProper_of_ofText`: the text of a scalar means a value in its proper form, whatever
its type. Dates and moments that do not exist are refused, and numbers are rounded to doubles at
every step of reading them.
-/

namespace Firewall.Yaml.ScalarValue

/-! ## Numbers -/

theorem isProper_of_floatPart {cs : List Char} {x : Binary64} (h : floatPart cs = .ok x) :
    x.IsProper := by
  unfold floatPart at h
  split at h
  · next y hy =>
    cases h
    exact Binary64.isProper_of_float? hy
  · cases h

/-- Sums are rounded, so they are proper whatever is added up. -/
theorem isProper_of_sumSixties {ds : List Binary64} {sum x : Binary64} (hsum : sum.IsProper)
    {power : ℕ} (h : sumSixties sum power ds = .ok x) : x.IsProper := by
  induction ds generalizing sum power with
  | nil =>
    cases h
    exact hsum
  | cons d ds ih =>
    rw [sumSixties] at h
    split at h
    · cases h
    · exact ih (Binary64.isProper_add _ _) h

theorem isProper_of_float {s : String} {x : Binary64} (h : float s = .ok x) : x.IsProper := by
  have hsigned (negative : Bool) {y : Binary64} (hy : y.IsProper) :
      (if negative then y.neg else y).IsProper := by
    split
    · exact Binary64.isProper_neg hy
    · exact hy
  simp only [float] at h
  split at h
  · cases h
  split at h
  · cases h
    exact trivial
  split at h
  · cases h
    exact trivial
  split at h
  · obtain ⟨ds, -, h⟩ := bind_eq_ok_iff.1 h
    obtain ⟨sum, hsum, h⟩ := bind_eq_ok_iff.1 h
    cases h
    exact hsigned _ (isProper_of_sumSixties (Binary64.isProper_zero false) hsum)
  · obtain ⟨y, hy, h⟩ := bind_eq_ok_iff.1 h
    cases h
    exact hsigned _ (isProper_of_floatPart hy)

/-! ## All types -/

theorem isProper_of_timestamp {s : String} {v : Value} (h : timestamp s = .ok v) :
    v.IsProper := by
  unfold timestamp at h
  split at h
  · cases h
  · split at h
    · next hdate =>
      cases h
      exact hdate
    · cases h
  · split at h
    · next hmoment =>
      cases h
      exact hmoment
    · cases h

theorem isProper_of_ofText {tag : Tag} {s : String} {v : Value} (h : ofText tag s = .ok v) :
    v.IsProper := by
  have hmap {α : Type} {x : Except ScalarFault α} {f : α → Value}
      (hf : ∀ a, x = .ok a → (f a).IsProper)
      (hx : (x.map f).mapError Fault.scalar = .ok v) : v.IsProper := by
    cases x with
    | error e => cases hx
    | ok a =>
      cases hx
      exact hf a rfl
  unfold ofText at h
  split at h
  case h_1 =>
    cases h
    exact trivial
  case h_2 => exact hmap (f := Value.bool) (fun _ _ => trivial) h
  case h_3 => exact hmap (f := Value.int) (fun _ _ => trivial) h
  case h_4 => exact hmap (f := Value.float) (fun _ hx => isProper_of_float hx) h
  case h_5 => exact isProper_of_timestamp (mapError_eq_ok_iff.1 h)
  case h_6 =>
    split at h
    · cases h
      exact trivial
    · cases h
  case h_7 =>
    cases h
    exact trivial
  case h_8 => cases h

end Firewall.Yaml.ScalarValue
