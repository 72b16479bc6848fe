import Firewall.Log
import Mathlib.Data.List.Forall2

/-!
# Computations that log

When a computation that is put together from others has a result, and which.
-/

namespace Firewall.Logged

variable {ε α β : Type}

theorem result_andThen_eq_ok_iff {x : Logged ε α} {f : α → Logged ε β} {b : β} :
    (x.andThen f).result = .ok b ↔ ∃ a, x.result = .ok a ∧ (f a).result = .ok b := by
  unfold andThen
  cases x.result with
  | error e => simp
  | ok a => simp

theorem result_mapList_eq_ok_iff {f : α → Logged ε β} {as : List α} {bs : List β} :
    (mapList f as).result = .ok bs ↔ List.Forall₂ (fun a b => (f a).result = .ok b) as bs := by
  induction as generalizing bs with
  | nil => simp [mapList, eq_comm]
  | cons a rest ih =>
    rw [mapList, result_andThen_eq_ok_iff, List.forall₂_cons_left_iff]
    refine exists_congr fun b => ?_
    rw [result_andThen_eq_ok_iff]
    simp [ih, eq_comm]

theorem result_andThen_eq_error_iff {x : Logged ε α} {f : α → Logged ε β} {e : ε} :
    (x.andThen f).result = .error e ↔
      x.result = .error e ∨ ∃ a, x.result = .ok a ∧ (f a).result = .error e := by
  unfold andThen
  cases x.result with
  | error e => simp
  | ok a => simp

/-- A computation that runs on every member of a list fails as it does on the first member on which
it has no result. -/
theorem result_mapList_eq_error_iff {f : α → Logged ε β} {as : List α} {e : ε} :
    (mapList f as).result = .error e ↔
      ∃ before a after, as = before ++ a :: after ∧ (∀ x ∈ before, ∃ b, (f x).result = .ok b) ∧
        (f a).result = .error e := by
  induction as with
  | nil => simp [mapList]
  | cons a rest ih =>
    simp only [mapList, result_andThen_eq_error_iff, ih, result_ok, reduceCtorEq, and_false,
      exists_false, or_false]
    constructor
    · rintro (h | ⟨b, hb, before, c, after, rfl, hbefore, hc⟩)
      · exact ⟨[], a, rest, rfl, by simp, h⟩
      · exact ⟨a :: before, c, after, rfl, List.forall_mem_cons.2 ⟨⟨b, hb⟩, hbefore⟩, hc⟩
    · rintro ⟨before, c, after, h, hbefore, hc⟩
      obtain ⟨rfl, hh⟩ | ⟨before, rfl, rfl⟩ := List.cons_eq_append_iff.1 h
      · obtain ⟨rfl, rfl⟩ := List.cons.inj hh
        exact .inl hc
      · obtain ⟨⟨b, hb⟩, hbefore⟩ := List.forall_mem_cons.1 hbefore
        exact .inr ⟨b, hb, before, c, after, rfl, hbefore, hc⟩

theorem exists_of_result_mapList_eq_error {f : α → Logged ε β} {as : List α} {e : ε}
    (h : (mapList f as).result = .error e) : ∃ a ∈ as, (f a).result = .error e := by
  obtain ⟨before, a, after, rfl, -, ha⟩ := result_mapList_eq_error_iff.1 h
  exact ⟨a, List.mem_append_right before List.mem_cons_self, ha⟩

/-- It logs nothing if it logs nothing on any member. -/
theorem mapList_eq_ok {f : α → Logged ε β} {as : List α} {bs : List β}
    (h : List.Forall₂ (fun a b => f a = ok b) as bs) : mapList f as = ok bs := by
  induction h with
  | nil => rfl
  | cons hab _ ih => rw [mapList, hab, ok_andThen, ih, ok_andThen]

/-- Two lists are run through one after the other. -/
theorem mapList_append (f : α → Logged ε β) (as bs : List α) :
    mapList f (as ++ bs) =
      (mapList f as).andThen fun xs => (mapList f bs).andThen fun ys => ok (xs ++ ys) := by
  induction as with
  | nil => rw [List.nil_append, mapList, ok_andThen]; exact (andThen_ok _).symm
  | cons a as ih =>
    rw [List.cons_append, mapList, mapList, ih]
    simp only [andThen_assoc, ok_andThen, List.cons_append]

end Firewall.Logged
