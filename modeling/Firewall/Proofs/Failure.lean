import Mathlib.Data.List.Forall2

/-!
# Computations that may fail

When a computation that is put together from others has a result, and which; when it fails, and
why. A computation on every member of a list has results that belong to the members one by one.
-/

namespace Firewall

variable {ε δ α β : Type}

theorem bind_eq_ok_iff {x : Except ε α} {f : α → Except ε β} {b : β} :
    x >>= f = .ok b ↔ ∃ a, x = .ok a ∧ f a = .ok b := by
  cases x <;> simp [bind, Except.bind]

/-- One computation after another fails as the first, or as the second run on its result. -/
theorem bind_eq_error_iff {x : Except ε α} {f : α → Except ε β} {e : ε} :
    x >>= f = .error e ↔ x = .error e ∨ ∃ a, x = .ok a ∧ f a = .error e := by
  cases x <;> simp [bind, Except.bind]

theorem bind_eq_error_of_error {x : Except ε α} {f : α → Except ε β} {e : ε}
    (h : x = .error e) : x >>= f = .error e := bind_eq_error_iff.2 (.inl h)

theorem bind_eq_error_of_ok {x : Except ε α} {f : α → Except ε β} {a : α} {e : ε}
    (ha : x = .ok a) (h : f a = .error e) : x >>= f = .error e :=
  bind_eq_error_iff.2 (.inr ⟨a, ha, h⟩)

theorem pure_eq_ok_iff {a b : α} : (pure a : Except ε α) = .ok b ↔ a = b := by
  simp [pure, Except.pure]

theorem mapError_eq_ok_iff {x : Except ε α} {f : ε → δ} {a : α} :
    x.mapError f = .ok a ↔ x = .ok a := by
  cases x <;> simp [Except.mapError]

theorem mapError_eq_error_iff {x : Except ε α} {f : ε → δ} {d : δ} :
    x.mapError f = .error d ↔ ∃ e, x = .error e ∧ f e = d := by
  cases x <;> simp [Except.mapError]

/-! ## Lists that belong together -/

/-- Every member of the second list belongs to one of the first. -/
theorem exists_of_forall₂ {R : α → β → Prop} {as : List α} {bs : List β}
    (h : List.Forall₂ R as bs) {b : β} (hb : b ∈ bs) : ∃ a ∈ as, R a b := by
  induction h with
  | nil => cases hb
  | cons hr _ ih =>
    rcases List.mem_cons.1 hb with rfl | hb
    · exact ⟨_, List.mem_cons_self, hr⟩
    · obtain ⟨a, ha, hr⟩ := ih hb
      exact ⟨a, List.mem_cons_of_mem _ ha, hr⟩

/-- A member of the first list belongs to the one at its place in the second. -/
theorem getElem?_of_forall₂ {R : α → β → Prop} {as : List α} {bs : List β}
    (h : List.Forall₂ R as bs) {i : Nat} {a : α} (ha : as[i]? = some a) :
    ∃ b, bs[i]? = some b ∧ R a b := by
  induction h generalizing i with
  | nil => simp at ha
  | cons hr _ ih =>
    cases i with
    | zero =>
      obtain rfl := Option.some.inj ha
      exact ⟨_, rfl, hr⟩
    | succ i => exact ih ha

/-- What follows for the members that belong together holds of the lists, turned around. -/
theorem forall₂_flip_of_mem {R : α → β → Prop} {S : β → α → Prop} {as : List α}
    {bs : List β} (h : List.Forall₂ R as bs) (hstep : ∀ a ∈ as, ∀ b, R a b → S b a) :
    List.Forall₂ S bs as := by
  induction h with
  | nil => exact .nil
  | cons hr _ ih =>
    obtain ⟨hhead, htail⟩ := List.forall_mem_cons.1 hstep
    exact .cons (hhead _ hr) (ih htail)

/-- A list has an image whose members belong to its members if every one of these has one. -/
theorem exists_forall₂_iff {R : α → β → Prop} {as : List α} :
    (∃ bs, List.Forall₂ R as bs) ↔ ∀ a ∈ as, ∃ b, R a b := by
  induction as with
  | nil => simp
  | cons a as ih =>
    simp only [List.forall₂_cons_left_iff, List.forall_mem_cons, ← ih]
    constructor
    · rintro ⟨-, b, bs, hb, hbs, -⟩
      exact ⟨⟨b, hb⟩, bs, hbs⟩
    · rintro ⟨⟨b, hb⟩, bs, hbs⟩
      exact ⟨b :: bs, b, bs, hb, hbs, rfl⟩

theorem map_eq_map_of_forall₂ {γ : Type} {R : α → β → Prop} {f : α → γ} {g : β → γ}
    {as : List α} {bs : List β} (h : List.Forall₂ R as bs) (hfg : ∀ a b, R a b → f a = g b) :
    as.map f = bs.map g := by
  induction h with
  | nil => rfl
  | cons hr _ ih => rw [List.map_cons, List.map_cons, hfg _ _ hr, ih]

/-! ## Faults -/

/-- `E` is true of every fault that the computation can have. -/
def FailsOnly (E : ε → Prop) (x : Except ε α) : Prop := ∀ e, x = .error e → E e

/-- `Q` is true of the result of the computation, or else `E` of its fault. -/
def Gives (E : ε → Prop) (Q : α → Prop) (x : Except ε α) : Prop :=
  match x with
  | .ok a => Q a
  | .error e => E e

namespace Gives

variable {E : ε → Prop} {Q Q' : α → Prop} {R : β → Prop}

protected theorem ok {a : α} (h : Q a) : Gives E Q (.ok a : Except ε α) := h

protected theorem error {e : ε} (h : E e) : Gives E Q (.error e : Except ε α) := h

protected theorem bind {x : Except ε α} {f : α → Except ε β} (hx : Gives E Q x)
    (hf : ∀ a, Q a → Gives E R (f a)) : Gives E R (x >>= f) := by
  cases x with
  | error e => exact hx
  | ok a => exact hf a hx

protected theorem map {x : Except ε α} {f : α → β} (hx : Gives E Q x) (hf : ∀ a, Q a → R (f a)) :
    Gives E R (x.map f) := by
  cases x with
  | error e => exact hx
  | ok a => exact hf a hx

theorem imp {E' : ε → Prop} {x : Except ε α} (h : Gives E Q x) (hE : ∀ e, E e → E' e)
    (hQ : ∀ a, Q a → Q' a) : Gives E' Q' x := by
  cases x with
  | error e => exact hE e h
  | ok a => exact hQ a h

protected theorem ite {c : Prop} [Decidable c] {x y : Except ε α} (hx : c → Gives E Q x)
    (hy : ¬ c → Gives E Q y) : Gives E Q (if c then x else y) := by
  split
  · next h => exact hx h
  · next h => exact hy h

/-- A computation that goes on unless a check fails. -/
theorem check {c : Prop} [Decidable c] {e : ε} {f : PUnit → Except ε β} (he : c → E e)
    (hf : Gives E R (f ())) : Gives E R (if c then throw e >>= f else f ()) :=
  .ite he fun _ => hf

theorem of_eq_ok {x : Except ε α} (h : Gives E Q x) {a : α} (ha : x = .ok a) : Q a := by
  rwa [ha] at h

theorem of_eq_error {x : Except ε α} (h : Gives E Q x) {e : ε} (he : x = .error e) : E e := by
  rwa [he] at h

end Gives

/-! ## Results -/

/-- A result that is looked for among all results is the result. -/
theorem eq_ok_of_mem_toList {x : Except ε α} {a : α} (h : a ∈ x.toOption.toList) : x = .ok a := by
  cases x with
  | error e => cases h
  | ok b =>
    rw [List.mem_singleton.1 h]

theorem ne_ok_of_eq_error {x : Except ε α} {e : ε} (h : x = .error e) (a : α) : x ≠ .ok a := by
  intro ha
  rw [h] at ha
  cases ha

theorem mapM_eq_ok_iff {f : α → Except ε β} {as : List α} {bs : List β} :
    as.mapM f = .ok bs ↔ List.Forall₂ (fun a b => f a = .ok b) as bs := by
  induction as generalizing bs with
  | nil => rw [List.mapM_nil, pure_eq_ok_iff, List.forall₂_nil_left_iff, eq_comm]
  | cons a as ih =>
    rw [List.mapM_cons, bind_eq_ok_iff, List.forall₂_cons_left_iff]
    refine exists_congr fun b => ?_
    simp only [bind_eq_ok_iff, ih, pure_eq_ok_iff, eq_comm (a := bs), exists_and_left]

theorem exists_of_mapM_eq_error {f : α → Except ε β} {as : List α} {e : ε}
    (h : as.mapM f = .error e) : ∃ a ∈ as, f a = .error e := by
  induction as with
  | nil => cases h
  | cons a as ih =>
    rw [List.mapM_cons, bind_eq_error_iff] at h
    obtain h | ⟨b, -, h⟩ := h
    · exact ⟨a, List.mem_cons_self, h⟩
    · rw [bind_eq_error_iff] at h
      obtain h | ⟨bs, -, h⟩ := h
      · obtain ⟨c, hc, h⟩ := ih h
        exact ⟨c, List.mem_cons_of_mem a hc, h⟩
      · cases h

theorem mapM_eq_some_iff {f : α → Option β} {as : List α} {bs : List β} :
    as.mapM f = some bs ↔ List.Forall₂ (fun a b => f a = some b) as bs := by
  induction as generalizing bs with
  | nil => simp [eq_comm]
  | cons a as ih =>
    rw [List.mapM_cons, List.forall₂_cons_left_iff]
    simp only [Option.bind_eq_bind, Option.bind_eq_some_iff, Option.pure_def, Option.some.injEq, ih,
      eq_comm (a := bs), exists_and_left]

theorem exists_of_mapM_eq_none {f : α → Option β} {as : List α} (h : as.mapM f = none) :
    ∃ a ∈ as, f a = none := by
  induction as with
  | nil => cases h
  | cons a as ih =>
    rw [List.mapM_cons] at h
    cases ha : f a with
    | none => exact ⟨a, List.mem_cons_self, ha⟩
    | some b =>
      cases has : as.mapM f with
      | none =>
        obtain ⟨c, hc, h⟩ := ih has
        exact ⟨c, List.mem_cons_of_mem a hc, h⟩
      | some bs =>
        rw [ha, has] at h
        cases h

end Firewall
