import Firewall.Proofs.Failure

/-!
# Steps on a state

What a step that changes a state and may fail keeps true of the state, and which faults it can
have. A step is put together from others in the same ways as the monad offers, and for each way
there is a lemma. Where it matters what a step returns, `Yields` says what is true of that too, and
`Leads` what is then true of the state.
-/

namespace Firewall

variable {σ ε α β : Type} {I : σ → Prop} {E : ε → Prop}

/-- The step keeps `I` true of the state, and `E` is true of all its faults. -/
def Safe (I : σ → Prop) (E : ε → Prop) (x : StateT σ (Except ε) α) : Prop :=
  ∀ s, I s → match x s with
    | .ok r => I r.2
    | .error e => E e

namespace Safe

protected theorem pure (a : α) : Safe I E (pure a : StateT σ (Except ε) α) := fun _ hs => hs

protected theorem throw {e : ε} (h : E e) : Safe I E (throw e : StateT σ (Except ε) α) :=
  fun _ _ => h

protected theorem modify {f : σ → σ} (h : ∀ s, I s → I (f s)) :
    Safe I E (modify f : StateT σ (Except ε) PUnit) := h

protected theorem bind {x : StateT σ (Except ε) α} {f : α → StateT σ (Except ε) β} (hx : Safe I E x)
    (hf : ∀ a, Safe I E (f a)) : Safe I E (x >>= f) := by
  intro s hs
  have hstep := hx s hs
  show match (x s).bind (fun r => f r.1 r.2) with
    | .ok r => I r.2
    | .error e => E e
  cases hxs : x s with
  | error e => rwa [hxs] at hstep
  | ok r =>
    rw [hxs] at hstep
    exact hf r.1 r.2 hstep

protected theorem map {x : StateT σ (Except ε) α} (f : α → β) (hx : Safe I E x) :
    Safe I E (f <$> x) := by
  rw [map_eq_pure_bind]
  exact hx.bind fun _ => .pure _

/-- What is read off the state is read off one of which `I` is true. -/
theorem get_bind {f : σ → StateT σ (Except ε) β} (hf : ∀ s, I s → Safe I E (f s)) :
    Safe I E (get >>= f) := fun s hs => hf s hs s hs

theorem modifyGet_bind {g : σ → α × σ} {f : α → StateT σ (Except ε) β}
    (hg : ∀ s, I s → I (g s).2) (hf : ∀ s, I s → Safe I E (f (g s).1)) :
    Safe I E (modifyGet g >>= f) := fun s hs => hf s hs (g s).2 (hg s hs)

theorem lift_bind {x : Except ε α} {f : α → StateT σ (Except ε) β} (hx : FailsOnly E x)
    (hf : ∀ a, x = .ok a → Safe I E (f a)) :
    Safe I E ((liftM x : StateT σ (Except ε) α) >>= f) := by
  cases x with
  | error e => exact fun _ _ => hx e rfl
  | ok a => exact fun s hs => hf a rfl s hs

protected theorem ite {c : Prop} [Decidable c] {x y : StateT σ (Except ε) α} (hx : Safe I E x)
    (hy : Safe I E y) : Safe I E (if c then x else y) := by
  split
  · exact hx
  · exact hy

protected theorem mapM {f : α → StateT σ (Except ε) β} (hf : ∀ a, Safe I E (f a)) (as : List α) :
    Safe I E (as.mapM f) := by
  induction as with
  | nil =>
    rw [List.mapM_nil]
    exact .pure _
  | cons a as ih =>
    rw [List.mapM_cons]
    exact (hf a).bind fun _ => ih.bind fun _ => .pure _

protected theorem forM {f : α → StateT σ (Except ε) PUnit} (hf : ∀ a, Safe I E (f a))
    (as : List α) : Safe I E (as.forM f) := by
  induction as with
  | nil => exact .pure _
  | cons a as ih => exact (hf a).bind fun _ => ih

theorem ok {x : StateT σ (Except ε) α} (h : Safe I E x) {s : σ} {r : α × σ} (hs : I s)
    (hr : x.run s = .ok r) : I r.2 := by
  have hstep := h s hs
  rwa [show x s = .ok r from hr] at hstep

theorem error {x : StateT σ (Except ε) α} (h : Safe I E x) {s : σ} {e : ε} (hs : I s)
    (he : x.run s = .error e) : E e := by
  have hstep := h s hs
  rwa [show x s = .error e from he] at hstep

end Safe

/-! ## Results of steps -/

/-- The step is safe, and `Q` is true of what it returns. -/
def Yields (I : σ → Prop) (E : ε → Prop) (Q : α → Prop) (x : StateT σ (Except ε) α) : Prop :=
  ∀ s, I s → match x s with
    | .ok r => I r.2 ∧ Q r.1
    | .error e => E e

theorem Safe.of_yields {Q : α → Prop} {x : StateT σ (Except ε) α} (h : Yields I E Q x) :
    Safe I E x := by
  intro s hs
  have hstep := h s hs
  cases hx : x s with
  | error e => rwa [hx] at hstep
  | ok r =>
    rw [hx] at hstep
    exact hstep.1

namespace Yields

variable {Q : α → Prop} {R : β → Prop}

theorem of_safe {x : StateT σ (Except ε) α} (h : Safe I E x) :
    Yields I E (fun _ => True) x := by
  intro s hs
  have hstep := h s hs
  cases hx : x s with
  | error e => rwa [hx] at hstep
  | ok r =>
    rw [hx] at hstep
    exact ⟨hstep, trivial⟩

protected theorem pure {a : α} (h : Q a) : Yields I E Q (pure a : StateT σ (Except ε) α) :=
  fun _ hs => ⟨hs, h⟩

protected theorem throw {e : ε} (h : E e) : Yields I E Q (throw e : StateT σ (Except ε) α) :=
  fun _ _ => h

protected theorem bind {x : StateT σ (Except ε) α} {f : α → StateT σ (Except ε) β}
    (hx : Yields I E Q x) (hf : ∀ a, Q a → Yields I E R (f a)) : Yields I E R (x >>= f) := by
  intro s hs
  have hstep := hx s hs
  show match (x s).bind (fun r => f r.1 r.2) with
    | .ok r => I r.2 ∧ R r.1
    | .error e => E e
  cases hxs : x s with
  | error e => rwa [hxs] at hstep
  | ok r =>
    rw [hxs] at hstep
    exact hf r.1 hstep.2 r.2 hstep.1

theorem modify_bind {g : σ → σ} {f : PUnit → StateT σ (Except ε) β} (hg : ∀ s, I s → I (g s))
    (hf : Yields I E R (f ⟨⟩)) : Yields I E R (modify g >>= f) := fun s hs => hf (g s) (hg s hs)

theorem get_bind {f : σ → StateT σ (Except ε) β} (hf : ∀ s, I s → Yields I E R (f s)) :
    Yields I E R (get >>= f) := fun s hs => hf s hs s hs

theorem modifyGet_bind {g : σ → α × σ} {f : α → StateT σ (Except ε) β}
    (hg : ∀ s, I s → I (g s).2) (hf : ∀ s, I s → Yields I E R (f (g s).1)) :
    Yields I E R (modifyGet g >>= f) := fun s hs => hf s hs (g s).2 (hg s hs)

theorem lift_bind {x : Except ε α} {f : α → StateT σ (Except ε) β} (hx : FailsOnly E x)
    (hf : ∀ a, x = .ok a → Yields I E R (f a)) :
    Yields I E R ((liftM x : StateT σ (Except ε) α) >>= f) := by
  cases x with
  | error e => exact fun _ _ => hx e rfl
  | ok a => exact fun s hs => hf a rfl s hs

theorem imp {E' : ε → Prop} {Q' : α → Prop} {x : StateT σ (Except ε) α} (h : Yields I E Q x)
    (hE : ∀ e, E e → E' e) (hQ : ∀ a, Q a → Q' a) : Yields I E' Q' x := by
  intro s hs
  have hstep := h s hs
  cases hx : x s with
  | error e =>
    rw [hx] at hstep
    exact hE e hstep
  | ok r =>
    rw [hx] at hstep
    exact ⟨hstep.1, hQ r.1 hstep.2⟩

protected theorem mapM {f : α → StateT σ (Except ε) β} {as : List α}
    (hf : ∀ a ∈ as, Yields I E R (f a)) : Yields I E (fun bs => ∀ b ∈ bs, R b) (as.mapM f) := by
  induction as with
  | nil =>
    rw [List.mapM_nil]
    exact .pure nofun
  | cons a as ih =>
    obtain ⟨ha, has⟩ := List.forall_mem_cons.1 hf
    rw [List.mapM_cons]
    exact ha.bind fun b hb => (ih has).bind fun bs hbs => .pure (List.forall_mem_cons.2 ⟨hb, hbs⟩)

theorem error {Q : α → Prop} {x : StateT σ (Except ε) α} (h : Yields I E Q x) {s : σ} {e : ε}
    (hs : I s) (he : x.run s = .error e) : E e := (Safe.of_yields h).error hs he

theorem ok {Q : α → Prop} {x : StateT σ (Except ε) α} (h : Yields I E Q x) {s : σ} {r : α × σ}
    (hs : I s) (hr : x.run s = .ok r) : I r.2 ∧ Q r.1 := by
  have hstep := h s hs
  rwa [show x s = .ok r from hr] at hstep

end Yields

/-! ## States after steps -/

/-- From a state of which `P` is true the step leads to a result and a state of which `Q` is true,
or fails with a fault of which `E` is true. -/
def Leads (P : σ → Prop) (E : ε → Prop) (Q : α → σ → Prop) (x : StateT σ (Except ε) α) : Prop :=
  ∀ s, P s → match x s with
    | .ok r => Q r.1 r.2
    | .error e => E e

theorem Safe.leads {x : StateT σ (Except ε) α} (h : Safe I E x) : Leads I E (fun _ => I) x := h

theorem Safe.of_leads {x : StateT σ (Except ε) α} (h : Leads I E (fun _ => I) x) : Safe I E x := h

namespace Leads

variable {P P' : σ → Prop} {Q Q' : α → σ → Prop} {R : β → σ → Prop}

/-- More may be asked of the state before, and less said of the state after. -/
theorem imp {x : StateT σ (Except ε) α} (h : Leads P E Q x) (hP : ∀ s, P' s → P s)
    (hQ : ∀ a s, Q a s → Q' a s) : Leads P' E Q' x := by
  intro s hs
  have hstep := h s (hP s hs)
  cases hx : x s with
  | error e => rwa [hx] at hstep
  | ok r =>
    rw [hx] at hstep
    exact hQ r.1 r.2 hstep

protected theorem pure {a : α} (h : ∀ s, P s → Q a s) :
    Leads P E Q (pure a : StateT σ (Except ε) α) := h

protected theorem throw {e : ε} (h : E e) : Leads P E Q (throw e : StateT σ (Except ε) α) :=
  fun _ _ => h

protected theorem modify {f : σ → σ} {Q : PUnit → σ → Prop} (h : ∀ s, P s → Q ⟨⟩ (f s)) :
    Leads P E Q (modify f : StateT σ (Except ε) PUnit) := h

protected theorem bind {x : StateT σ (Except ε) α} {f : α → StateT σ (Except ε) β}
    (hx : Leads P E Q x) (hf : ∀ a, Leads (Q a) E R (f a)) : Leads P E R (x >>= f) := by
  intro s hs
  have hstep := hx s hs
  show match (x s).bind (fun r => f r.1 r.2) with
    | .ok r => R r.1 r.2
    | .error e => E e
  cases hxs : x s with
  | error e => rwa [hxs] at hstep
  | ok r =>
    rw [hxs] at hstep
    exact hf r.1 r.2 hstep

/-- What is read off the state is read off one of which `P` is true, and that is still the state. -/
theorem get_bind {f : σ → StateT σ (Except ε) β} (hf : ∀ s, P s → Leads (· = s) E R (f s)) :
    Leads P E R (get >>= f) := fun s hs => hf s hs s rfl

/-- The same where the state changes as it is read. -/
theorem modifyGet_bind {g : σ → α × σ} {f : α → StateT σ (Except ε) β}
    (hf : ∀ s, P s → Leads (· = (g s).2) E R (f (g s).1)) : Leads P E R (modifyGet g >>= f) :=
  fun s hs => hf s hs (g s).2 rfl

theorem lift_bind {x : Except ε α} {f : α → StateT σ (Except ε) β} (hx : FailsOnly E x)
    (hf : ∀ a, x = .ok a → Leads P E R (f a)) :
    Leads P E R ((liftM x : StateT σ (Except ε) α) >>= f) := by
  cases x with
  | error e => exact fun _ _ => hx e rfl
  | ok a => exact fun s hs => hf a rfl s hs

protected theorem ite {c : Prop} [Decidable c] {x y : StateT σ (Except ε) α} (hx : Leads P E Q x)
    (hy : Leads P E Q y) : Leads P E Q (if c then x else y) := by
  split
  · exact hx
  · exact hy

theorem ok {x : StateT σ (Except ε) α} (h : Leads P E Q x) {s : σ} {r : α × σ} (hs : P s)
    (hr : x.run s = .ok r) : Q r.1 r.2 := by
  have hstep := h s hs
  rwa [show x s = .ok r from hr] at hstep

theorem error {x : StateT σ (Except ε) α} (h : Leads P E Q x) {s : σ} {e : ε} (hs : P s)
    (he : x.run s = .error e) : E e := by
  have hstep := h s hs
  rwa [show x s = .error e from he] at hstep

end Leads

end Firewall
