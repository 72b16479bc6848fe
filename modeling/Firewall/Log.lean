/-!
# Log

What a run reports on its way: each event has a level, the part of the program that reports it, and
a message. `Logged` is a computation that logs and may fail; what it logs before a failure is kept.
-/

namespace Firewall

/-- How urgent an event is, least urgent first. -/
inductive Level where
  | debug
  | info
  | warning
  deriving DecidableEq, Repr

namespace Level

def name : Level → String
  | .debug => "DEBUG"
  | .info => "INFO"
  | .warning => "WARNING"

def rank : Level → Nat
  | .debug => 0
  | .info => 1
  | .warning => 2

/-- Whether an event of level `l` shows when events from `least` on do. -/
def shows (least l : Level) : Bool := least.rank ≤ l.rank

end Level

structure Record where
  level : Level
  source : String
  message : String
  deriving DecidableEq, Repr

/-- A computation that logs and may fail. -/
structure Logged (ε α : Type) where
  log : List Record
  result : Except ε α

namespace Logged

variable {ε α β : Type}

/-- The computation that returns a value. -/
def ok (a : α) : Logged ε α := ⟨[], .ok a⟩

/-- The computation that fails. -/
def fail (e : ε) : Logged ε α := ⟨[], .error e⟩

def ofExcept (r : Except ε α) : Logged ε α := ⟨[], r⟩

def note (r : Record) : Logged ε Unit := ⟨[r], .ok ()⟩

def notes (rs : List Record) : Logged ε Unit := ⟨rs, .ok ()⟩

/-- Runs one computation after another; the log goes on, and a failure ends it. -/
def andThen (x : Logged ε α) (f : α → Logged ε β) : Logged ε β :=
  match x.result with
  | .ok a => ⟨x.log ++ (f a).log, (f a).result⟩
  | .error e => ⟨x.log, .error e⟩

instance : Monad (Logged ε) where
  pure := ok
  bind := andThen

def mapError {δ : Type} (f : ε → δ) (x : Logged ε α) : Logged δ α := ⟨x.log, x.result.mapError f⟩

/-- Runs a computation on every member of a list, in order, up to the first failure. -/
def mapList (f : α → Logged ε β) : List α → Logged ε (List β)
  | [] => ok []
  | a :: rest => (f a).andThen fun b => (mapList f rest).andThen fun bs => ok (b :: bs)

@[simp] theorem log_ok (a : α) : (ok a : Logged ε α).log = [] := rfl
@[simp] theorem result_ok (a : α) : (ok a : Logged ε α).result = .ok a := rfl
@[simp] theorem log_fail (e : ε) : (fail e : Logged ε α).log = [] := rfl
@[simp] theorem result_fail (e : ε) : (fail e : Logged ε α).result = .error e := rfl

theorem ok_andThen (a : α) (f : α → Logged ε β) : (ok a).andThen f = f a := by
  simp [andThen]

theorem andThen_ok (x : Logged ε α) : x.andThen ok = x := by
  rcases x with ⟨log, _ | _⟩ <;> simp [andThen]

theorem andThen_assoc {γ : Type} (x : Logged ε α) (f : α → Logged ε β) (g : β → Logged ε γ) :
    (x.andThen f).andThen g = x.andThen fun a => (f a).andThen g := by
  rcases x with ⟨log, _ | a⟩
  · rfl
  · rcases h : f a with ⟨log', _ | b⟩ <;> simp [andThen, h]

end Logged

end Firewall
