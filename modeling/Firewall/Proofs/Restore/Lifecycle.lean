import Firewall.Restore

/-!
# The life of a restore process

`session_lived`: however many rulesets a runner hands over, each call tries one process, and the
process and the result depend on that call alone (`run_session`). A process that starts is left
exactly once and as the last thing, and is killed only when its time ran out, in which case it is
drained before it is left (`Lived`).

1. One call adds one process to those that were tried, whatever these are (`run_call`).
2. So calls add theirs in order, by induction over the calls.
-/

namespace Firewall.Restore

/-! ## One call -/

/-- What is asked of a process that behaves so. -/
def Behaviour.requests (text : String) (limit : Option Seconds) : Behaviour → List Request
  | .refuses .. => []
  | .hangs => [.enter, .communicate (some text) limit, .kill, .communicate none none, .exit]
  | .ends .. => [.enter, .communicate (some text) limit, .exit]

namespace Runner

def processOf (r : Runner) (c : Call) : Process :=
  ⟨r.words ++ c.mode.words, c.process.requests c.text r.limit⟩

/-- What a call returns or raises. -/
def resultOf (r : Runner) (program : String) (c : Call) : Except Fault Result :=
  (outcome program r.limit c.process).result

variable {program : String} {rest : List String} {limit : Option Seconds}

/-- A call adds one process to those that were tried. -/
theorem run_call (c : Call) (tried : List Process) :
    (call ⟨program :: rest, limit⟩ c).run tried =
      (resultOf ⟨program :: rest, limit⟩ program c,
        processOf ⟨program :: rest, limit⟩ c :: tried) := by
  rcases c with ⟨mode, text, b⟩
  cases b with
  | refuses cause message => cases cause <;> rfl
  | hangs => rfl
  | ends code out err => rfl

theorem run_session_cons (r : Runner) (c : Call) (calls : List Call) (tried : List Process) :
    (r.session (c :: calls)).run tried =
      (((r.call c).run tried).1 :: ((r.session calls).run ((r.call c).run tried).2).1,
        ((r.session calls).run ((r.call c).run tried).2).2) := by
  rw [session, List.mapM_cons]
  rfl

/-- Calls add their processes in order, and each returns what it returns on its own. -/
theorem run_session (calls : List Call) (tried : List Process) :
    (session ⟨program :: rest, limit⟩ calls).run tried =
      (calls.map (resultOf ⟨program :: rest, limit⟩ program),
        (calls.map (processOf ⟨program :: rest, limit⟩)).reverse ++ tried) := by
  induction calls generalizing tried with
  | nil => rfl
  | cons c calls ih =>
    rw [run_session_cons, run_call, ih, List.map_cons, List.map_cons, List.reverse_cons,
      List.append_assoc]
    rfl

/-- The account of a run is that of its one call. -/
theorem attempt_eq (c : Call) :
    (attempt ⟨program :: rest, limit⟩ c.mode c.text c.process).trace =
        (processOf ⟨program :: rest, limit⟩ c).trace ∧
      (attempt ⟨program :: rest, limit⟩ c.mode c.text c.process).outcome.result =
        resultOf ⟨program :: rest, limit⟩ program c := by
  rcases c with ⟨mode, text, b⟩
  cases b with
  | refuses cause message => cases cause <;> exact ⟨rfl, rfl⟩
  | hangs => exact ⟨rfl, rfl⟩
  | ends code out err => exact ⟨rfl, rfl⟩

end Runner

/-! ## The life of a process -/

namespace Behaviour

variable {b : Behaviour} {text : String} {limit : Option Seconds}

/-- A process that is entered is left once, and nothing is asked of it afterwards. -/
theorem left_once (h : .enter ∈ b.requests text limit) :
    (b.requests text limit).count .exit = 1 ∧
      (b.requests text limit).getLast? = some .exit := by
  cases b with
  | refuses => cases h
  | hangs => exact ⟨rfl, rfl⟩
  | ends => exact ⟨rfl, rfl⟩

/-- A process is killed only after its time ran out, and then drained and left. -/
theorem killed_between {before after : List Request}
    (h : b.requests text limit = before ++ .kill :: after) :
    b = .hangs ∧ before = [.enter, .communicate (some text) limit] ∧
      after = [.communicate none none, .exit] := by
  have hmem : .kill ∈ b.requests text limit := h ▸ List.mem_append_right _ List.mem_cons_self
  cases b with
  | refuses => cases hmem
  | ends => simp [requests] at hmem
  | hangs =>
    -- the request to end is the third of five, and the only one of its kind
    rcases before with _ | ⟨a, _ | ⟨b, _ | ⟨c, before⟩⟩⟩
    · simp [requests] at h
    · simp [requests] at h
    · simp only [requests, List.cons_append, List.nil_append, List.cons.injEq, true_and] at h
      obtain ⟨rfl, rfl, rfl⟩ := h
      exact ⟨rfl, rfl, rfl⟩
    · simp only [requests, List.cons_append, List.cons.injEq] at h
      have hlate : .kill ∈ [Request.communicate none none, .exit] := by
        rw [h.2.2.2]
        exact List.mem_append_right _ List.mem_cons_self
      simp at hlate

end Behaviour

/-- A process and what came of it, as they belong to a call: the words, what was asked of the
process, and which result or fault there is. -/
structure Lived (r : Runner) (program : String) (c : Call) (p : Process)
    (x : Except Fault Result) : Prop where
  words : p.words = match c.mode with
    | .apply => r.words
    | .verify => r.words ++ ["--test"]
  of_refuses : ∀ cause message, c.process = .refuses cause message → p.requests = []
  of_ends : ∀ code out err, c.process = .ends code out err →
    p.requests = [.enter, .communicate (some c.text) r.limit, .exit]
  of_hangs : c.process = .hangs → p.requests =
    [.enter, .communicate (some c.text) r.limit, .kill, .communicate none none, .exit]
  left_once : .enter ∈ p.requests →
    p.requests.count .exit = 1 ∧ p.requests.getLast? = some .exit
  killed_between : ∀ before after, p.requests = before ++ .kill :: after →
    c.process = .hangs ∧ before = [.enter, .communicate (some c.text) r.limit] ∧
      after = [.communicate none none, .exit]
  result : ∀ res, x = .ok res ↔ c.process = .ends res.code res.stdout res.stderr
  timedOut : ∀ name limit, x = .error (.timedOut name limit) ↔
    c.process = .hangs ∧ name = program ∧ limit = r.limit
  unavailable : ∀ name message, x = .error (.unavailable name message) ↔
    (c.process = .refuses .notFound message ∨ c.process = .refuses .notPermitted message) ∧
      name = program
  notStarted : ∀ message, x = .error (.notStarted message) ↔ c.process = .refuses .other message
  started : x ≠ .error .noProgram

namespace Runner

variable (r : Runner) (program : String) (c : Call)

theorem lived : Lived r program c (r.processOf c) (r.resultOf program c) where
  words := by
    cases hm : c.mode <;> simp [processOf, hm, Mode.words]
  of_refuses cause message h := by rw [processOf, h, Behaviour.requests]
  of_ends code out err h := by rw [processOf, h, Behaviour.requests]
  of_hangs h := by rw [processOf, h, Behaviour.requests]
  left_once := Behaviour.left_once
  killed_between _ _ := Behaviour.killed_between
  result := by
    rintro ⟨code, out, err⟩
    rw [resultOf]
    rcases c.process with ⟨_ | _ | _, message⟩ | _ | ⟨code', out', err'⟩ <;> simp [outcome]
  timedOut name limit := by
    rw [resultOf]
    rcases c.process with ⟨_ | _ | _, message⟩ | _ | ⟨code, out, err⟩ <;>
      simp [outcome, eq_comm]
  unavailable name message := by
    rw [resultOf]
    rcases c.process with ⟨_ | _ | _, message⟩ | _ | ⟨code, out, err⟩ <;>
      simp [outcome, eq_comm, and_comm]
  notStarted message := by
    rw [resultOf]
    rcases c.process with ⟨_ | _ | _, message⟩ | _ | ⟨code, out, err⟩ <;> simp [outcome]
  started := by
    rw [resultOf]
    rcases c.process with ⟨_ | _ | _, message⟩ | _ | ⟨code, out, err⟩ <;> simp [outcome]

end Runner

/-- **The life of restore processes.** However many calls a runner makes, and whatever processes
were tried before, each call tries one process, and the process and the result are functions of that
call alone, the same as when it is the only one. -/
theorem session_lived (program : String) (rest : List String) (limit : Option Seconds) :
    let r : Runner := ⟨program :: rest, limit⟩
    ∃ (process : Call → Process) (result : Call → Except Fault Result),
      (∀ calls tried, (r.session calls).run tried =
        (calls.map result, (calls.map process).reverse ++ tried)) ∧
      (∀ c, (r.attempt c.mode c.text c.process).trace = (process c).trace ∧
        (r.attempt c.mode c.text c.process).outcome.result = result c) ∧
      ∀ c, Lived r program c (process c) (result c) := by
  intro r
  exact ⟨r.processOf, r.resultOf program, Runner.run_session, Runner.attempt_eq,
    Runner.lived r program⟩

end Firewall.Restore
