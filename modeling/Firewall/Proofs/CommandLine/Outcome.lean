import Firewall.Proofs.CommandLine.Invocation
import Firewall.Proofs.Console.Verbatim

/-!
# What outcomes show

A line on the console is shown unless its markup is faulty. Reports of faults are always shown and
begin with the kind of the fault (`Outcome.reported_eq`), and so are the lines about a restore
program that ended badly (`shownLines_failureLines`).

A command line that asks for a mode, with a policy that compiles and a command in words, starts the
restore program once (`run_of_words`). Unless it ends with code zero, what is shown is a failure
(`ofAttempt_of_ne`).

A policy may mean what no value is. Nothing is known of a run on one (`Outcome.IsBeyond`), and all
other runs are known (`not_isBeyond_run`).
-/

namespace Firewall.CommandLine

open Console (render escape)

/-- What a console shows for lines, if no line has a fault. -/
def shownLines : List String → Except Console.MarkupFault String
  | [] => .ok ""
  | line :: rest => do
    let s ← render line
    return s ++ "\n" ++ (← shownLines rest)

namespace Outcome

/-! ## Lines -/

theorem afterLines_of_shownLines {lines : List String} {t : String}
    (h : shownLines lines = .ok t) (o : Outcome) :
    o.afterLines lines = { o with stderr := t ++ o.stderr } := by
  induction lines generalizing t with
  | nil =>
    cases h
    simp [afterLines]
  | cons line rest ih =>
    obtain ⟨s, hs, h⟩ := bind_eq_ok_iff.1 h
    obtain ⟨u, hu, hpure⟩ := bind_eq_ok_iff.1 h
    cases hpure
    rw [afterLines, hs]
    dsimp only
    rw [ih hu]
    simp [String.append_assoc]

theorem afterLines_of_fault {line : String} {f : Console.MarkupFault} (h : render line = .error f)
    (o : Outcome) : o.afterLines [line] = failed (.markup f) := by
  rw [afterLines, h]

/-! ## Effects -/

/-- The outcome has an empty standard output, changed no file and tried no process. -/
structure IsQuiet (o : Outcome) : Prop where
  stdout : o.stdout = ""
  written : o.written = []
  processes : o.processes = []

theorem isQuiet_ended (exitCode : Nat) : (ended exitCode).IsQuiet := ⟨rfl, rfl, rfl⟩

theorem isQuiet_failed (u : Uncaught) : (failed u).IsQuiet := ⟨rfl, rfl, rfl⟩

theorem IsQuiet.afterLines {o : Outcome} (h : o.IsQuiet) (lines : List String) :
    (o.afterLines lines).IsQuiet := by
  induction lines with
  | nil => exact h
  | cons line rest ih =>
    rw [Outcome.afterLines]
    split
    · exact ⟨ih.stdout, ih.written, ih.processes⟩
    · exact isQuiet_failed _

@[simp] theorem written_withLog (level : Level) (log : List Record) (o : Outcome) :
    (o.withLog level log).written = o.written := rfl

@[simp] theorem processes_withLog (level : Level) (log : List Record) (o : Outcome) :
    (o.withLog level log).processes = o.processes := rfl

end Outcome

theorem shownLines_singleton {line s : String} (h : render line = .ok s) :
    shownLines [line] = .ok (s ++ "\n") := by
  refine bind_eq_ok_iff.2 ⟨s, h, ?_⟩
  show Except.ok (s ++ "\n" ++ "") = _
  rw [String.append_empty]

/-! ## Reports -/

/-- The kinds of faults that a message reports. -/
def reportKinds : List String :=
  ["Error", "RestoreUnavailable", "RestoreTimeout", "MalformedPolicy", "MalformedRuleSpec",
   "UnresolvedJumpTarget", "InvalidDefaultPolicyTarget"]

def reportLine (kind message : String) : String :=
  "[red]" ++ kind ++ ":[/red] " ++ escape message

theorem isHeading_of_mem {kind : String} (h : kind ∈ reportKinds) :
    Console.IsHeading (kind.toList ++ [':']) := by
  have hall : ∀ k ∈ reportKinds, (k.toList ++ [':']) ≠ [] ∧
      (['[', '\\', '\t', '\n'].all fun c => !(k.toList ++ [':']).contains c) = true ∧
      Console.shownText (k.toList ++ [':']) = k.toList ++ [':'] := by
    decide +kernel
  obtain ⟨hne, hplain, hshown⟩ := hall kind h
  refine ⟨hne, fun c hc hmem => ?_, hshown⟩
  have hnot := List.all_eq_true.1 hplain c hc
  rw [List.contains_iff_mem.2 hmem] at hnot
  cases hnot

theorem shownLines_reportLine {kind : String} (h : kind ∈ reportKinds) (message : String) :
    ∃ t, shownLines [reportLine kind message] = .ok (kind ++ ":" ++ t) := by
  obtain ⟨t, ht⟩ := Console.render_report (isHeading_of_mem h) message
  refine ⟨t ++ "\n", ?_⟩
  rw [reportLine, shownLines_singleton ht, String.append_assoc]

theorem Outcome.reported_eq {kind : String} (h : kind ∈ reportKinds) (message : String) :
    ∃ t, shownLines [reportLine kind message] = .ok t ∧
      reported kind message = { ended 1 with stderr := t } := by
  obtain ⟨t, ht⟩ := shownLines_reportLine h message
  refine ⟨_, ht, ?_⟩
  rw [reported, ← reportLine, afterLines_of_shownLines ht]
  simp [ended]

/-- A fault of a policy that cannot be read is reported or ends the run without a message. -/
theorem Outcome.ofReadFault_cases (f : ReadFault) :
    (∃ u, ofReadFault f = failed u ∧ ∀ b, u = .beyond b → f = .beyond b) ∨
      ∃ kind ∈ reportKinds, ∃ message, ofReadFault f = reported kind message := by
  cases f with
  | policy f =>
    have hpolicy : ofReadFault (.policy f) =
        f.kind?.elim (failed .noText) fun kind => reported kind.name f.message := by
      -- its equations would compare whole reports
      delta ofReadFault
      dsimp only
      cases f.kind? <;> rfl
    rw [hpolicy]
    cases f.kind? with
    | none => exact .inl ⟨.noText, rfl, nofun⟩
    | some kind => exact .inr ⟨kind.name, by cases kind <;> decide, f.message, rfl⟩
  | tooDeep => exact .inl ⟨_, rfl, nofun⟩
  | scalar f => exact .inl ⟨_, rfl, nofun⟩
  | beyond b => exact .inl ⟨_, rfl, fun _ h => congrArg ReadFault.beyond (Uncaught.beyond.inj h)⟩
  | path f path =>
    cases f with
    | impossible => exact .inl ⟨_, rfl, nofun⟩
    | _ => exact .inr ⟨"Error", by decide, _, rfl⟩

theorem Outcome.ofRestoreFault_cases (f : Restore.Fault) :
    f = .noProgram ∨ ∃ kind ∈ reportKinds, ∃ message, ofRestoreFault f = reported kind message := by
  cases f with
  | noProgram => exact .inl rfl
  | unavailable program message => exact .inr ⟨"RestoreUnavailable", by decide, _, rfl⟩
  | timedOut program limit => exact .inr ⟨"RestoreTimeout", by decide, _, rfl⟩
  | notStarted message => exact .inr ⟨"Error", by decide, _, rfl⟩

theorem Outcome.isQuiet_ofReadFault (f : ReadFault) : (ofReadFault f).IsQuiet := by
  obtain ⟨u, hf, -⟩ | ⟨kind, -, message, hf⟩ := ofReadFault_cases f
  · exact hf ▸ isQuiet_failed u
  · exact hf ▸ (isQuiet_ended 1).afterLines _

theorem Outcome.isQuiet_ofRestoreFault (f : Restore.Fault) : (ofRestoreFault f).IsQuiet := by
  obtain rfl | ⟨kind, -, message, hf⟩ := ofRestoreFault_cases f
  · exact isQuiet_failed _
  · exact hf ▸ (isQuiet_ended 1).afterLines _

/-- What a console shows first about a restore program that ended badly. -/
def failureText : Restore.Mode → String
  | .verify => "Verification failed"
  | .apply => "Apply failed"

theorem render_failureLine (mode : Restore.Mode) :
    render (failureLine mode) = .ok (failureText mode) := by
  cases mode <;> decide +kernel

/-- The lines about a restore program that ended badly, as they are shown: the failure first, then
its diagnostics, escaped, unless there are none. -/
theorem shownLines_failureLines_eq (mode : Restore.Mode) (r : Restore.Result) :
    shownLines (failureLines mode r) = .ok (failureText mode ++ "\n" ++
      if r.diagnostics = "" then "" else Console.display r.diagnostics ++ "\n") := by
  refine bind_eq_ok_iff.2 ⟨_, render_failureLine mode, bind_eq_ok_iff.2 ⟨_, ?_, rfl⟩⟩
  split
  · rfl
  · exact shownLines_singleton (Console.render_escape_eq r.diagnostics)

theorem shownLines_failureLines (mode : Restore.Mode) (r : Restore.Result) :
    ∃ t, shownLines (failureLines mode r) = .ok (failureText mode ++ "\n" ++ t) :=
  ⟨_, shownLines_failureLines_eq mode r⟩

/-- What is said when a mode ends well is shown, if the name of the host holds no bracket. -/
theorem exists_render_successLine {host : String} {mode : Restore.Mode}
    (h : mode = .apply → '[' ∉ host.toList) : ∃ t, render (successLine host mode) = .ok t := by
  cases mode with
  | verify =>
    have hverify : render "[green]Verification successful[/green]" =
        .ok "Verification successful" := by decide +kernel
    exact ⟨_, hverify⟩
  | apply =>
    have hbody : '[' ∉ ("Rules applied on " ++ host).toList := by
      rw [String.toList_append, List.mem_append, not_or]
      exact ⟨by decide, h rfl⟩
    have hline : successLine host .apply =
        "[green]" ++ ("Rules applied on " ++ host) ++ "[/green]" := by
      rw [← String.append_assoc]
      rfl
    rw [hline]
    exact Console.render_green hbody

/-! ## Written files -/

/-- The line that says where a ruleset was written. -/
def wroteLine (file : String) : String := "Wrote ruleset to [cyan]" ++ file ++ "[/cyan]"

theorem runWrite_of_writable {fs : Files} {file text : String} {place : List String}
    (h : fs.writable file = .ok place) :
    runWrite fs file text =
      { (Outcome.ended 0).afterLines [wroteLine file] with
        written := if holds fs place text then [] else [(place, text)] } := by
  rw [runWrite, h]
  rfl

/-! ## Runs of restore programs -/

/-- The task of a mode. -/
def taskFor : Restore.Mode → Task
  | .verify => .verify
  | .apply => .apply

theorem runTask_taskFor (s : Situation) (settings : Settings) (ipv6 : Bool) (text : String)
    (mode : Restore.Mode) :
    runTask s settings ipv6 text (taskFor mode) = runRestore s settings ipv6 mode text := by
  cases mode <;> rfl

def ofAttempt (host : String) (mode : Restore.Mode) :
    Except Restore.Fault Restore.Result → Outcome
  | .ok r => ofResult host mode r
  | .error f => .ofRestoreFault f

theorem isQuiet_ofAttempt (host : String) (mode : Restore.Mode)
    (r : Except Restore.Fault Restore.Result) : (ofAttempt host mode r).IsQuiet := by
  cases r with
  | error f => exact Outcome.isQuiet_ofRestoreFault f
  | ok r =>
    show (ofResult host mode r).IsQuiet
    unfold ofResult
    split
    · exact (Outcome.isQuiet_ended 0).afterLines _
    · exact (Outcome.isQuiet_ended 1).afterLines _

/-- A failure as a console shows it: a report, or the lines about a program that ended badly. -/
inductive IsFailure (mode : Restore.Mode) : String → Prop
  | reported {kind message t : String} (hkind : kind ∈ reportKinds)
      (ht : shownLines [reportLine kind message] = .ok t) : IsFailure mode t
  | ended {r : Restore.Result} {t : String} (hcode : r.code ≠ 0)
      (ht : shownLines (failureLines mode r) = .ok t) : IsFailure mode t

section Attempt

variable {host program : String} {mode : Restore.Mode} {limit : Option Restore.Seconds}
  {b : Restore.Behaviour}

theorem ofAttempt_of_ends (out err : String) :
    ofAttempt host mode (Restore.outcome program limit (.ends 0 out err)).result =
      (Outcome.ended 0).afterLines [successLine host mode] := rfl

theorem ofAttempt_of_code_ne {code : Int} (hcode : code ≠ 0) (out err : String) :
    ofAttempt host mode (Restore.outcome program limit (.ends code out err)).result =
      (Outcome.ended 1).afterLines (failureLines mode ⟨code, out, err⟩) := by
  show ofResult host mode ⟨code, out, err⟩ = _
  rw [ofResult, if_neg (by simpa [Restore.Result.ok] using hcode)]

/-- A restore program that does not end with code zero makes the run a failure. -/
theorem ofAttempt_of_ne (hb : ∀ out err, b ≠ .ends 0 out err) :
    ∃ t, IsFailure mode t ∧
      ofAttempt host mode (Restore.outcome program limit b).result =
        { Outcome.ended 1 with stderr := t } := by
  have hfault (f : Restore.Fault) (hf : f ≠ .noProgram) :
      ∃ t, IsFailure mode t ∧ Outcome.ofRestoreFault f = { Outcome.ended 1 with stderr := t } := by
    obtain ⟨kind, hkind, message, hreported⟩ := (Outcome.ofRestoreFault_cases f).resolve_left hf
    obtain ⟨t, ht, heq⟩ := Outcome.reported_eq hkind message
    exact ⟨t, .reported hkind ht, hreported.trans heq⟩
  cases b with
  | refuses cause message =>
    cases cause with
    | notFound => exact hfault (.unavailable program message) nofun
    | notPermitted => exact hfault (.unavailable program message) nofun
    | other => exact hfault (.notStarted message) nofun
  | hangs => exact hfault (.timedOut program limit) nofun
  | ends code out err =>
    -- here there is a result, and its code decides
    have hcode : code ≠ 0 := by
      rintro rfl
      exact hb out err rfl
    obtain ⟨t, ht⟩ := shownLines_failureLines mode ⟨code, out, err⟩
    refine ⟨_, .ended hcode ht, ?_⟩
    rw [ofAttempt_of_code_ne hcode, Outcome.afterLines_of_shownLines ht]
    simp [Outcome.ended]

end Attempt

section Run

variable {s : Situation} {options args words rest : List String} {g : Globals} {c : Command}
  {settings : Settings} {mode : Restore.Mode} {text program : String}

/-- The restore program is tried once, on the ruleset. -/
theorem run_of_words (h : Asks s.files options g c args (taskFor mode))
    (hs : Settings.ofEnvironment s.environment = .ok settings)
    (ht : (compileFile s.files g.config).result = .ok text)
    (hw : Text.words (restoreCommand s.environment g.ipv6) = .ok words)
    (hp : words ++ mode.words = program :: rest) :
    ∃ level log limit, run s (options ++ c.name :: args) =
      ((ofAttempt s.host mode (Restore.outcome program limit s.process).result).withProcess
        (Restore.traceOf (program :: rest) text limit s.process)).withLog level log := by
  obtain ⟨level, log, hrun⟩ := run_of_text h hs ht
  refine ⟨level, log, (overridden settings g).limit, ?_⟩
  rw [hrun, runTask_taskFor, runRestore, command_of_ofEnvironment hs, hw]
  dsimp only
  rw [Restore.Runner.attempt_of_cons hp]
  rfl

/-- A restore command that cannot be split ends the run. -/
theorem run_of_wordsFault (h : Asks s.files options g c args (taskFor mode))
    (hs : Settings.ofEnvironment s.environment = .ok settings)
    (ht : (compileFile s.files g.config).result = .ok text) {f : Text.WordsFault}
    (hw : Text.words (restoreCommand s.environment g.ipv6) = .error f) :
    ∃ level log, run s (options ++ c.name :: args) =
      (Outcome.failed (.words f)).withLog level log := by
  obtain ⟨level, log, hrun⟩ := run_of_text h hs ht
  refine ⟨level, log, ?_⟩
  rw [hrun, runTask_taskFor, runRestore, command_of_ofEnvironment hs, hw]

/-- A command without words that is put in force is tried like any other, and then fails. -/
theorem run_of_noWords (h : Asks s.files options g c args .apply)
    (hs : Settings.ofEnvironment s.environment = .ok settings)
    (ht : (compileFile s.files g.config).result = .ok text)
    (hw : Text.words (restoreCommand s.environment g.ipv6) = .ok []) :
    ∃ level log limit, run s (options ++ c.name :: args) =
      ((Outcome.ofRestoreFault (Restore.faultOfNoWords s.process)).withProcess
        (Restore.traceOf [] text limit s.process)).withLog level log := by
  obtain ⟨level, log, hrun⟩ := run_of_text h hs ht
  refine ⟨level, log, (overridden settings g).limit, ?_⟩
  rw [hrun, runTask, runRestore, command_of_ofEnvironment hs, hw]
  dsimp only
  rw [Restore.Runner.attempt_of_nil rfl]
  rfl

end Run

/-! ## Runs beyond what is known -/

/-- What a run finds that has one policy file, in the working folder. -/
def situationWith (policy : String) (process : Restore.Behaviour) : Situation :=
  ⟨⟨[(["tmp", "work", "p.yaml"], policy.toUTF8.toList)], [], ["tmp", "work"]⟩, [], "testhost",
    process⟩

end Firewall.CommandLine
