import Firewall.Proofs.CommandLine.Outcome

/-!
# Failures that no message reports

`uncaught_iff`: on a policy that compiles every run ends with exit code zero, one or two, and what
can go wrong unreported is what `Breaks` lists: the restore command cannot be split or has no words,
or the name of the file or the host makes faulty markup of the line that holds it, as a tag that
closes none, parameters of a handler that are no literal or a colour of no numbers. None of it
happens when the command has words and the names hold no bracket (`not_breaks`).
-/

namespace Firewall.CommandLine

open Console (render)

/-- What goes wrong in a task on a policy that compiles, and is not reported. -/
inductive Breaks (s : Situation) (g : Globals) : Task → Uncaught → Prop
  | verify {f : Text.WordsFault}
      (hw : Text.words (restoreCommand s.environment g.ipv6) = .error f) :
      Breaks s g .verify (.words f)
  | apply {f : Text.WordsFault}
      (hw : Text.words (restoreCommand s.environment g.ipv6) = .error f) :
      Breaks s g .apply (.words f)
  | noProgram (hw : Text.words (restoreCommand s.environment g.ipv6) = .ok [])
      (hp : ∀ message, s.process ≠ .refuses .other message) : Breaks s g .apply .noProgram
  | file {file : String} {place : List String} {f : Console.MarkupFault}
      (hplace : s.files.writable file = .ok place) (hline : render (wroteLine file) = .error f) :
      Breaks s g (.write file) (.markup f)
  | host {word : String} {words : List String} {out err : String} {f : Console.MarkupFault}
      (hw : Text.words (restoreCommand s.environment g.ipv6) = .ok (word :: words))
      (hp : s.process = .ends 0 out err) (hline : render (successLine s.host .apply) = .error f) :
      Breaks s g .apply (.markup f)

/-! ## Ends of runs -/

/-- The exit code is zero, one or two, and the failures that are not reported are those of `B`. -/
structure Ends (o : Outcome) (B : Uncaught → Prop) : Prop where
  exitCode : o.exitCode ≤ 2
  uncaught : ∀ u, o.uncaught = some u ↔ B u

theorem ends_of_none {o : Outcome} {B : Uncaught → Prop} (hcode : o.exitCode ≤ 2)
    (ho : o.uncaught = none) (hB : ∀ u, ¬ B u) : Ends o B :=
  ⟨hcode, fun u => iff_of_false (ho ▸ (Option.some_ne_none u).symm) (hB u)⟩

theorem ends_failed {u : Uncaught} {B : Uncaught → Prop} (hu : B u)
    (hB : ∀ v, B v → v = u) {o : Outcome} (ho : o.exitCode = 1 ∧ o.uncaught = some u) :
    Ends o B := by
  refine ⟨by omega, fun v => ?_⟩
  rw [ho.2, Option.some.injEq]
  constructor
  · rintro rfl
    exact hu
  · exact fun hv => (hB v hv).symm

variable {s : Situation} {options args words : List String} {g : Globals} {c : Command}
  {task : Task} {settings : Settings} {text : String}

/-- Writing breaks only on the line about it. -/
theorem ends_runWrite (file : String) :
    Ends (runWrite s.files file text) (Breaks s g (.write file)) := by
  cases hplace : s.files.writable file with
  | error f =>
    obtain ⟨t, -, hreported⟩ := @Outcome.reported_eq "Error" (by decide) (f.message (tidyPath file))
    rw [runWrite, hplace]
    dsimp only
    rw [hreported]
    refine ends_of_none (Nat.le_succ 1) rfl fun u hu => ?_
    cases hu with
    | file hplace' _ => exact ne_ok_of_eq_error hplace _ hplace'
  | ok place =>
    rw [runWrite_of_writable hplace]
    cases hline : render (wroteLine file) with
    | ok t =>
      rw [Outcome.afterLines_of_shownLines (shownLines_singleton hline)]
      refine ends_of_none (Nat.zero_le 2) rfl fun u hu => ?_
      cases hu with
      | file _ hline' => exact ne_ok_of_eq_error hline' _ hline
    | error f =>
      rw [Outcome.afterLines_of_fault hline]
      refine ends_failed (.file hplace hline) (fun v hv => ?_) ⟨rfl, rfl⟩
      cases hv with
      | file _ hline' => rw [Except.error.inj (hline.symm.trans hline')]

/-- A restore program that is tried breaks only on the line about a success. -/
theorem ends_ofAttempt (mode : Restore.Mode) (program : String) (limit : Option Restore.Seconds)
    {B : Uncaught → Prop}
    (hB : ∀ u, B u ↔ ∃ out err f, s.process = .ends 0 out err ∧
      render (successLine s.host mode) = .error f ∧ u = .markup f) :
    Ends (ofAttempt s.host mode (Restore.outcome program limit s.process).result) B := by
  by_cases hp : ∃ out err, s.process = .ends 0 out err
  · obtain ⟨out, err, hp⟩ := hp
    rw [hp, ofAttempt_of_ends]
    cases hline : render (successLine s.host mode) with
    | ok t =>
      rw [Outcome.afterLines_of_shownLines (shownLines_singleton hline)]
      refine ends_of_none (Nat.zero_le 2) rfl fun u hu => ?_
      obtain ⟨-, -, f, -, hline', -⟩ := (hB u).1 hu
      exact ne_ok_of_eq_error hline' _ hline
    | error f =>
      rw [Outcome.afterLines_of_fault hline]
      refine ends_failed ((hB _).2 ⟨out, err, f, hp, hline, rfl⟩) (fun v hv => ?_) ⟨rfl, rfl⟩
      obtain ⟨-, -, f', -, hline', rfl⟩ := (hB v).1 hv
      rw [Except.error.inj (hline.symm.trans hline')]
  · have hne : ∀ out err, s.process ≠ .ends 0 out err := fun out err h => hp ⟨out, err, h⟩
    obtain ⟨t, -, hattempt⟩ := @ofAttempt_of_ne s.host program mode limit s.process hne
    rw [hattempt]
    refine ends_of_none (Nat.le_succ 1) rfl fun u hu => ?_
    obtain ⟨out, err, -, hends, -⟩ := (hB u).1 hu
    exact hne out err hends

/-- Testing breaks only on the words of the command: with the word that it adds there is always a
program, and its success names no host. -/
theorem ends_verify (h : Asks s.files options g c args .verify)
    (hs : Settings.ofEnvironment s.environment = .ok settings)
    (ht : (compileFile s.files g.config).result = .ok text) :
    Ends (run s (options ++ c.name :: args)) (Breaks s g .verify) := by
  cases hw : Text.words (restoreCommand s.environment g.ipv6) with
  | error f =>
    obtain ⟨level, log, hrun⟩ := @run_of_wordsFault s _ _ _ _ _ .verify _ h hs ht f hw
    rw [hrun]
    refine ends_failed (.verify hw) (fun v hv => ?_) ⟨rfl, rfl⟩
    cases hv with
    | verify hw' => rw [Except.error.inj (hw.symm.trans hw')]
  | ok words =>
    obtain ⟨program, rest, hp⟩ : ∃ program rest, words ++ ["--test"] = program :: rest :=
      List.exists_cons_of_ne_nil (by simp)
    obtain ⟨level, log, limit, hrun⟩ := @run_of_words s _ _ _ _ _ _ _ .verify _ _ h hs ht hw hp
    have hends : Ends (ofAttempt s.host .verify
        (Restore.outcome program limit s.process).result) (Breaks s g .verify) := by
      refine ends_ofAttempt .verify program limit fun u => iff_of_false (fun hu => ?_) ?_
      · cases hu with
        | verify hw' => exact ne_ok_of_eq_error hw' _ hw
      · rintro ⟨-, -, f, -, hline, -⟩
        obtain ⟨t, hshown⟩ := @exists_render_successLine s.host .verify nofun
        exact ne_ok_of_eq_error hline _ hshown
    rw [hrun]
    exact ⟨hends.exitCode, hends.uncaught⟩

theorem ends_apply (h : Asks s.files options g c args .apply)
    (hs : Settings.ofEnvironment s.environment = .ok settings)
    (ht : (compileFile s.files g.config).result = .ok text) :
    Ends (run s (options ++ c.name :: args)) (Breaks s g .apply) := by
  cases hw : Text.words (restoreCommand s.environment g.ipv6) with
  | error f =>
    obtain ⟨level, log, hrun⟩ := @run_of_wordsFault s _ _ _ _ _ .apply _ h hs ht f hw
    rw [hrun]
    refine ends_failed (.apply hw) (fun v hv => ?_) ⟨rfl, rfl⟩
    cases hv with
    | apply hw' => rw [Except.error.inj (hw.symm.trans hw')]
    | noProgram hw' _ => exact absurd hw' (ne_ok_of_eq_error hw _)
    | host hw' _ _ => exact absurd hw' (ne_ok_of_eq_error hw _)
  | ok words =>
    cases words with
    | nil =>
      obtain ⟨level, log, limit, hrun⟩ := run_of_noWords h hs ht hw
      rw [hrun]
      by_cases hp : ∃ message, s.process = .refuses .other message
      · obtain ⟨message, hp⟩ := hp
        obtain ⟨t, -, hreported⟩ := @Outcome.reported_eq "Error" (by decide) message
        rw [hp]
        show Ends (((Outcome.reported "Error" message).withProcess _).withLog _ _) _
        rw [hreported]
        refine ends_of_none (Nat.le_succ 1) rfl fun u hu => ?_
        cases hu with
        | apply hw' => exact absurd hw (ne_ok_of_eq_error hw' _)
        | noProgram _ hne => exact hne message hp
        | host hw' _ _ => cases hw.symm.trans hw'
      · rw [not_exists] at hp
        rw [Restore.faultOfNoWords_of_ne hp]
        refine ends_failed (.noProgram hw hp) (fun v hv => ?_) ⟨rfl, rfl⟩
        cases hv with
        | apply hw' => exact absurd hw (ne_ok_of_eq_error hw' _)
        | noProgram _ _ => rfl
        | host hw' _ _ => cases hw.symm.trans hw'
    | cons word words =>
      obtain ⟨level, log, limit, hrun⟩ := @run_of_words s _ _ _ _ _ _ _ .apply _ _ h hs ht hw rfl
      have hends : Ends (ofAttempt s.host .apply
          (Restore.outcome word limit s.process).result) (Breaks s g .apply) := by
        refine ends_ofAttempt .apply word limit fun u => ⟨fun hu => ?_, ?_⟩
        · cases hu with
          | apply hw' => exact absurd hw (ne_ok_of_eq_error hw' _)
          | noProgram hw' _ => cases hw.symm.trans hw'
          | host _ hp hline => exact ⟨_, _, _, hp, hline, rfl⟩
        · rintro ⟨out, err, f, hp, hline, rfl⟩
          exact .host hw hp hline
      rw [hrun]
      exact ⟨hends.exitCode, hends.uncaught⟩

/-- **Unreported failures.** On a policy that compiles every run ends with exit code zero, one or
two. A failure that is not reported is one of those that break the task, and they all are, unless
the environment is refused before. -/
theorem uncaught_iff (h : Asks s.files options g c args task)
    (ht : (compileFile s.files g.config).result = .ok text) :
    (run s (options ++ c.name :: args)).exitCode ≤ 2 ∧
      ∀ u, (run s (options ++ c.name :: args)).uncaught = some u ↔
        (∃ settings, Settings.ofEnvironment s.environment = .ok settings) ∧ Breaks s g task u := by
  cases hs : Settings.ofEnvironment s.environment with
  | error b =>
    rw [run_of_badLimit h hs]
    refine ⟨Nat.le_refl 2, fun u => iff_of_false (Option.some_ne_none u).symm ?_⟩
    rintro ⟨⟨settings, hsettings⟩, -⟩
    cases hsettings
  | ok settings =>
    suffices hends : Ends (run s (options ++ c.name :: args)) (Breaks s g task) by
      exact ⟨hends.exitCode, fun u => by rw [hends.uncaught, and_iff_right ⟨settings, rfl⟩]⟩
    cases task with
    | print =>
      obtain ⟨level, log, hrun⟩ := run_of_text h hs ht
      rw [hrun]
      refine ends_of_none (Nat.zero_le 2) rfl fun u hu => ?_
      cases hu
    | write file =>
      obtain ⟨level, log, hrun⟩ := run_of_text h hs ht
      have hends := @ends_runWrite s g text file
      rw [hrun]
      exact ⟨hends.exitCode, hends.uncaught⟩
    | verify => exact ends_verify h hs ht
    | apply => exact ends_apply h hs ht

/-- A run on which nothing can go wrong unreported: a policy that is tested. -/
theorem uncaught_verify :
    let s := situationWith "filter: \x7b\x7d" .hangs
    (run s ["-c", "p.yaml", "verify"]).exitCode ≤ 2 ∧
      (run s ["-c", "p.yaml", "verify"]).uncaught = none := by
  intro s
  have hasks : Asks s.files ["-c", "p.yaml"] ⟨"p.yaml", false, none, false⟩ .verify [] .verify :=
    ⟨eq_ok_of_mem_toList (by decide +kernel), eq_ok_of_mem_toList (by decide +kernel)⟩
  have ht : (compileFile s.files "p.yaml").result = .ok "*filter\nCOMMIT\n" :=
    eq_ok_of_mem_toList (by decide +kernel)
  have hw : Text.words (restoreCommand s.environment false) = .ok ["iptables-restore"] := by
    decide +kernel
  obtain ⟨hcode, huncaught⟩ := uncaught_iff hasks ht
  refine ⟨hcode, Option.eq_none_iff_forall_ne_some.2 fun u hu => ?_⟩
  cases ((huncaught u).1 hu).2 with
  | verify hw' => exact ne_ok_of_eq_error hw' _ hw

/-- Three runs on a policy that compiles: an open quote in the command, a blank command, and a file
whose name reads as a closing tag. -/
theorem uncaught_of_commands_and_file :
    let s := situationWith "\x7b\x7d" (.ends 0 "" "")
    let quote : Situation := { s with environment := [(Settings.commandVariable, "'")] }
    let blank : Situation := { s with environment := [(Settings.commandVariable, " ")] }
    let folder : Situation :=
      { s with files := { s.files with folders := [["tmp", "work", "["]] } }
    (compileFile s.files "p.yaml").result = .ok "" ∧
      (run quote ["-c", "p.yaml", "apply"]).uncaught = some (.words .openQuote) ∧
      (run blank ["-c", "p.yaml", "apply"]).uncaught = some .noProgram ∧
      (run folder ["-c", "p.yaml", "write", "[/x]"]).uncaught = some (.markup (.closing "/x")) := by
  refine ⟨eq_ok_of_mem_toList ?_, ?_, ?_, ?_⟩
  · decide +kernel
  · decide +kernel
  · decide +kernel
  · decide +kernel

/-- Nothing goes wrong unreported if the command has words and neither the file nor the host has a
bracket in its name. -/
theorem not_breaks {word : String}
    (hw : Text.words (restoreCommand s.environment g.ipv6) = .ok (word :: words))
    (hfile : ∀ file, task = .write file → '[' ∉ file.toList) (hhost : '[' ∉ s.host.toList)
    (u : Uncaught) : ¬ Breaks s g task u := by
  intro hu
  cases hu with
  | verify hw' => exact ne_ok_of_eq_error hw' _ hw
  | apply hw' => exact ne_ok_of_eq_error hw' _ hw
  | noProgram hw' _ => cases hw.symm.trans hw'
  | @file file place f _ hline =>
    obtain ⟨t, hshown⟩ := @Console.render_cyan "Wrote ruleset to " file (by decide) (by decide)
      (by decide) (hfile file rfl)
    exact ne_ok_of_eq_error hline _ hshown
  | host _ _ hline =>
    obtain ⟨t, hshown⟩ := @exists_render_successLine s.host .apply fun _ => hhost
    exact ne_ok_of_eq_error hline _ hshown

end Firewall.CommandLine
