import Firewall.Proofs.CommandLine.Outcome

/-!
# Diagnostics of restore programs

`stderr_eq_diagnostics_iff`: a restore program that ends with another code than zero is reported as
a failure, and then its diagnostics are shown. They are escaped, so that no tag in them is read as
one, but that alone does not keep them: addresses with colons, tabs and backslashes may come out
different (`stderr_ne_diagnostics`). They are shown as they are exactly when they are `Verbatim`.
-/

namespace Firewall.CommandLine

variable {s : Situation} {options args words : List String} {g : Globals} {c : Command}
  {settings : Settings} {mode : Restore.Mode} {text : String} {code : Int} {out err : String}

theorem run_of_code_ne (h : Asks s.files options g c args (taskFor mode))
    (hs : Settings.ofEnvironment s.environment = .ok settings)
    (ht : (compileFile s.files g.config).result = .ok text)
    (hw : Text.words (restoreCommand s.environment g.ipv6) = .ok words)
    (hstarts : words ++ mode.words ≠ []) (hp : s.process = .ends code out err) (hcode : code ≠ 0) :
    ∃ level log trace, run s (options ++ c.name :: args) =
      (({ Outcome.ended 1 with
          stderr := failureText mode ++ "\n" ++
            if (Restore.Result.mk code out err).diagnostics = "" then ""
            else Console.display (Restore.Result.mk code out err).diagnostics ++ "\n" } :
        Outcome).withProcess trace).withLog level log := by
  obtain ⟨program, rest, hprogram⟩ := List.exists_cons_of_ne_nil hstarts
  obtain ⟨level, log, limit, hrun⟩ := run_of_words h hs ht hw hprogram
  rw [hp, ofAttempt_of_code_ne hcode,
    Outcome.afterLines_of_shownLines (shownLines_failureLines_eq mode _)] at hrun
  refine ⟨level, log, Restore.traceOf (program :: rest) text limit (.ends code out err), ?_⟩
  rw [hrun]
  simp [Outcome.ended]

/-- **Diagnostics.** A run whose restore program ends with another code than zero has exit code one
and shows the failure, and then the diagnostics, escaped. They reach the user as they are exactly
when they are verbatim. -/
theorem stderr_eq_diagnostics_iff (h : Asks s.files options g c args (taskFor mode))
    (hs : Settings.ofEnvironment s.environment = .ok settings)
    (ht : (compileFile s.files g.config).result = .ok text)
    (hw : Text.words (restoreCommand s.environment g.ipv6) = .ok words)
    (hstarts : words ++ mode.words ≠ []) (hp : s.process = .ends code out err) (hcode : code ≠ 0) :
    let o := run s (options ++ c.name :: args)
    let d := (Restore.Result.mk code out err).diagnostics
    o.exitCode = 1 ∧ o.uncaught = none ∧
      (o.stderr = failureText mode ++ "\n" ++ if d = "" then "" else Console.display d ++ "\n") ∧
      ((o.stderr = failureText mode ++ "\n" ++ if d = "" then "" else d ++ "\n") ↔
        Console.Verbatim d.toList) := by
  intro o d
  obtain ⟨level, log, trace, hrun⟩ := run_of_code_ne h hs ht hw hstarts hp hcode
  have hstderr : o.stderr =
      failureText mode ++ "\n" ++ if d = "" then "" else Console.display d ++ "\n" :=
    congrArg Outcome.stderr hrun
  refine ⟨congrArg Outcome.exitCode hrun, congrArg Outcome.uncaught hrun, hstderr, ?_⟩
  rw [hstderr, String.append_right_inj]
  split
  · next hd =>
    rw [hd]
    exact iff_of_true rfl (by decide)
  · rw [String.append_left_inj, Console.display_eq_self_iff]

/-- A test that fails, with diagnostics that are shown as they are: an address, a tag and a path
with backslashes. -/
theorem stderr_eq_diagnostics_taggedAddress :
    let s := situationWith "filter: \x7b\x7d"
      (.ends 2 "see C:\\etc\\hosts\n" "line 2: host 2001:db8::1 in [red]\n")
    (run s ["-c", "p.yaml", "verify"]).stderr =
      "Verification failed\nline 2: host 2001:db8::1 in [red]\nsee C:\\etc\\hosts\n" := by
  intro s
  have hasks : Asks s.files ["-c", "p.yaml"] ⟨"p.yaml", false, none, false⟩ .verify []
      (taskFor .verify) :=
    ⟨eq_ok_of_mem_toList (by decide +kernel), eq_ok_of_mem_toList (by decide +kernel)⟩
  have ht : (compileFile s.files "p.yaml").result = .ok "*filter\nCOMMIT\n" :=
    eq_ok_of_mem_toList (by decide +kernel)
  have hw : Text.words (restoreCommand s.environment false) = .ok ["iptables-restore"] := by
    decide +kernel
  obtain ⟨-, -, -, hverbatim⟩ :=
    stderr_eq_diagnostics_iff hasks rfl ht hw (by decide) rfl (by decide)
  exact hverbatim.2 (by decide +kernel)

/-- Diagnostics that are not shown as they are: a short number of an address between colons, a tab,
a bell, a backslash in front of a bracket, and a backslash at the end. -/
theorem stderr_ne_diagnostics :
    (compileFile (situationWith "\x7b\x7d" .hangs).files "p.yaml").result = .ok "" ∧
      ∀ e ∈ [("host fd00:a:1::2", "host fd00🅰1::2"), ("line\t2", "line    2"),
          ("line\x07 2", "line 2"), ("set \\[0-9]", "set [0-9]"), ("path C:\\", "path C:\\\\")],
        let o := run (situationWith "\x7b\x7d" (.ends 1 "" e.1)) ["-c", "p.yaml", "verify"]
        (Restore.Result.mk 1 "" e.1).diagnostics = e.1 ∧
          o.stderr = "Verification failed\n" ++ e.2 ++ "\n" ∧
          o.stderr ≠ "Verification failed\n" ++ e.1 ++ "\n" := by
  refine ⟨eq_ok_of_mem_toList ?_, ?_⟩
  · decide +kernel
  · decide +kernel

end Firewall.CommandLine
