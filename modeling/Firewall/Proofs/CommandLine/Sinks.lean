import Firewall.Proofs.CommandLine.Outcome
import Firewall.Proofs.Files

/-!
# Where rulesets go

All commands compile the policy in the same way and hand the ruleset on: one prints it, one writes
it to a file, and two give it to a restore program. They hand on the same text, and nothing else is
changed (`emits_text`). There is one exception: what is printed lacks the control sequences of the
text.

1. What a run wrote is put among the files that it found (`Outcome.filesAfter`).
2. Each kind of sink is a predicate of the outcome (`Printed`, `Wrote`, `HandedOver`), and one lemma
   tells that the run of the command meets it.
-/

namespace Firewall

def Restore.Behaviour.Starts (b : Restore.Behaviour) : Prop :=
  ∀ cause message, b ≠ .refuses cause message

/-- A process that starts gets the text. -/
theorem Restore.traceOf_of_starts {b : Restore.Behaviour} (h : b.Starts) (words : List String)
    (text : String) (limit : Option Restore.Seconds) :
    Restore.traceOf words text limit b = ⟨words, b.events, some text, limit⟩ := by
  cases b with
  | refuses cause message => exact absurd rfl (h cause message)
  | hangs => rfl
  | ends code out err => rfl

namespace CommandLine

/-! ## Effects -/

namespace Outcome

/-- The files after a run that found the files `fs`. -/
def filesAfter (fs : Files) (o : Outcome) : Files :=
  o.written.foldl (fun fs w => fs.put w.1 w.2.toUTF8.toList) fs

theorem filesAfter_of_written {fs : Files} {o : Outcome} (h : o.written = []) :
    o.filesAfter fs = fs := by
  rw [filesAfter, h, List.foldl_nil]

theorem filesAfter_of_written_singleton {fs : Files} {o : Outcome} {place : List String}
    {text : String} (h : o.written = [(place, text)]) :
    o.filesAfter fs = fs.put place text.toUTF8.toList := by
  rw [filesAfter, h, List.foldl_cons, List.foldl_nil]

end Outcome

/-! ## Sinks -/

/-- The run printed a text, changed no file and tried no process. -/
structure Printed (s : Situation) (text : String) (o : Outcome) : Prop where
  stdout : o.stdout = text
  files : o.filesAfter s.files = s.files
  processes : o.processes = []

/-- The run left a text in a file, changed no other file and tried no process. -/
structure Wrote (s : Situation) (file : String) (place : List String) (text : String)
    (o : Outcome) : Prop where
  content : (o.filesAfter s.files).bytesAt file = .ok text.toUTF8.toList
  others : ∀ other, other ≠ place →
    (o.filesAfter s.files).files.lookup other = s.files.files.lookup other
  folders : (o.filesAfter s.files).folders = s.files.folders
  processes : o.processes = []

/-- The run gave a text to one process, started with the given words, and changed no file. -/
structure HandedOver (s : Situation) (words : List String) (text : String) (o : Outcome) :
    Prop where
  process : ∃ t, o.processes = [t] ∧ t.words = words ∧ t.stdin = some text
  files : o.filesAfter s.files = s.files

variable {s : Situation} {options args words : List String} {g : Globals} {c : Command}
  {settings : Settings} {text : String}

theorem printed_of_text (h : Asks s.files options g c args .print)
    (hs : Settings.ofEnvironment s.environment = .ok settings)
    (ht : (compileFile s.files g.config).result = .ok text) :
    Printed s (Console.plain text) (run s (options ++ c.name :: args)) := by
  obtain ⟨level, log, hrun⟩ := run_of_text h hs ht
  rw [hrun]
  exact ⟨rfl, Outcome.filesAfter_of_written rfl, rfl⟩

theorem wrote_of_text {file : String} {place : List String}
    (h : Asks s.files options g c args (.write file))
    (hs : Settings.ofEnvironment s.environment = .ok settings)
    (ht : (compileFile s.files g.config).result = .ok text)
    (hplace : s.files.writable file = .ok place) :
    Wrote s file place text (run s (options ++ c.name :: args)) := by
  obtain ⟨level, log, hrun⟩ := run_of_text h hs ht
  rw [runTask, runWrite_of_writable hplace] at hrun
  have hwritten : (run s (options ++ c.name :: args)).written =
      if holds s.files place text then [] else [(place, text)] := by
    rw [hrun, Outcome.written_withLog]
  have hprocesses : (run s (options ++ c.name :: args)).processes = [] := by
    rw [hrun, Outcome.processes_withLog]
    exact ((Outcome.isQuiet_ended 0).afterLines _).processes
  cases hholds : holds s.files place text with
  | true =>
    rw [if_pos hholds] at hwritten
    have hlookup : s.files.files.lookup place = some text.toUTF8.toList := eq_of_beq hholds
    have hfiles := @Outcome.filesAfter_of_written s.files _ hwritten
    refine ⟨?_, fun _ _ => ?_, ?_, hprocesses⟩
    · rw [hfiles, Files.bytesAt_of_lookup hplace hlookup]
    · rw [hfiles]
    · rw [hfiles]
  | false =>
    rw [if_neg (ne_true_of_eq_false hholds)] at hwritten
    have hfiles := @Outcome.filesAfter_of_written_singleton s.files _ _ _ hwritten
    refine ⟨?_, fun _ hne => ?_, ?_, hprocesses⟩
    · rw [hfiles, Files.bytesAt_put hplace]
    · rw [hfiles, Files.lookup_put_of_ne hne]
    · rw [hfiles, Files.put]

theorem handedOver_of_text {mode : Restore.Mode} {word : String}
    (h : Asks s.files options g c args (taskFor mode))
    (hs : Settings.ofEnvironment s.environment = .ok settings)
    (ht : (compileFile s.files g.config).result = .ok text)
    (hw : Text.words (restoreCommand s.environment g.ipv6) = .ok (word :: words))
    (hstarts : s.process.Starts) :
    HandedOver s (word :: words ++ mode.words) text (run s (options ++ c.name :: args)) := by
  obtain ⟨level, log, limit, hrun⟩ := run_of_words h hs ht hw rfl
  have hquiet := isQuiet_ofAttempt s.host mode (Restore.outcome word limit s.process).result
  rw [hrun, Restore.traceOf_of_starts hstarts]
  refine ⟨⟨_, congrArg (_ :: ·) hquiet.processes, rfl, rfl⟩, ?_⟩
  exact Outcome.filesAfter_of_written hquiet.written

/-- **Sinks.** With the same options, in the same situation, the ruleset that is written to a file
and that is given to the restore program is the compiled policy; what is printed is the compiled
policy without control sequences, which is the policy itself exactly when it holds none. The command
is the one for the newer protocol exactly when its option is given. -/
theorem emits_text {word : String}
    (hoptions : programRequest s.files options = .ok (g, []))
    (hs : Settings.ofEnvironment s.environment = .ok settings)
    (ht : (compileFile s.files g.config).result = .ok text)
    (hw : Text.words (restoreCommand s.environment g.ipv6) = .ok (word :: words))
    (hstarts : s.process.Starts) :
    (∀ args, commandRequest s.files .print args = .ok .print →
      Printed s (Console.plain text) (run s (options ++ Command.print.name :: args))) ∧
    (Console.plain text = text ↔ ¬ Console.HoldsSequence text.toList) ∧
    (∀ args file place, commandRequest s.files .write args = .ok (.write file) →
      s.files.writable file = .ok place →
      Wrote s file place text (run s (options ++ Command.write.name :: args))) ∧
    (∀ args, commandRequest s.files .verify args = .ok .verify →
      HandedOver s (word :: words ++ ["--test"]) text
        (run s (options ++ Command.verify.name :: args))) ∧
    (∀ args, commandRequest s.files .apply args = .ok .apply →
      HandedOver s (word :: words) text (run s (options ++ Command.apply.name :: args))) ∧
    (g.ipv6 = true ↔
      ∃ a, Arguments.of programSwitches false options = .ok a ∧
        ∃ x ∈ a.given, x.switch.long = ipv6Switch.long) := by
  refine ⟨fun args h => ?_, Console.plain_eq_self_iff, fun args file place h hplace => ?_,
    fun args h => ?_, fun args h => ?_, ipv6_eq_true_iff hoptions⟩
  · exact printed_of_text ⟨hoptions, h⟩ hs ht
  · exact wrote_of_text ⟨hoptions, h⟩ hs ht hplace
  · exact @handedOver_of_text s options args words g .verify settings text .verify word
      ⟨hoptions, h⟩ hs ht hw hstarts
  · have hover := @handedOver_of_text s options args words g .apply settings text .apply word
      ⟨hoptions, h⟩ hs ht hw hstarts
    rwa [Restore.Mode.words, List.append_nil] at hover

/-- A policy of one rule, handed on by every command to a process that hangs. -/
theorem emits_oneRule :
    let s := situationWith "filter: \x7binput: \x7brules: [\x7bprotocol: tcp\x7d]\x7d\x7d" .hangs
    let text := "*filter\n-A INPUT -p tcp -j ACCEPT\nCOMMIT\n"
    Printed s text (run s ["-c", "p.yaml", "-6", "print"]) ∧
      Wrote s "out" ["tmp", "work", "out"] text (run s ["-c", "p.yaml", "-6", "write", "out"]) ∧
      HandedOver s ["ip6tables-restore", "--test"] text (run s ["-c", "p.yaml", "-6", "verify"]) ∧
      HandedOver s ["ip6tables-restore"] text (run s ["-c", "p.yaml", "-6", "apply"]) := by
  intro s text
  have hoptions : programRequest s.files ["-c", "p.yaml", "-6"] =
      .ok (⟨"p.yaml", true, none, false⟩, []) := eq_ok_of_mem_toList (by decide +kernel)
  have ht : (compileFile s.files "p.yaml").result = .ok text :=
    eq_ok_of_mem_toList (by decide +kernel)
  have hw : Text.words (restoreCommand s.environment true) = .ok ["ip6tables-restore"] := by
    decide +kernel
  have hplain : Console.plain text = text := by decide +kernel
  obtain ⟨hprint, -, hwrite, hverify, happly, -⟩ :=
    emits_text hoptions rfl ht hw nofun
  refine ⟨hplain ▸ hprint [] (eq_ok_of_mem_toList (by decide +kernel)),
    hwrite ["out"] "out" ["tmp", "work", "out"] (eq_ok_of_mem_toList (by decide +kernel))
      (eq_ok_of_mem_toList (by decide +kernel)),
    hverify [] (eq_ok_of_mem_toList (by decide +kernel)),
    happly [] (eq_ok_of_mem_toList (by decide +kernel))⟩

/-- A comment with a control sequence is given to the restore program, but not printed. -/
theorem print_ne_controlComment :
    let s := situationWith
      "filter: \x7binput: \x7brules: [\x7bcomment: \"a\\e[1mb\"\x7d]\x7d\x7d" (.ends 0 "" "")
    let text := "*filter\n-A INPUT --comment a\x1b[1mb -j ACCEPT\nCOMMIT\n"
    (compileFile s.files "p.yaml").result = .ok text ∧
      (run s ["-c", "p.yaml", "apply"]).processes.map (·.stdin) = [some text] ∧
      (run s ["-c", "p.yaml", "print"]).stdout =
        "*filter\n-A INPUT --comment ab -j ACCEPT\nCOMMIT\n" ∧
      (run s ["-c", "p.yaml", "print"]).stdout ≠ text := by
  intro s text
  have hprint : (run s ["-c", "p.yaml", "print"]).stdout =
      "*filter\n-A INPUT --comment ab -j ACCEPT\nCOMMIT\n" := by
    decide +kernel
  refine ⟨eq_ok_of_mem_toList ?_, ?_, hprint, hprint ▸ ?_⟩
  · decide +kernel
  · decide +kernel
  · decide +kernel

end CommandLine

end Firewall
