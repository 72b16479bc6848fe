import Firewall.CommandLine.Run
import Firewall.Proofs.Failure

/-!
# Command lines that ask for a task

`Asks`: options of the program that ask for no more than settings, a command, and arguments of the
command that make it a task. What a run makes of such a command line does not depend on how the
options are put: an environment that is refused ends it (`run_of_badLimit`), a policy with a fault
ends it (`run_of_fault`), and else the task runs on the ruleset (`run_of_text`).

1. Options are taken in the same way whatever follows them (`takeArgument_append`), so that the
   options in front of a command end at the command (`splitArguments_append`).
2. A command is found by its name, and its arguments are read apart from the options.
-/

namespace Firewall.CommandLine

/-! ## Options before a command -/

section Options

variable {known : List Switch} {rest left : List String} {gs : List Given}

theorem takeOption_append {s : Switch} {name : String} {attached : Option String}
    (h : takeOption s name attached rest = .ok (gs, left)) (more : List String) :
    left.length ≤ rest.length ∧
      takeOption s name attached (rest ++ more) = .ok (gs, left ++ more) := by
  unfold takeOption at h ⊢
  split at h
  · next htakes =>
    rw [if_pos htakes]
    cases attached with
    | some v =>
      cases h
      exact ⟨Nat.le_refl _, rfl⟩
    | none =>
      cases rest with
      | nil => cases h
      | cons v rest =>
        cases h
        exact ⟨Nat.le_succ _, rfl⟩
  · next htakes =>
    rw [if_neg htakes]
    split at h
    · cases h
    · next hattached =>
      rw [if_neg hattached]
      cases h
      exact ⟨Nat.le_refl _, rfl⟩

theorem takeShort_append {cs : List Char} (h : takeShort known rest cs = .ok (gs, left))
    (more : List String) :
    left.length ≤ rest.length ∧
      takeShort known (rest ++ more) cs = .ok (gs, left ++ more) := by
  induction cs generalizing gs left with
  | nil =>
    cases h
    exact ⟨Nat.le_refl _, rfl⟩
  | cons c cs ih =>
    rw [takeShort] at h ⊢
    cases hfind : known.find? fun s => s.short == some c with
    | none =>
      rw [hfind] at h
      cases h
    | some s =>
      simp only [hfind] at h ⊢
      split at h
      · next htakes =>
        rw [if_pos htakes]
        exact takeOption_append h more
      · next htakes =>
        rw [if_neg htakes]
        obtain ⟨⟨found, after⟩, hshort, hpure⟩ := bind_eq_ok_iff.1 h
        obtain ⟨hle, hmore⟩ := ih hshort
        cases hpure
        exact ⟨hle, bind_eq_ok_iff.2 ⟨_, hmore, rfl⟩⟩

theorem takeArgument_append {arg : String} (h : takeArgument known arg rest = .ok (gs, left))
    (more : List String) :
    left.length ≤ rest.length ∧
      takeArgument known arg (rest ++ more) = .ok (gs, left ++ more) := by
  unfold takeArgument at h ⊢
  split at h
  · next name value hsplit =>
    split at h
    · exact takeOption_append h more
    · cases h
    · exact takeShort_append h more

/-- Options that are complete are the same in front of an operand, which ends them. -/
theorem splitArguments_append {name : String} {args : List String} (hname : isOption name = false)
    {n m : Nat} {options : List String} (hn : options.length < n)
    (hm : (options ++ name :: args).length < m)
    (h : splitArguments known false n options = .ok ⟨gs, []⟩) :
    splitArguments known false m (options ++ name :: args) = .ok ⟨gs, name :: args⟩ := by
  have hdash : name ≠ "--" := by
    rintro rfl
    revert hname
    decide
  induction n generalizing options gs m with
  | zero => omega
  | succ n ih =>
    obtain ⟨m, rfl⟩ := Nat.exists_eq_succ_of_ne_zero (Nat.ne_zero_of_lt hm)
    cases options with
    | nil =>
      cases h
      simp [splitArguments, hname, hdash, Arguments.ofOperands]
    | cons arg options =>
      rw [List.cons_append, splitArguments]
      rw [splitArguments] at h
      split at h
      · next harg =>
        rw [if_pos harg]
        cases h
        rfl
      · next harg =>
        rw [if_neg harg]
        split at h
        · next hoption =>
          rw [if_pos hoption]
          obtain ⟨⟨found, after⟩, htake, h⟩ := bind_eq_ok_iff.1 h
          obtain ⟨⟨given, operands⟩, hsplit, hpure⟩ := bind_eq_ok_iff.1 h
          obtain ⟨hle, hmore⟩ := takeArgument_append htake (name :: args)
          cases hpure
          refine bind_eq_ok_iff.2 ⟨_, hmore, bind_eq_ok_iff.2 ⟨_, ih ?_ ?_ hsplit, rfl⟩⟩
          · simp only [List.length_cons] at hn
            omega
          · simp only [List.cons_append, List.length_cons, List.length_append] at hm ⊢
            omega
        · cases h

end Options

/-- Options ask for settings when none of them informs, their values have no fault, and one names
the policy file. -/
theorem globalsOf_eq_ok_iff {fs : Files} {given : List Given} {g : Globals} :
    globalsOf fs given = .ok g ↔
      informing? given = none ∧
      (given.findSome? fun x => valueFault? fs given x.switch) = none ∧
      ∃ config, lastValue? configSwitch given = some config ∧
        g = ⟨config, isGiven ipv6Switch given,
          (lastValue? limitSwitch given).bind fun v => (limitOf v).toOption,
          isGiven verboseSwitch given⟩ := by
  unfold globalsOf
  cases informing? given with
  | some early => simp [bind, Except.bind]
  | none =>
    cases given.findSome? fun x => valueFault? fs given x.switch with
    | some early => simp [bind, Except.bind]
    | none => cases lastValue? configSwitch given <;> simp [pure, Except.pure, eq_comm]

theorem programRequest_of_arguments {fs : Files} {options : List String} {given : List Given}
    (h : Arguments.of programSwitches false options = .ok ⟨given, []⟩) {name : String}
    (hname : isOption name = false) (args : List String) :
    programRequest fs (options ++ name :: args) =
      (globalsOf fs given).map fun g => (g, name :: args) := by
  have hsplit : Arguments.of programSwitches false (options ++ name :: args) =
      .ok ⟨given, name :: args⟩ :=
    splitArguments_append hname (Nat.lt_succ_self _) (Nat.lt_succ_self _) h
  rw [programRequest, argumentsOf, hsplit]
  show (globalsOf fs given >>= fun g => pure (g, name :: args)) = _
  cases globalsOf fs given <;> rfl

/-- Options that ask for no more than settings ask for the same in front of an operand. -/
theorem programRequest_append {fs : Files} {options : List String} {g : Globals}
    (h : programRequest fs options = .ok (g, [])) {name : String} (hname : isOption name = false)
    (args : List String) :
    programRequest fs (options ++ name :: args) = .ok (g, name :: args) := by
  obtain ⟨⟨given, operands⟩, hof, h⟩ := bind_eq_ok_iff.1 h
  obtain ⟨g', hglobals, hpure⟩ := bind_eq_ok_iff.1 h
  cases hpure
  rw [programRequest_of_arguments (mapError_eq_ok_iff.1 hof) hname, hglobals]
  rfl

/-! ## Command lines -/

theorem ofName?_name (c : Command) : Command.ofName? c.name = some c := by
  cases c <;> decide

theorem isOption_name (c : Command) : isOption c.name = false := by
  cases c <;> decide

/-- The options ask for settings, and the command with its arguments is a task. -/
structure Asks (fs : Files) (options : List String) (g : Globals) (c : Command)
    (args : List String) (task : Task) : Prop where
  globals : programRequest fs options = .ok (g, [])
  command : commandRequest fs c args = .ok task

theorem commandIn_name (fs : Files) (c : Command) (args : List String) :
    commandIn fs (c.name :: args) = .ok (some (c, args)) := by
  rw [commandIn, commandOf, ofName?_name]
  rfl

/-- The settings with the options of the program over them. -/
def overridden (settings : Settings) (g : Globals) : Settings :=
  { settings with
    limit := (g.limit.map Settings.limitOf).getD settings.limit
    verbose := settings.verbose || g.verbose }

variable {s : Situation} {options args : List String} {g : Globals} {c : Command} {task : Task}

theorem run_of_badLimit (h : Asks s.files options g c args task) {b : Settings.BadLimit}
    (hb : Settings.ofEnvironment s.environment = .error b) :
    run s (options ++ c.name :: args) = .ofEarly .program (.fault (.environment b)) := by
  have hprogram := programRequest_append h.globals (isOption_name c) args
  have hsettings : settingsOf s.environment g = .error b := by
    rw [settingsOf, hb]
    rfl
  simp only [run, hprogram, commandIn_name, bind, Except.bind, pure, Except.pure, hsettings]

variable {settings : Settings}

/-- Any other environment, with the options over it, sets up the run of the task on the policy. -/
theorem run_of_settings (h : Asks s.files options g c args task)
    (hs : Settings.ofEnvironment s.environment = .ok settings) :
    run s (options ++ c.name :: args) =
      runOnPolicy s (overridden settings g) g (levelOf (overridden settings g)) task := by
  have hprogram := programRequest_append h.globals (isOption_name c) args
  have hsettings : settingsOf s.environment g = .ok (overridden settings g) := by
    rw [settingsOf, hs]
    rfl
  simp only [run, hprogram, commandIn_name, bind, Except.bind, pure, Except.pure, hsettings,
    runCommand, h.command]

theorem run_of_text (h : Asks s.files options g c args task)
    (hs : Settings.ofEnvironment s.environment = .ok settings) {text : String}
    (ht : (compileFile s.files g.config).result = .ok text) :
    ∃ level log, run s (options ++ c.name :: args) =
      (runTask s (overridden settings g) g.ipv6 text task).1.withLog level log := by
  refine ⟨levelOf (overridden settings g), (compileFile s.files g.config).log ++
    (runTask s (overridden settings g) g.ipv6 text task).2, ?_⟩
  rw [run_of_settings h hs, runOnPolicy, ht]

/-! ## The restore command -/

/-- The restore command that an environment sets, for one of the two protocols. -/
def restoreCommand (env : Environment) (ipv6 : Bool) : String :=
  if ipv6 then (Settings.nonEmpty? env Settings.command6Variable).getD Settings.standard.command6
  else (Settings.nonEmpty? env Settings.commandVariable).getD Settings.standard.command

theorem command_of_ofEnvironment {env : Environment}
    (hs : Settings.ofEnvironment env = .ok settings) (g : Globals) (ipv6 : Bool) :
    (if ipv6 then (overridden settings g).command6 else (overridden settings g).command) =
      restoreCommand env ipv6 := by
  obtain ⟨limit, -, hpure⟩ := bind_eq_ok_iff.1 hs
  cases hpure
  rfl

theorem ipv6_eq_true_iff {fs : Files} (h : programRequest fs options = .ok (g, [])) :
    g.ipv6 = true ↔
      ∃ a, Arguments.of programSwitches false options = .ok a ∧
        ∃ x ∈ a.given, x.switch.long = ipv6Switch.long := by
  obtain ⟨⟨given, operands⟩, hof, h⟩ := bind_eq_ok_iff.1 h
  obtain ⟨g', hglobals, hpure⟩ := bind_eq_ok_iff.1 h
  cases hpure
  rw [argumentsOf, mapError_eq_ok_iff] at hof
  have hipv6 : g.ipv6 = isGiven ipv6Switch given := by
    obtain ⟨-, -, config, -, rfl⟩ := globalsOf_eq_ok_iff.1 hglobals
    rfl
  rw [hipv6, isGiven, List.any_eq_true]
  simp [hof]

end Firewall.CommandLine
