import Firewall.Proofs.CommandLine.Outcome

/-!
# Time limits

A limit for the restore program can be set by an option or in the environment. Both read the same
numbers in the same way, so it does not matter which of the two sets it, and what a process that
starts gets is never zero, negative or nan (`limit_of_setting`).

1. Options that differ only in that some set a limit ask for the same but for the limit
   (`globalsOf_limited`).
2. With an option the environment only has to be valid (`settingsOf_limited`).
3. A process that starts in a run gets the limit of its settings (`limit_of_run`), which one number
   decides (`exists_decidesLimit`).
-/

namespace Firewall.CommandLine

/-! ## Options that set a limit -/

/-- Whether a given option sets the limit. -/
def setsLimit (x : Given) : Bool := x.switch.long == limitSwitch.long

/-- The options `limited` are those of `plain`, among which there are some that set a limit, the
last of them to a value. -/
def AddsLimit (value : String) (plain limited : List String) : Prop :=
  ∃ given, Arguments.of programSwitches false limited = .ok ⟨given, []⟩ ∧
    Arguments.of programSwitches false plain = .ok ⟨given.filter (!setsLimit ·), []⟩ ∧
    lastValue? limitSwitch given = some value

section Split

variable {known : List Switch}

/-- Fuel for every argument is enough. -/
theorem splitArguments_of_lt {mixed : Bool} {n m : Nat} {args : List String} {a : Arguments}
    (hn : args.length < n) (hm : args.length < m)
    (h : splitArguments known mixed n args = .ok a) :
    splitArguments known mixed m args = .ok a := by
  induction n generalizing args a m with
  | zero => omega
  | succ n ih =>
    obtain ⟨m, rfl⟩ := Nat.exists_eq_succ_of_ne_zero (Nat.ne_zero_of_lt hm)
    cases args with
    | nil => exact h
    | cons arg rest =>
      simp only [List.length_cons] at hn hm
      rw [splitArguments] at h ⊢
      split at h
      · next harg =>
        rw [if_pos harg]
        exact h
      · next harg =>
        rw [if_neg harg]
        split at h
        · next hoption =>
          rw [if_pos hoption]
          obtain ⟨⟨found, left⟩, htake, h⟩ := bind_eq_ok_iff.1 h
          obtain ⟨b, hsplit, hpure⟩ := bind_eq_ok_iff.1 h
          obtain ⟨hle, -⟩ := takeArgument_append htake []
          exact bind_eq_ok_iff.2
            ⟨_, htake, bind_eq_ok_iff.2 ⟨b, ih (by omega) (by omega) hsplit, hpure⟩⟩
        · next hoption =>
          rw [if_neg hoption]
          split at h
          · next hmixed =>
            rw [if_pos hmixed]
            cases hsplit : splitArguments known mixed n rest with
            | error f =>
              rw [hsplit] at h
              cases h
            | ok b =>
              rw [hsplit] at h
              rw [ih (by omega) (by omega) hsplit]
              exact h
          · next hmixed =>
            rw [if_neg hmixed]
            exact h

theorem argumentsOf_cons {arg : String} {given given' : List Given} {rest options : List String}
    (harg : isOption arg = true) (hdash : arg ≠ "--")
    (htake : takeArgument known arg rest = .ok (given, options))
    (h : Arguments.of known false options = .ok ⟨given', []⟩) :
    Arguments.of known false (arg :: rest) = .ok ⟨given ++ given', []⟩ := by
  obtain ⟨hle, -⟩ := takeArgument_append htake []
  have hsplit : splitArguments known false (rest.length + 1) options = .ok ⟨given', []⟩ :=
    splitArguments_of_lt (Nat.lt_succ_self _) (Nat.lt_succ_of_le hle) h
  rw [Arguments.of, List.length_cons, splitArguments, if_neg hdash, if_pos harg]
  exact bind_eq_ok_iff.2 ⟨_, htake, bind_eq_ok_iff.2 ⟨_, hsplit, rfl⟩⟩

end Split

/-- An option that sets the limit can be put in front of options that set none. -/
theorem addsLimit_cons {value arg : String} {given : List Given} {rest plain : List String}
    (hplain : Arguments.of programSwitches false plain = .ok ⟨given, []⟩)
    (hnone : ∀ x ∈ given, setsLimit x = false) (harg : isOption arg = true) (hdash : arg ≠ "--")
    (htake : takeArgument programSwitches arg rest = .ok ([⟨limitSwitch, some value⟩], plain)) :
    AddsLimit value plain (arg :: rest) := by
  have hkept : given.filter (!setsLimit ·) = given :=
    List.filter_eq_self.2 fun x hx => by rw [hnone x hx]; rfl
  have hlater : given.reverse.find? (fun x => x.switch.long == limitSwitch.long) = none :=
    List.find?_eq_none.2 fun x hx => by
      rw [show (x.switch.long == limitSwitch.long) = false from hnone x (List.mem_reverse.1 hx)]
      exact Bool.false_ne_true
  refine ⟨⟨limitSwitch, some value⟩ :: given, argumentsOf_cons harg hdash htake hplain, ?_, ?_⟩
  · rw [List.filter_cons_of_neg (by simp [setsLimit]), hkept]
    exact hplain
  · rw [lastValue?, List.reverse_cons, List.find?_append, hlater]
    rfl

theorem addsLimit_next (value : String) {given : List Given} {plain : List String}
    (hplain : Arguments.of programSwitches false plain = .ok ⟨given, []⟩)
    (hnone : ∀ x ∈ given, setsLimit x = false) :
    AddsLimit value plain ("--timeout" :: value :: plain) :=
  addsLimit_cons hplain hnone (by decide) (by decide) rfl

/-- The value of the option may also stand in the same argument. -/
theorem addsLimit_attached (value : String) {given : List Given} {plain : List String}
    (hplain : Arguments.of programSwitches false plain = .ok ⟨given, []⟩)
    (hnone : ∀ x ∈ given, setsLimit x = false) :
    AddsLimit value plain (("--timeout=" ++ value) :: plain) := by
  have hlist : ("--timeout=" ++ value).toList = "--timeout=".toList ++ value.toList :=
    String.toList_append
  have hne (short : String) (hshort : short.toList.length < 10) :
      "--timeout=" ++ value ≠ short := by
    intro h
    have hlength := congrArg List.length (hlist.symm.trans (congrArg String.toList h))
    rw [List.length_append, show "--timeout=".toList.length = 10 from rfl] at hlength
    omega
  have hsplit : splitValue ("--timeout=" ++ value).toList = ("--timeout", some value) := by
    rw [hlist]
    simp [splitValue]
  have hfind : programSwitches.find? (fun s => s.long == "--timeout") = some limitSwitch := rfl
  refine addsLimit_cons hplain hnone ?_ (hne "--" (by decide)) ?_
  · rw [isOption, hlist, Bool.and_eq_true]
    exact ⟨rfl, bne_iff_ne.2 (hne "-" (by decide))⟩
  · rw [takeArgument, hsplit]
    dsimp only
    rw [hfind]
    rfl

/-! ## What the options ask for -/

section Globals

variable {fs : Files} {given : List Given} {value : String} {x : Binary64}

theorem findSome?_plain {α : Type} {f : Given → Option α}
    (hf : ∀ y, setsLimit y = true → f y = none) (given : List Given) :
    (given.filter (!setsLimit ·)).findSome? f = given.findSome? f := by
  induction given with
  | nil => rfl
  | cons y given ih =>
    by_cases hy : setsLimit y = true
    · rw [List.filter_cons_of_neg (by simp [hy]), List.findSome?_cons, hf y hy]
      exact ih
    · rw [List.filter_cons_of_pos (by simpa using hy), List.findSome?_cons, List.findSome?_cons, ih]

theorem setsLimit_eq_false {s : Switch} (hs : s.long ≠ limitSwitch.long) {y : Given}
    (hy : (y.switch.long == s.long) = true) : setsLimit y = false := by
  have hlong : y.switch.long = s.long := by simpa using hy
  simpa [setsLimit, hlong] using hs

theorem lastValue?_plain {s : Switch} (hs : s.long ≠ limitSwitch.long) (given : List Given) :
    lastValue? s (given.filter (!setsLimit ·)) = lastValue? s given := by
  rw [lastValue?, lastValue?, ← List.filter_reverse, List.find?_filter]
  congr 2
  funext y
  cases hy : y.switch.long == s.long with
  | false => simp
  | true => simp [setsLimit_eq_false hs hy]

theorem isGiven_plain {s : Switch} (hs : s.long ≠ limitSwitch.long) (given : List Given) :
    isGiven s (given.filter (!setsLimit ·)) = isGiven s given := by
  rw [isGiven, isGiven, List.any_filter]
  congr 1
  funext y
  cases hy : y.switch.long == s.long with
  | false => simp
  | true => simp [setsLimit_eq_false hs hy]

theorem lastValue?_limit_plain (given : List Given) :
    lastValue? limitSwitch (given.filter (!setsLimit ·)) = none := by
  have hnone : (given.filter (!setsLimit ·)).reverse.find?
      (fun y => y.switch.long == limitSwitch.long) = none := by
    refine List.find?_eq_none.2 fun y hy => ?_
    have hkept : (!setsLimit y) = true := (List.mem_filter.1 (List.mem_reverse.1 hy)).2
    simpa [setsLimit] using hkept
  rw [lastValue?, hnone]
  rfl

theorem informing?_plain (given : List Given) :
    informing? (given.filter (!setsLimit ·)) = informing? given := by
  refine findSome?_plain (fun y hy => ?_) given
  have hlong : y.switch.long = limitSwitch.long := by simpa [setsLimit] using hy
  simp [hlong, limitSwitch, helpSwitch, versionSwitch]

/-- Values of other options are checked in the same way, and a limit that is a number is no
fault. -/
theorem findSome?_valueFault?_plain (hlast : lastValue? limitSwitch given = some value)
    (hx : Number.float? value.toList = some x) :
    (given.filter (!setsLimit ·)).findSome?
        (fun y => valueFault? fs (given.filter (!setsLimit ·)) y.switch) =
      given.findSome? fun y => valueFault? fs given y.switch := by
  have hsame : (fun y : Given => valueFault? fs (given.filter (!setsLimit ·)) y.switch) =
      fun y => valueFault? fs given y.switch := by
    funext y
    by_cases hlong : y.switch.long = limitSwitch.long
    · -- without the option there is no value, and with it there is a good one
      have hnone : lastValue? y.switch (given.filter (!setsLimit ·)) = none := by
        rw [lastValue?, hlong]
        exact lastValue?_limit_plain given
      have hsome : lastValue? y.switch given = some value := by
        rw [lastValue?, hlong]
        exact hlast
      rw [valueFault?, valueFault?, hnone, hsome, Option.bind_none, Option.bind_some, hlong,
        if_neg (by decide), if_pos rfl, limitOf, hx]
    · rw [valueFault?, valueFault?, lastValue?_plain hlong]
  rw [← hsame]
  refine findSome?_plain (fun y hy => ?_) given
  have hlong : y.switch.long = limitSwitch.long := by simpa [setsLimit] using hy
  rw [valueFault?, lastValue?, hlong, ← lastValue?, lastValue?_limit_plain]
  rfl

theorem globalsOf_limited (hlast : lastValue? limitSwitch given = some value)
    (hx : Number.float? value.toList = some x) :
    globalsOf fs given = (globalsOf fs (given.filter (!setsLimit ·))).map
      fun g => { g with limit := some x } := by
  have hlimit : (lastValue? limitSwitch given).bind (fun v => (limitOf v).toOption) = some x := by
    rw [hlast, Option.bind_some, limitOf, hx]
    rfl
  unfold globalsOf
  rw [informing?_plain, findSome?_valueFault?_plain hlast hx, lastValue?_plain (by decide),
    isGiven_plain (by decide), isGiven_plain (by decide), hlimit]
  cases informing? given with
  | some early => rfl
  | none =>
    cases given.findSome? fun y => valueFault? fs given y.switch with
    | some early => rfl
    | none => cases lastValue? configSwitch given <;> rfl

end Globals

/-! ## Settings -/

section Environment

variable {env env' : Environment} {value : String} {x : Binary64} {g : Globals}

def AgreeOffLimit (env env' : Environment) : Prop :=
  ∀ name, name ≠ Settings.limitVariable → env.lookup name = env'.lookup name

theorem limitIn_of_lookup (henv : env.lookup Settings.limitVariable = some value)
    (hx : Number.float? value.toList = some x) :
    Settings.limitIn env = .ok (Settings.limitOf x) := by
  have hne : value ≠ "" := by
    rintro rfl
    have hempty : Number.float? "".toList = none := by decide
    rw [hempty] at hx
    cases hx
  have hvalue : Settings.nonEmpty? env Settings.limitVariable = some value := by
    rw [Settings.nonEmpty?, henv, Option.filter_some, if_pos (by simpa using hne)]
  rw [Settings.limitIn, hvalue]
  dsimp only
  rw [hx]

/-- The option does what the variable does, and takes its place. -/
theorem settingsOf_limited (hsame : AgreeOffLimit env env')
    (henv : env.lookup Settings.limitVariable = some value)
    (henv' : ∃ limit, Settings.limitIn env' = .ok limit)
    (hx : Number.float? value.toList = some x) (hg : g.limit = none) :
    settingsOf env' { g with limit := some x } = settingsOf env g := by
  obtain ⟨limit, hlimit⟩ := henv'
  have hcommand := hsame Settings.commandVariable (by decide)
  have hcommand6 := hsame Settings.command6Variable (by decide)
  have hverbose := hsame Settings.verboseVariable (by decide)
  simp only [settingsOf, Settings.ofEnvironment, limitIn_of_lookup henv hx, hlimit, bind,
    Except.bind, pure, Except.pure, Settings.nonEmpty?, hcommand, hcommand6, hverbose, hg]
  rfl

variable {fs : Files} {given : List Given}

/-- The number that decides the limit: that of the last option that sets one, else that of the
variable if it is not empty, else half a minute. -/
inductive DecidesLimit (env : Environment) (given : List Given) : Binary64 → Prop
  | option {value : String} {x : Binary64} (hvalue : lastValue? limitSwitch given = some value)
      (hx : Number.float? value.toList = some x) : DecidesLimit env given x
  | environment {value : String} {x : Binary64} (hgiven : lastValue? limitSwitch given = none)
      (hvalue : Settings.nonEmpty? env Settings.limitVariable = some value)
      (hx : Number.float? value.toList = some x) : DecidesLimit env given x
  | standard (hgiven : lastValue? limitSwitch given = none)
      (hvalue : Settings.nonEmpty? env Settings.limitVariable = none) :
      DecidesLimit env given (.ofRatio false 30 1)

/-- A limit that options set is a number, once they ask for settings. -/
theorem limitOf_of_globalsOf (h : globalsOf fs given = .ok g)
    (hvalue : lastValue? limitSwitch given = some value) : ∃ x, limitOf value = .ok x := by
  obtain ⟨-, hfault, -⟩ := globalsOf_eq_ok_iff.1 h
  obtain ⟨y, hfind, -⟩ := Option.bind_eq_some_iff.1 hvalue
  have hlong : y.switch.long = limitSwitch.long := by simpa using List.find?_some hfind
  have hnone := List.findSome?_eq_none_iff.1 hfault y
    (List.mem_reverse.1 (List.mem_of_find?_eq_some hfind))
  rw [valueFault?, lastValue?, hlong, ← lastValue?, hvalue, Option.bind_some,
    if_neg (by decide), if_pos rfl] at hnone
  cases hlimit : limitOf value with
  | ok x => exact ⟨x, rfl⟩
  | error f =>
    rw [hlimit] at hnone
    cases hnone

theorem exists_decidesLimit {settings : Settings} (h : globalsOf fs given = .ok g)
    (hs : settingsOf env g = .ok settings) :
    ∃ x, DecidesLimit env given x ∧ settings.limit = Settings.limitOf x := by
  obtain ⟨-, -, config, -, hg⟩ := globalsOf_eq_ok_iff.1 h
  obtain ⟨fromEnvironment, henv, hpure⟩ := bind_eq_ok_iff.1 hs
  obtain ⟨limit, hlimit, hmade⟩ := bind_eq_ok_iff.1 henv
  cases hmade
  cases hpure
  cases hvalue : lastValue? limitSwitch given with
  | some value =>
    obtain ⟨x, hx⟩ := limitOf_of_globalsOf h hvalue
    have hread : Number.float? value.toList = some x := by
      unfold limitOf at hx
      split at hx
      · next y hy => cases hx; exact hy
      · cases hx
    refine ⟨x, .option hvalue hread, ?_⟩
    rw [hg, hvalue, Option.bind_some, hx]
    rfl
  | none =>
    have hsilent : g.limit = none := by
      rw [hg, hvalue]
      rfl
    unfold Settings.limitIn at hlimit
    split at hlimit
    · next hempty =>
      cases hlimit
      have hstandard : Settings.standard.limit = Settings.limitOf (.ofRatio false 30 1) := by decide
      refine ⟨_, .standard hvalue hempty, ?_⟩
      rw [hsilent]
      exact hstandard
    · next value hset =>
      split at hlimit
      · next x hx =>
        cases hlimit
        refine ⟨x, .environment hvalue hset hx, ?_⟩
        rw [hsilent]
        rfl
      · cases hlimit

end Environment

/-! ## Runs -/

section Runs

variable {s : Situation}

theorem run_of_arguments {options : List String} {given : List Given}
    (h : Arguments.of programSwitches false options = .ok ⟨given, []⟩) (c : Command)
    (args : List String) :
    run s (options ++ c.name :: args) =
      match globalsOf s.files given with
      | .error early => .ofEarly .program early
      | .ok g =>
        match settingsOf s.environment g with
        | .error b => .ofEarly .program (.fault (.environment b))
        | .ok settings => runCommand s settings g c args := by
  have hprogram : programRequest s.files (options ++ c.name :: args) = _ :=
    programRequest_of_arguments h (isOption_name c) args
  cases hglobals : globalsOf s.files given with
  | error early =>
    rw [hglobals] at hprogram
    simp only [run, hprogram, Except.map, bind, Except.bind]
  | ok g =>
    rw [hglobals] at hprogram
    cases hsettings : settingsOf s.environment g <;>
      simp only [run, hprogram, hsettings, Except.map, bind, Except.bind, commandIn_name, pure,
        Except.pure]

/-- A limit in the environment and the same one as an option make the same run. -/
theorem run_limited {env env' : Environment} {plain limited : List String} {value : String}
    {x : Binary64} (hadds : AddsLimit value plain limited)
    (hx : Number.float? value.toList = some x) (hsame : AgreeOffLimit env env')
    (henv : env.lookup Settings.limitVariable = some value)
    (henv' : ∃ limit, Settings.limitIn env' = .ok limit) (c : Command) (args : List String) :
    run { s with environment := env' } (limited ++ c.name :: args) =
      run { s with environment := env } (plain ++ c.name :: args) := by
  obtain ⟨given, hlimited, hplain, hlast⟩ := hadds
  rw [run_of_arguments hlimited, run_of_arguments hplain]
  dsimp only
  rw [globalsOf_limited hlast hx]
  cases hglobals : globalsOf s.files (given.filter (!setsLimit ·)) with
  | error early => rfl
  | ok g =>
    have hg : g.limit = none := by
      obtain ⟨-, -, config, -, rfl⟩ := globalsOf_eq_ok_iff.1 hglobals
      dsimp only
      rw [lastValue?_limit_plain]
      rfl
    dsimp only [Except.map]
    rw [settingsOf_limited hsame henv henv' hx hg]
    rfl

theorem limit_of_attempt {r : Restore.Runner} {mode : Restore.Mode} {text : String}
    {b : Restore.Behaviour} (hstarts : (r.attempt mode text b).trace.events ≠ []) :
    (r.attempt mode text b).trace.limit = r.limit := by
  rw [Restore.Runner.trace_attempt] at hstarts ⊢
  cases b with
  | refuses cause message => exact absurd rfl hstarts
  | hangs => rfl
  | ends code out err => rfl

theorem limit_of_runRestore {settings : Settings} {ipv6 : Bool} {mode : Restore.Mode}
    {text : String} {t : Restore.Trace}
    (ht : t ∈ (runRestore s settings ipv6 mode text).1.processes) (hstarts : t.events ≠ []) :
    t.limit = settings.limit := by
  cases hw : Text.words (if ipv6 then settings.command6 else settings.command) with
  | error f =>
    rw [runRestore, hw] at ht
    cases ht
  | ok words =>
    have hprocesses : (runRestore s settings ipv6 mode text).1.processes =
        [((Restore.Runner.mk words settings.limit).attempt mode text s.process).trace] := by
      rw [runRestore, hw]
      exact congrArg (_ :: ·) (isQuiet_ofAttempt s.host mode _).processes
    rw [hprocesses, List.mem_singleton] at ht
    subst ht
    exact limit_of_attempt hstarts

theorem limit_of_runTask {settings : Settings} {ipv6 : Bool} {text : String} {task : Task}
    {t : Restore.Trace} (ht : t ∈ (runTask s settings ipv6 text task).1.processes)
    (hstarts : t.events ≠ []) : t.limit = settings.limit := by
  cases task with
  | print => cases ht
  | write file =>
    have hnone : (runWrite s.files file text).processes = [] := by
      unfold runWrite
      split
      · exact ((Outcome.isQuiet_ended 1).afterLines _).processes
      · exact ((Outcome.isQuiet_ended 0).afterLines _).processes
    rw [runTask, hnone] at ht
    cases ht
  | verify => exact limit_of_runRestore ht hstarts
  | apply => exact limit_of_runRestore ht hstarts

theorem limit_of_runCommand {settings : Settings} {g : Globals} {c : Command}
    {args : List String} {t : Restore.Trace}
    (ht : t ∈ (runCommand s settings g c args).processes) (hstarts : t.events ≠ []) :
    t.limit = settings.limit := by
  unfold runCommand at ht
  dsimp only at ht
  split at ht
  · next early _ =>
    rw [Outcome.processes_withLog] at ht
    cases early <;> cases ht
  · next task _ =>
    unfold runOnPolicy at ht
    dsimp only at ht
    split at ht
    · next f _ =>
      rw [Outcome.processes_withLog, (Outcome.isQuiet_ofReadFault f).processes] at ht
      cases ht
    · exact limit_of_runTask ht hstarts

/-- A process that starts in a run gets the limit of the settings of the run. -/
theorem limit_of_run {args : List String} {t : Restore.Trace} (ht : t ∈ (run s args).processes)
    (hstarts : t.events ≠ []) :
    ∃ a g settings, Arguments.of programSwitches false args = .ok a ∧
      globalsOf s.files a.given = .ok g ∧ settingsOf s.environment g = .ok settings ∧
      t.limit = settings.limit := by
  unfold run at ht
  dsimp only at ht
  split at ht
  · next early _ => cases early <;> cases ht
  · next g command hrequest =>
    obtain ⟨⟨g', operands⟩, hprogram, hcommand⟩ := bind_eq_ok_iff.1 hrequest
    obtain ⟨command', -, hpure⟩ := bind_eq_ok_iff.1 hcommand
    cases hpure
    obtain ⟨a, hof, hrest⟩ := bind_eq_ok_iff.1 hprogram
    obtain ⟨globals, hglobals, hpure⟩ := bind_eq_ok_iff.1 hrest
    cases hpure
    split at ht
    · cases ht
    · next settings hsettings =>
      refine ⟨a, _, settings, mapError_eq_ok_iff.1 hof, hglobals, hsettings, ?_⟩
      split at ht
      · cases ht
      · exact limit_of_runCommand ht hstarts

end Runs

/-! ## Limits -/

/-- A number is greater than zero when it is none of nan, zero and a negative number. -/
theorem isPositive_iff {x : Binary64} :
    x.isPositive = true ↔ x ≠ .nan ∧ x.isZero = false ∧ x.isNegative = false := by
  cases x <;> simp [Binary64.isPositive, Binary64.isZero, Binary64.isNegative, and_comm]

/-- **The limit of the restore program.** A value that is a number makes the same run whether the
environment sets it or an option does, over any environment that is valid; and a process that starts
has no limit or one greater than zero, which is the number of the option, else that of the
environment, else the standard one. There is no limit exactly when that number is not greater than
zero. -/
theorem limit_of_setting :
    (∀ (s : Situation) (env env' : Environment) (plain limited : List String) (value : String)
      (x : Binary64), AddsLimit value plain limited → Number.float? value.toList = some x →
      AgreeOffLimit env env' → env.lookup Settings.limitVariable = some value →
      (∃ limit, Settings.limitIn env' = .ok limit) → ∀ (c : Command) (args : List String),
      run { s with environment := env' } (limited ++ c.name :: args) =
        run { s with environment := env } (plain ++ c.name :: args)) ∧
    ∀ (s : Situation) (args : List String), ∀ t ∈ (run s args).processes, t.events ≠ [] →
      ∃ a x, Arguments.of programSwitches false args = .ok a ∧
        DecidesLimit s.environment a.given x ∧
        (t.limit = none ↔ x.isPositive = false) ∧
        ∀ l, t.limit = some l →
          l = .real x ∧ x ≠ .nan ∧ x.isZero = false ∧ x.isNegative = false := by
  refine ⟨fun s env env' plain limited value x hadds hx hsame henv henv' c args =>
    run_limited hadds hx hsame henv henv' c args, fun s args t ht hstarts => ?_⟩
  obtain ⟨a, g, settings, hof, hglobals, hsettings, hlimit⟩ := limit_of_run ht hstarts
  obtain ⟨x, hdecides, hx⟩ := exists_decidesLimit hglobals hsettings
  refine ⟨a, x, hof, hdecides, ?_, fun l hl => ?_⟩
  · rw [hlimit, hx]
    exact Settings.limitOf_eq_none_iff
  · rw [hlimit, hx, Settings.limitOf] at hl
    split at hl
    · next hpositive => exact ⟨(Option.some.inj hl).symm, isPositive_iff.1 hpositive⟩
    · cases hl

/-- Five seconds, set for a process that hangs. -/
theorem limit_of_setting_five :
    let s := situationWith "filter: \x7b\x7d" .hangs
    run { s with environment := [("FWPOLICY_TIMEOUT", "7")] }
          ["--timeout", "5", "-c", "p.yaml", "verify"] =
        run { s with environment := [("FWPOLICY_TIMEOUT", "5")] } ["-c", "p.yaml", "verify"] ∧
      ∃ t ∈ (run { s with environment := [("FWPOLICY_TIMEOUT", "5")] }
          ["-c", "p.yaml", "verify"]).processes,
        t.events ≠ [] ∧
        ∃ a x, Arguments.of programSwitches false ["-c", "p.yaml", "verify"] = .ok a ∧
          DecidesLimit [("FWPOLICY_TIMEOUT", "5")] a.given x ∧
          (t.limit = none ↔ x.isPositive = false) ∧
          ∀ l, t.limit = some l →
            l = .real x ∧ x ≠ .nan ∧ x.isZero = false ∧ x.isNegative = false := by
  intro s
  have hplain : Arguments.of programSwitches false ["-c", "p.yaml"] =
      .ok ⟨[⟨configSwitch, some "p.yaml"⟩], []⟩ := rfl
  have hnone : ∀ y ∈ [(⟨configSwitch, some "p.yaml"⟩ : Given)], setsLimit y = false := by
    simp [setsLimit, configSwitch, limitSwitch]
  have hsame : AgreeOffLimit [("FWPOLICY_TIMEOUT", "5")] [("FWPOLICY_TIMEOUT", "7")] := by
    intro name hname
    have hother : (name == "FWPOLICY_TIMEOUT") = false := by
      simpa [Settings.limitVariable] using hname
    rw [List.lookup_cons, List.lookup_cons, hother]
  have hvalid : ∃ limit, Settings.limitIn [("FWPOLICY_TIMEOUT", "7")] = .ok limit :=
    ⟨_, eq_ok_of_mem_toList (List.mem_singleton.2 rfl)⟩
  have ht : ⟨["iptables-restore", "--test"], Restore.Behaviour.hangs.events,
      some "*filter\nCOMMIT\n", some (.real (.ofRatio false 5 1))⟩ ∈
        (run { s with environment := [("FWPOLICY_TIMEOUT", "5")] }
          ["-c", "p.yaml", "verify"]).processes := by
    decide +kernel
  have hstarts : Restore.Behaviour.hangs.events ≠ [] := List.cons_ne_nil _ _
  exact ⟨limit_of_setting.1 s [("FWPOLICY_TIMEOUT", "5")] [("FWPOLICY_TIMEOUT", "7")]
      ["-c", "p.yaml"] ["--timeout", "5", "-c", "p.yaml"] "5" (.ofRatio false 5 1)
      (addsLimit_next "5" hplain hnone) (by decide +kernel) hsame rfl hvalid .verify [],
    _, ht, hstarts, limit_of_setting.2 _ _ _ ht hstarts⟩

end Firewall.CommandLine
