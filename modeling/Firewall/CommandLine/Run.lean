import Firewall.CommandLine.Request
import Firewall.Console.Markup
import Firewall.Console.Sequence
import Firewall.Policy.Read
import Firewall.Ruleset.Compile

/-!
# Runs

A run of the program as a function of its arguments and of what it finds: files, environment, the
name of the host, and the behaviour of the restore program. The outcome holds everything that can be
observed.
-/

namespace Firewall.CommandLine

/-- What a run finds. -/
structure Situation where
  files : Files
  environment : Environment
  host : String
  process : Restore.Behaviour

/-- A failure that no message reports. -/
inductive Uncaught where
  | scalar (f : Yaml.ScalarFault)
  | tooDeep
  | beyond (b : Yaml.Beyond)
  | noText
  | impossiblePath
  | words (f : Text.WordsFault)
  | noProgram
  | markup (f : Console.MarkupFault)
  deriving DecidableEq, Repr

def Uncaught.message : Uncaught → String
  | .scalar f => f.message
  | .tooDeep => "Policy is nested too deeply"
  | .beyond .halfPair => "Policy holds half of a pair of surrogates"
  | .beyond .knot => "Policy holds a collection that holds itself"
  | .noText => noTextMessage
  | .impossiblePath => "Path holds a null character"
  | .words f => f.message
  | .noProgram => Restore.Fault.noProgram.message
  | .markup f => f.message

/-- What can be observed of a run. The level is that of the log, once it is set; files are written
at places from the root. -/
structure Outcome where
  exitCode : Nat
  stdout : String
  stderr : String
  uncaught : Option Uncaught
  written : List (List String × String)
  processes : List Restore.Trace
  level : Option Level
  log : List Record

namespace Outcome

/-- The outcome of a run that did nothing but end. -/
def ended (exitCode : Nat) : Outcome := ⟨exitCode, "", "", none, [], [], none, []⟩

/-- The outcome of a run that printed a text, without the sequences that only a terminal takes. -/
def informed (text : String) : Outcome := { ended 0 with stdout := Console.plain text }

/-- The outcome of a failure that no message reports. -/
def failed (u : Uncaught) : Outcome := { ended 1 with uncaught := some u }

/-- The outcome of arguments that ask for nothing else. -/
def ofEarly (x : Context) : Early → Outcome
  | .help => informed (help x)
  | .version => informed (program ++ ", version " ++ version ++ "\n")
  | .fault f => { ended 2 with stderr := Console.plain (f.report x) }
  | .impossiblePath => failed .impossiblePath

/-- The outcome with console lines printed before its own, unless their markup is faulty. -/
def afterLines (lines : List String) (o : Outcome) : Outcome :=
  match lines with
  | [] => o
  | line :: rest =>
    match Console.render line with
    | .ok s =>
      let o := o.afterLines rest
      { o with stderr := s ++ "\n" ++ o.stderr }
    | .error f => failed (.markup f)

/-- The outcome of a failure that a message reports. -/
def reported (kind message : String) : Outcome :=
  (ended 1).afterLines ["[red]" ++ kind ++ ":[/red] " ++ Console.escape message]

/-- The outcome of a policy that could not be read. -/
def ofReadFault : ReadFault → Outcome
  | .policy f =>
    match f.kind? with
    | some kind => reported kind.name f.message
    | none => failed .noText
  | .tooDeep => failed .tooDeep
  | .scalar f => failed (.scalar f)
  | .beyond b => failed (.beyond b)
  | .path .impossible _ => failed .impossiblePath
  | .path f path => reported "Error" (f.message path)

/-- The outcome of a restore program that did not run to its end. -/
def ofRestoreFault : Restore.Fault → Outcome
  | .noProgram => failed .noProgram
  | f => reported f.kind f.message

def withProcess (t : Restore.Trace) (o : Outcome) : Outcome :=
  { o with processes := t :: o.processes }

/-- The outcome with the log of a run, as far as the level shows it. -/
def withLog (level : Level) (log : List Record) (o : Outcome) : Outcome :=
  { o with level := some level, log := log.filter fun r => level.shows r.level }

end Outcome

/-! ## Tasks -/

/-- The compiled policy of the file at a path. -/
def compileFile (fs : Files) (path : String) : Logged ReadFault String :=
  (Policy.load fs path).andThen fun p => (Ruleset.compile p).mapError .policy

def holds (fs : Files) (place : List String) (text : String) : Bool :=
  fs.files.lookup place == some text.toUTF8.toList

/-- Writes a ruleset to a file; tells the file if it is made or changed. -/
def runWrite (fs : Files) (file text : String) : Outcome :=
  match fs.writable file with
  | .error f => .reported "Error" (f.message (tidyPath file))
  | .ok place =>
    { (Outcome.ended 0).afterLines ["Wrote ruleset to [cyan]" ++ file ++ "[/cyan]"] with
      written := if holds fs place text then [] else [(place, text)] }

/-- What is said when a mode ends well. -/
def successLine (host : String) : Restore.Mode → String
  | .verify => "[green]Verification successful[/green]"
  | .apply => "[green]Rules applied on " ++ host ++ "[/green]"

/-- What is said when a mode ends badly. -/
def failureLine : Restore.Mode → String
  | .verify => "[red]Verification failed[/red]"
  | .apply => "[red]Apply failed[/red]"

/-- The lines that report a bad end: the failure, and what the restore program printed. -/
def failureLines (mode : Restore.Mode) (r : Restore.Result) : List String :=
  failureLine mode :: if r.diagnostics = "" then [] else [Console.escape r.diagnostics]

/-- The outcome of a restore program that ran to its end. -/
def ofResult (host : String) (mode : Restore.Mode) (r : Restore.Result) : Outcome :=
  if r.ok then (Outcome.ended 0).afterLines [successLine host mode]
  else (Outcome.ended 1).afterLines (failureLines mode r)

/-- Runs the restore program on a ruleset; tells the outcome and the log. -/
def runRestore (s : Situation) (settings : Settings) (ipv6 : Bool) (mode : Restore.Mode)
    (text : String) : Outcome × List Record :=
  match Text.words (if ipv6 then settings.command6 else settings.command) with
  | .error f => (.failed (.words f), [])
  | .ok words =>
    let a := (Restore.Runner.mk words settings.limit).attempt mode text s.process
    let o := match a.outcome.result with
      | .ok r => ofResult s.host mode r
      | .error f => Outcome.ofRestoreFault f
    (o.withProcess a.trace, a.outcome.log)

/-- Runs a task on the ruleset; tells the outcome and the log. -/
def runTask (s : Situation) (settings : Settings) (ipv6 : Bool) (text : String) :
    Task → Outcome × List Record
  | .print => (.informed text, [])
  | .write file => (runWrite s.files file text, [])
  | .verify => runRestore s settings ipv6 .verify text
  | .apply => runRestore s settings ipv6 .apply text

/-- Compiles the policy and runs a task on the ruleset. -/
def runOnPolicy (s : Situation) (settings : Settings) (g : Globals) (level : Level) (task : Task) :
    Outcome :=
  let compiled := compileFile s.files g.config
  match compiled.result with
  | .error f => (Outcome.ofReadFault f).withLog level compiled.log
  | .ok text =>
    let (o, log) := runTask s settings g.ipv6 text task
    o.withLog level (compiled.log ++ log)

/-! ## Runs of the program -/

/-- The settings with the options of the program over the environment. -/
def settingsOf (env : Environment) (g : Globals) : Except Settings.BadLimit Settings := do
  let settings ← Settings.ofEnvironment env
  return { settings with
    limit := (g.limit.map Settings.limitOf).getD settings.limit
    verbose := settings.verbose || g.verbose }

def levelOf (settings : Settings) : Level := if settings.verbose then .debug else .warning

/-- The command that operands name, with its arguments; none when there are no operands. -/
def commandIn (fs : Files) : List String → Except Early (Option (Command × List String))
  | [] => .ok none
  | name :: args => (commandOf fs name args).map fun c => some (c, args)

def runCommand (s : Situation) (settings : Settings) (g : Globals) (c : Command)
    (args : List String) : Outcome :=
  let level := levelOf settings
  match commandRequest s.files c args with
  | .error early => (Outcome.ofEarly (.command c) early).withLog level []
  | .ok task => runOnPolicy s settings g level task

def run (s : Situation) (args : List String) : Outcome :=
  let request : Except Early (Globals × Option (Command × List String)) := do
    let (g, operands) ← programRequest s.files args
    return (g, ← commandIn s.files operands)
  match request with
  | .error early => .ofEarly .program early
  | .ok (g, command) =>
    match settingsOf s.environment g with
    | .error b => .ofEarly .program (.fault (.environment b))
    | .ok settings =>
      match command with
      | none => (Outcome.informed (help .program)).withLog (levelOf settings) []
      | some (c, args) => runCommand s settings g c args

end Firewall.CommandLine
