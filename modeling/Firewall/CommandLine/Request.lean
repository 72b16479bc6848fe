import Firewall.CommandLine.Usage
import Firewall.Files
import Firewall.Text.CaseMap
import Firewall.Text.Width

/-!
# Requests

What arguments ask for. Options that only inform come before all others; the others are checked in
the order in which they are first given, each with the last of its values.
-/

namespace Firewall.CommandLine

/-- Why arguments ask for nothing else: they ask for help or the version, make no sense, or hold
what can be no path. -/
inductive Early where
  | help
  | version
  | fault (f : UsageFault)
  | impossiblePath

/-- The arguments of a context, or the reason why there are none. -/
def argumentsOf (known : List Switch) (mixed : Bool) (args : List String) :
    Except Early Arguments :=
  (Arguments.of known mixed args).mapError fun f => .fault (.argument f)

/-! ## Options of the program -/

/-- The options of the program. -/
def versionSwitch : Switch := ⟨"--version", none, false⟩
def configSwitch : Switch := ⟨"--config", some 'c', true⟩
def ipv6Switch : Switch := ⟨"--ipv6", some '6', false⟩
def limitSwitch : Switch := ⟨"--timeout", none, true⟩
def verboseSwitch : Switch := ⟨"--verbose", some 'v', false⟩
def helpSwitch : Switch := ⟨"--help", none, false⟩

/-- All options of the program. -/
def programSwitches : List Switch :=
  [versionSwitch, configSwitch, ipv6Switch, limitSwitch, verboseSwitch, helpSwitch]

/-- What the options of the program ask for. -/
structure Globals where
  config : String
  ipv6 : Bool
  limit : Option Binary64
  verbose : Bool
  deriving DecidableEq

def isGiven (s : Switch) (gs : List Given) : Bool := gs.any fun g => g.switch.long == s.long

/-- The last value of an option. -/
def lastValue? (s : Switch) (gs : List Given) : Option String :=
  (gs.reverse.find? fun g => g.switch.long == s.long).bind (·.value)

/-- The first option that only informs. -/
def informing? (gs : List Given) : Option Early :=
  gs.findSome? fun g =>
    if g.switch.long = helpSwitch.long then some .help
    else if g.switch.long = versionSwitch.long then some .version
    else none

/-- Checks the path of the policy file, which must lead to a file. -/
def checkConfig (fs : Files) (path : String) : Option Early :=
  match fs.find path with
  | .ok (.file ..) => none
  | .ok .folder => some (.fault (.configIsFolder path))
  | .error .impossible => some .impossiblePath
  | _ => some (.fault (.configNotFound path))

/-- The time limit that a text states. -/
def limitOf (text : String) : Except UsageFault Binary64 :=
  match Number.float? text.toList with
  | some x => .ok x
  | none => .error (.limitNotNumber text)

/-- What is wrong with the last value of an option. -/
def valueFault? (fs : Files) (gs : List Given) (s : Switch) : Option Early :=
  (lastValue? s gs).bind fun v =>
    if s.long = configSwitch.long then checkConfig fs v
    else if s.long = limitSwitch.long then
      match limitOf v with
      | .ok _ => none
      | .error f => some (.fault f)
    else none

def globalsOf (fs : Files) (gs : List Given) : Except Early Globals := do
  if let some early := informing? gs then throw early
  if let some early := gs.findSome? fun g => valueFault? fs gs g.switch then throw early
  match lastValue? configSwitch gs with
  | none => throw (.fault .configMissing)
  | some config =>
    return {
      config
      ipv6 := isGiven ipv6Switch gs
      limit := (lastValue? limitSwitch gs).bind fun v => (limitOf v).toOption
      verbose := isGiven verboseSwitch gs }

/-- What the arguments of the program ask for, with the command and its arguments. -/
def programRequest (fs : Files) (args : List String) : Except Early (Globals × List String) := do
  let a ← argumentsOf programSwitches false args
  return (← globalsOf fs a.given, a.operands)

/-- The paths that arguments may name. -/
def namedPaths (args : List String) : List String :=
  match Arguments.of programSwitches false args with
  | .ok a => a.given.filterMap (·.value) ++ a.operands
  | .error _ => []

/-! ## Commands -/

/-- Whether a character begins a word: a letter, a digit, or a character of a wide script. -/
def startsWord (c : Char) : Bool :=
  if c.toNat < 128 then c.isAlphanum
  else (Text.decimalValue? c).isSome || Text.upperChar c != [c] || Text.lowerChar c != [c] ||
    Text.width c == 2

/-- The command of a name. A name that begins like an option is read again as an option first. -/
def commandOf (fs : Files) (name : String) (rest : List String) : Except Early Command := do
  match Command.ofName? name with
  | some c => return c
  | none =>
    if name.toList.head?.any fun c => !startsWord c then
      let _ ← programRequest fs (name :: rest)
    throw (.fault (.commandUnknown name (Text.closeMatches (Command.all.map (·.name)) name)))

/-- Checks the path of a file to be written, which must not lead to a folder. -/
def checkFile (fs : Files) (path : String) : Option Early :=
  match fs.find path with
  | .ok .folder => some (.fault (.fileIsFolder path))
  | .error .impossible => some .impossiblePath
  | _ => none

/-- What is to be done: a command, with the file of the command that writes one. -/
inductive Task where
  | apply
  | verify
  | print
  | write (file : String)
  deriving DecidableEq, Repr

/-- The task of a command with operands, and the operands that it leaves. -/
def taskOf (fs : Files) (c : Command) (operands : List String) :
    Except Early (Task × List String) :=
  match c, operands with
  | .apply, _ => .ok (.apply, operands)
  | .verify, _ => .ok (.verify, operands)
  | .print, _ => .ok (.print, operands)
  | .write, [] => .error (.fault .fileMissing)
  | .write, file :: rest =>
    match checkFile fs file with
    | some early => .error early
    | none => .ok (.write file, rest)

/-- The task of a command with arguments. -/
def commandRequest (fs : Files) (c : Command) (args : List String) : Except Early Task := do
  let a ← argumentsOf [helpSwitch] true args
  if let some early := informing? a.given then throw early
  let (task, rest) ← taskOf fs c a.operands
  if rest.isEmpty then return task else throw (.fault (.extra rest))

end Firewall.CommandLine
