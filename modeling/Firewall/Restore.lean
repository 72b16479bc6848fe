import Firewall.Log
import Firewall.Text.Blank
import Firewall.Text.Words
import Firewall.Value

/-!
# Restore program

A restore program gets a ruleset on its standard input and checks it or puts it in force. `deal`
says what is asked of its process, one request after another; what the process answers depends on
how it behaves. A process that starts is left whatever happens in between, and one that runs out of
time is killed and drained first. `attempt` is the account of one such run, and `session` makes
several.
-/

namespace Firewall.Restore

inductive Seconds where
  | whole (n : Int)
  | real (x : Binary64)
  deriving DecidableEq, Repr

def Seconds.text : Seconds → String
  | .whole n => (Value.int n).text
  | .real x => (Value.float x).text

/-- How long a process may take, as messages show it. -/
def limitText (limit : Option Seconds) : String :=
  match limit with
  | some s => s.text
  | none => Value.null.text

/-- Why a process does not start. -/
inductive StartCause where
  | notFound
  | notPermitted
  | other
  deriving DecidableEq, Repr

/-- How a process behaves: it does not start, runs past every limit, or ends by itself. -/
inductive Behaviour where
  | refuses (cause : StartCause) (message : String)
  | hangs
  | ends (code : Int) (stdout stderr : String)
  deriving DecidableEq, Repr

/-- What is done with a process. -/
inductive Event where
  | enter
  | communicate
  | kill
  | exit
  deriving DecidableEq, Repr

def Event.name : Event → String
  | .enter => "enter"
  | .communicate => "communicate"
  | .kill => "kill"
  | .exit => "exit"

/-- What a process sees: its words, what is done with it, and the text and the limit that it gets if
it starts. -/
structure Trace where
  words : List String
  events : List Event
  stdin : Option String
  limit : Option Seconds
  deriving DecidableEq, Repr

/-- A process that ended by itself. -/
structure Result where
  code : Int
  stdout : String
  stderr : String
  deriving DecidableEq, Repr

namespace Result

/-- Whether the process reported success. -/
def ok (r : Result) : Bool := r.code == 0

/-- What the process printed: its errors, then its output, without the blanks around each. -/
def diagnostics (r : Result) : String :=
  "\n".intercalate ([Text.strip r.stderr, Text.strip r.stdout].filter (· ≠ ""))

end Result

/-- Why a run has no result. -/
inductive Fault where
  | noProgram
  | unavailable (program message : String)
  | timedOut (program : String) (limit : Option Seconds)
  | notStarted (message : String)
  deriving DecidableEq, Repr

/-- The kind of a fault as the user sees it. -/
def Fault.kind : Fault → String
  | .unavailable .. => "RestoreUnavailable"
  | .timedOut .. => "RestoreTimeout"
  | .noProgram | .notStarted _ => "Error"

def Fault.message : Fault → String
  | .noProgram => "No program to run"
  | .unavailable program message => "Cannot run " ++ program ++ ": " ++ message
  | .timedOut program limit => program ++ " did not finish within " ++ limitText limit ++ "s"
  | .notStarted message => message

/-- A fault that tells the program. Without words there is none to tell. -/
def Fault.telling (f : String → Fault) : List String → Fault
  | [] => .noProgram
  | program :: _ => f program

/-- Whether a ruleset is only checked or put in force. -/
inductive Mode where
  | verify
  | apply
  deriving DecidableEq, Repr

/-- The words that a mode adds to the command. -/
def Mode.words : Mode → List String
  | .verify => ["--test"]
  | .apply => []

/-- A restore command in words, and how long it may take. -/
structure Runner where
  words : List String
  limit : Option Seconds

/-- A ruleset for the restore program, and how its process behaves. -/
structure Call where
  mode : Mode
  text : String
  process : Behaviour
  deriving DecidableEq, Repr

/-! ## Processes -/

/-- What is asked of a process. The first exchange gives it a text and sets it a limit. -/
inductive Request where
  | enter
  | communicate (stdin : Option String) (limit : Option Seconds)
  | kill
  | exit
  deriving DecidableEq, Repr

namespace Request

/-- The request without its details. -/
def event : Request → Event
  | .enter => .enter
  | .communicate .. => .communicate
  | .kill => .kill
  | .exit => .exit

/-- The text and the limit of an exchange. -/
def exchange? : Request → Option (Option String × Option Seconds)
  | .communicate stdin limit => some (stdin, limit)
  | _ => none

def isKill : Request → Bool
  | .kill => true
  | _ => false

end Request

/-- A process that was tried: its words, and what was asked of it, in order. -/
structure Process where
  words : List String
  requests : List Request
  deriving DecidableEq, Repr

namespace Process

/-- The process after one more request. -/
def asked (p : Process) (q : Request) : Process := { p with requests := p.requests ++ [q] }

def isKilled (p : Process) : Bool := p.requests.any Request.isKill

/-- What the process saw. The text and the limit are those of the first exchange. -/
def trace (p : Process) : Trace :=
  let exchange := p.requests.findSome? Request.exchange?
  ⟨p.words, p.requests.map Request.event, exchange.bind (·.1), exchange.bind (·.2)⟩

end Process

/-- What a process leaves that ended, by itself or by the signal that kills it; none while it
runs. -/
def Behaviour.left? (killed : Bool) : Behaviour → Option Result
  | .ends code out err => some ⟨code, out, err⟩
  | _ => if killed then some ⟨-9, "", ""⟩ else none

/-! ## Dealing with a process -/

/-- Why the dealing with a process breaks off: it does not start, or there is a fault. -/
inductive Stop where
  | refused (cause : StartCause) (message : String)
  | fault (f : Fault)

/-- The fault that is reported. A program that cannot be found or may not be run is unavailable;
other causes are passed on. -/
def Stop.reported (words : List String) : Stop → Fault
  | .refused .other message => .notStarted message
  | .refused _ message => .telling (.unavailable · message) words
  | .fault f => f

/-- A step with the processes that were tried, the latest first. -/
abbrev Dealing := ExceptT Stop (StateM (List Process))

namespace Dealing

/-- Asks something of the latest process. -/
def ask (q : Request) : Dealing Unit :=
  modify fun
    | [] => []
    | p :: tried => p.asked q :: tried

def start (words : List String) (b : Behaviour) : Dealing Unit := do
  modify fun tried => ⟨words, []⟩ :: tried
  match b with
  | .refuses cause message => throw (.refused cause message)
  | _ => ask .enter

/-- Gives the process a text and waits for its end; none if the limit passes before. -/
def communicate (b : Behaviour) (stdin : Option String) (limit : Option Seconds) :
    Dealing (Option Result) := do
  ask (.communicate stdin limit)
  return b.left? ((← get).head?.any Process.isKilled)

/-- Starts a process, deals with it, and leaves it whatever comes of that. -/
def within {α : Type} (words : List String) (b : Behaviour) (body : Dealing α) : Dealing α := do
  start words b
  tryFinally body (ask .exit)

/-- Gives a process the ruleset and waits for its end. A process that does not end in time is killed
and drained. -/
def converse (r : Runner) (words : List String) (c : Call) : Dealing Result := do
  match ← communicate c.process (some c.text) r.limit with
  | some result => return result
  | none =>
    ask .kill
    discard (communicate c.process none none)
    throw (.fault (.telling (.timedOut · r.limit) words))

/-- Deals with one process from its start to its end. That it ended is reported with the name of its
program, and without words the report fails. -/
def whole (r : Runner) (words : List String) (c : Call) : Dealing Result := do
  let result ← within words c.process (converse r words c)
  match words with
  | [] => throw (.fault .noProgram)
  | _ => return result

end Dealing

def Runner.call (r : Runner) (c : Call) : StateM (List Process) (Except Fault Result) := do
  let words := r.words ++ c.mode.words
  return (← (Dealing.whole r words c).run).mapError (Stop.reported words)

/-- Runs the restore program on rulesets, one after the other. -/
def Runner.session (r : Runner) (calls : List Call) :
    StateM (List Process) (List (Except Fault Result)) :=
  calls.mapM r.call

/-! ## Accounts -/

/-- One run: what the process saw, and what came of it with the log. -/
structure Attempt where
  trace : Trace
  outcome : Logged Fault Result

/-- The report that a process starts. -/
def running (words : List String) : Record :=
  ⟨.info, "fwpolicy.runner", "Running " ++ " ".intercalate words⟩

def exited (program : String) (code : Int) : Record :=
  ⟨.debug, "fwpolicy.runner", program ++ " exited with code " ++ Text.signedDecimal code⟩

/-- Runs the restore program on a ruleset. -/
def Runner.attempt (r : Runner) (mode : Mode) (text : String) (b : Behaviour) : Attempt :=
  let words := r.words ++ mode.words
  let (result, tried) := (r.call ⟨mode, text, b⟩).run []
  ⟨(tried.headD ⟨words, []⟩).trace,
    (Logged.note (running words)).andThen fun _ =>
      (Logged.ofExcept result).andThen fun res =>
        (Logged.note (exited (words.headD "") res.code)).andThen fun _ => .ok res⟩

/-- The events of a process that behaves so. -/
def Behaviour.events : Behaviour → List Event
  | .refuses .. => []
  | .hangs => [.enter, .communicate, .kill, .communicate, .exit]
  | .ends .. => [.enter, .communicate, .exit]

/-- What comes of a process with the given behaviour. -/
def outcome (program : String) (limit : Option Seconds) : Behaviour → Logged Fault Result
  | .refuses .other message => .fail (.notStarted message)
  | .refuses _ message => .fail (.unavailable program message)
  | .hangs => .fail (.timedOut program limit)
  | .ends code out err => ⟨[exited program code], .ok ⟨code, out, err⟩⟩

/-- What a process with the given behaviour sees. -/
def traceOf (words : List String) (text : String) (limit : Option Seconds) (b : Behaviour) :
    Trace :=
  match b with
  | .refuses .. => ⟨words, b.events, none, none⟩
  | _ => ⟨words, b.events, some text, limit⟩

theorem Runner.attempt_of_cons {r : Runner} {mode : Mode} {program : String} {rest : List String}
    (h : r.words ++ mode.words = program :: rest) (text : String) (b : Behaviour) :
    r.attempt mode text b = ⟨traceOf (program :: rest) text r.limit b,
      (Logged.note (running (program :: rest))).andThen fun _ => outcome program r.limit b⟩ := by
  unfold attempt call
  dsimp only
  rw [h]
  cases b with
  | refuses cause message => cases cause <;> rfl
  | hangs => rfl
  | ends code out err => rfl

/-- Why a run without words has no result: wherever its program is to be named, there is none. -/
def faultOfNoWords : Behaviour → Fault
  | .refuses .other message => .notStarted message
  | _ => .noProgram

theorem faultOfNoWords_of_ne {b : Behaviour} (h : ∀ message, b ≠ .refuses .other message) :
    faultOfNoWords b = .noProgram := by
  cases b with
  | refuses cause message =>
    cases cause with
    | other => exact absurd rfl (h message)
    | _ => rfl
  | _ => rfl

/-- The account of a run without words. Its process is dealt with like any other. -/
theorem Runner.attempt_of_nil {r : Runner} {mode : Mode} (h : r.words ++ mode.words = [])
    (text : String) (b : Behaviour) :
    r.attempt mode text b = ⟨traceOf [] text r.limit b,
      (Logged.note (running [])).andThen fun _ => .fail (faultOfNoWords b)⟩ := by
  unfold attempt call
  dsimp only
  rw [h]
  cases b with
  | refuses cause message => cases cause <;> rfl
  | hangs => rfl
  | ends code out err => rfl

theorem Runner.trace_attempt (r : Runner) (mode : Mode) (text : String) (b : Behaviour) :
    (r.attempt mode text b).trace = traceOf (r.words ++ mode.words) text r.limit b := by
  cases h : r.words ++ mode.words with
  | nil => rw [attempt_of_nil h]
  | cons program rest => rw [attempt_of_cons h]

end Firewall.Restore
