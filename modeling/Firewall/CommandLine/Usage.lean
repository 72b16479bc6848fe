import Firewall.CommandLine.Arguments
import Firewall.Settings

/-!
# Usage

The commands, their help texts, and what is said about arguments that make no sense.
-/

namespace Firewall.CommandLine

/-! ## Commands -/

def program : String := "fwpolicy"

def version : String := "0.1.0"

inductive Command where
  | apply
  | print
  | verify
  | write
  deriving DecidableEq, Repr

namespace Command

def all : List Command := [.apply, .print, .verify, .write]

def name : Command → String
  | .apply => "apply"
  | .print => "print"
  | .verify => "verify"
  | .write => "write"

def ofName? (name : String) : Option Command := all.find? (·.name == name)

/-- What a command does. -/
def summary : Command → String
  | .apply => "Compile the policy and commit it with iptables-restore."
  | .print => "Print the compiled ruleset to standard output."
  | .verify => "Compile the policy and test it with iptables-restore --test."
  | .write => "Write the compiled ruleset to FILE."

/-- The arguments of a command. -/
def synopsis : Command → String
  | .write => "[OPTIONS] FILE"
  | _ => "[OPTIONS]"

end Command

/-! ## Help -/

/-- Where arguments stand: before a command, or after one. -/
inductive Context where
  | program
  | command (c : Command)
  deriving DecidableEq, Repr

namespace Context

/-- The words that lead to a context. -/
def path : Context → String
  | .program => CommandLine.program
  | .command c => CommandLine.program ++ " " ++ c.name

/-- The line that shows the arguments of a context. -/
def usage (x : Context) : String :=
  "Usage: " ++ x.path ++ " " ++
    (match x with
      | .program => "[OPTIONS] [COMMAND] [ARGS]..."
      | .command c => c.synopsis)

end Context

/-- The options of the program with their explanations. -/
def optionLines : List String :=
  ["  --version          Show the version and exit.",
   "  -c, --config FILE  Path to the YAML policy file.  [required]",
   "  -6, --ipv6         Use ip6tables-restore.",
   "  --timeout FLOAT    Seconds to wait for the restore command (0 waits forever).",
   "  -v, --verbose      Enable verbose output.",
   "  --help             Show this message and exit."]

/-- A command with its explanation, in a column of its own. -/
def commandLine (c : Command) : String :=
  "  " ++ c.name ++ String.ofList (List.replicate (8 - c.name.length) ' ') ++ c.summary

def help (x : Context) : String :=
  let lines := match x with
    | .program =>
      ["  fwpolicy — compile a YAML firewall policy and verify or apply it.", "", "Options:"] ++
        optionLines ++ ["", "Commands:"] ++ Command.all.map commandLine
    | .command c => ["  " ++ c.summary, "", "Options:", "  --help  Show this message and exit."]
  "\n".intercalate (x.usage :: "" :: lines) ++ "\n"

/-! ## Faults of usage -/

/-- What is wrong with the arguments. -/
inductive UsageFault where
  | argument (f : ArgumentFault)
  | configMissing
  | configNotFound (path : String)
  | configIsFolder (path : String)
  | limitNotNumber (text : String)
  | environment (b : Settings.BadLimit)
  | commandUnknown (name : String) (close : List String)
  | fileMissing
  | fileIsFolder (path : String)
  | extra (operands : List String)
  deriving DecidableEq, Repr

/-- The words that offer close matches. -/
def suggestion (close : List String) : String :=
  let names := close.map Text.shown
  match names with
  | [] => ""
  | [n] => " Did you mean " ++ n ++ "?"
  | _ => " (Did you mean one of: " ++ ", ".intercalate (names.mergeSort (· ≤ ·)) ++ "?)"

/-- How messages name the option with the policy file. -/
def configHint : String := "'--config' / '-c'"

/-- A value that an option or an operand does not take. -/
def invalidValue (hint reason : String) : String := "Invalid value for " ++ hint ++ ": " ++ reason

namespace UsageFault

def message : UsageFault → String
  | .argument (.unknown name close) =>
    "No such option " ++ Text.shown name ++ "." ++ suggestion close
  | .argument (.valueMissing name) =>
    "Option " ++ Text.shown name ++ " requires an argument."
  | .argument (.valueRefused name) =>
    "Option " ++ Text.shown name ++ " does not take a value."
  | .configMissing => "Missing option " ++ configHint ++ "."
  | .configNotFound path =>
    invalidValue configHint ("File " ++ Text.shown path ++ " does not exist.")
  | .configIsFolder path =>
    invalidValue configHint ("File " ++ Text.shown path ++ " is a directory.")
  | .limitNotNumber text =>
    invalidValue "'--timeout'" (Text.shown text ++ " is not a valid float.")
  | .environment b => b.message
  | .commandUnknown name close =>
    "No such command " ++ Text.shown name ++ "." ++ suggestion close
  | .fileMissing => "Missing argument 'FILE'."
  | .fileIsFolder path =>
    invalidValue "'FILE'" ("File " ++ Text.shown path ++ " is a directory.")
  | .extra operands =>
    "Got unexpected extra argument" ++ (if operands.length = 1 then "" else "s") ++ " (" ++
      " ".intercalate operands ++ ")"

/-- Whether the message comes with the usage line of its context: not for values of options that
are missing or not taken. -/
def showsUsage : UsageFault → Bool
  | .argument (.valueMissing _) | .argument (.valueRefused _) => false
  | _ => true

/-- What the user sees in a context. -/
def report (f : UsageFault) (x : Context) : String :=
  (if f.showsUsage then
    x.usage ++ "\nTry '" ++ x.path ++ " --help' for help.\n\n"
  else "") ++ "Error: " ++ f.message ++ "\n"

end UsageFault

end Firewall.CommandLine
