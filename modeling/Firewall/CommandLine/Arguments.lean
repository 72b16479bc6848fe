import Firewall.Text.Similarity

/-!
# Arguments

Splits the arguments of a command into options and operands. Options begin with a hyphen; short ones
may stand together behind one, and a value may be attached to its option or follow it. Two hyphens
alone end the options.
-/

namespace Firewall.CommandLine

/-- An option that a command knows. -/
structure Switch where
  long : String
  short : Option Char
  takesValue : Bool

/-- An option that was given. -/
structure Given where
  switch : Switch
  value : Option String

/-- Why arguments cannot be split. -/
inductive ArgumentFault where
  | unknown (name : String) (close : List String)
  | valueMissing (name : String)
  | valueRefused (name : String)
  deriving DecidableEq, Repr

/-- The arguments of a command: the options that were given, and the operands. -/
structure Arguments where
  given : List Given
  operands : List String

namespace Arguments

/-- The arguments without options. -/
def ofOperands (operands : List String) : Arguments := ⟨[], operands⟩

/-- The arguments with more options in front. -/
def withGiven (gs : List Given) (a : Arguments) : Arguments := ⟨gs ++ a.given, a.operands⟩

def withOperand (s : String) (a : Arguments) : Arguments := ⟨a.given, s :: a.operands⟩

end Arguments

/-- Options with the arguments that follow them. -/
abbrev Taken := List Given × List String

/-- Takes an option by its name, with its value from the argument itself or from the next one. -/
def takeOption (s : Switch) (name : String) (attached : Option String) (rest : List String) :
    Except ArgumentFault Taken :=
  if s.takesValue then
    match attached, rest with
    | some v, _ => .ok ([⟨s, some v⟩], rest)
    | none, v :: rest => .ok ([⟨s, some v⟩], rest)
    | none, [] => .error (.valueMissing name)
  else if attached.isSome then .error (.valueRefused name)
  else .ok ([⟨s, none⟩], rest)

/-- Takes short options behind one hyphen. The characters after one that takes a value are its
value. -/
def takeShort (known : List Switch) (rest : List String) : List Char → Except ArgumentFault Taken
  | [] => .ok ([], rest)
  | c :: cs =>
    let name := String.ofList ['-', c]
    match known.find? fun s => s.short == some c with
    | none => .error (.unknown name [])
    | some s =>
      if s.takesValue then
        takeOption s name (if cs.isEmpty then none else some (String.ofList cs)) rest
      else do
        let (gs, rest) ← takeShort known rest cs
        return (⟨s, none⟩ :: gs, rest)

/-- An argument as the name of a long option and the value after an equals sign. -/
def splitValue (cs : List Char) : String × Option String :=
  let name := cs.takeWhile (· != '=')
  (String.ofList name,
    if name.length < cs.length then some (String.ofList (cs.drop (name.length + 1))) else none)

/-- Takes the options of one argument that begins with a hyphen. Only one with a single hyphen may
hold short options. -/
def takeArgument (known : List Switch) (arg : String) (rest : List String) :
    Except ArgumentFault Taken :=
  let (name, value) := splitValue arg.toList
  match known.find? fun s => s.long == name, arg.toList with
  | some s, _ => takeOption s name value rest
  | none, '-' :: '-' :: _ => .error (.unknown name (Text.closeMatches (known.map (·.long)) name))
  | none, cs => takeShort known rest cs.tail

def isOption (arg : String) : Bool := arg.toList.head? == some '-' && arg != "-"

/-- Splits arguments. Operands may stand among the options only if they are `mixed`; else the first
operand ends the options. -/
def splitArguments (known : List Switch) (mixed : Bool) :
    (fuel : Nat) → List String → Except ArgumentFault Arguments
  | 0, args => .ok (.ofOperands args)
  | _ + 1, [] => .ok (.ofOperands [])
  | n + 1, arg :: rest =>
    if arg = "--" then .ok (.ofOperands rest)
    else if isOption arg then do
      let (gs, rest) ← takeArgument known arg rest
      return (← splitArguments known mixed n rest).withGiven gs
    else if mixed then (splitArguments known mixed n rest).map (·.withOperand arg)
    else .ok (.ofOperands (arg :: rest))

/-- The arguments of a command that knows some options. -/
def Arguments.of (known : List Switch) (mixed : Bool) (args : List String) :
    Except ArgumentFault Arguments :=
  splitArguments known mixed (args.length + 1) args

end Firewall.CommandLine
