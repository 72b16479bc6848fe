import Firewall.CommandLine.Run

/-!
# The program

Finds what a run needs, runs, and does what the outcome says. No other program is started from
here: rulesets are printed and written, and a restore program is reported as unavailable.
-/

namespace Firewall

/-- The number of the fault of a folder that is read as a file. -/
def isFolderCode : UInt32 := 21

/-- The files and folders with what is found at a path from the root. -/
def Files.withFound (fs : Files) (place : List String) : IO Files := do
  match ← (IO.FS.readBinFile ("/" ++ "/".intercalate place)).toBaseIO with
  | .ok bytes => return { fs with files := (place, bytes.toList) :: fs.files }
  | .error (.inappropriateType _ code _) =>
    return if code = isFolderCode then { fs with folders := place :: fs.folders } else fs
  | .error _ => return fs

/-- The files and folders on some paths, seen from the working folder. -/
def findFiles (paths : List String) : IO Files := do
  let home := namesOn (← IO.currentDir).toString
  let places := paths.flatMap fun path =>
    let start := if path.startsWith "/" then [] else home
    let names := namesOn path
    (List.range names.length).map fun n => (names.take (n + 1)).foldl Files.enter start
  places.foldlM Files.withFound ⟨[], [], home⟩

def findEnvironment : IO Environment :=
  Settings.variableNames.filterMapM fun name => do return (← IO.getEnv name).map (name, ·)

def findHost : IO String := do
  match ← (IO.FS.readBinFile "/etc/hostname").toBaseIO with
  | .ok bytes => return (String.fromUTF8? bytes).elim "localhost" Text.strip
  | .error _ => return "localhost"

def findSituation (args : List String) : IO CommandLine.Situation := do
  return {
    files := ← findFiles (CommandLine.namedPaths args)
    environment := ← findEnvironment
    host := ← findHost
    process := .refuses .notPermitted "no program is started from here" }

/-- Does what an outcome says. -/
def perform (o : CommandLine.Outcome) : IO UInt32 := do
  for (place, text) in o.written do
    IO.FS.writeFile ("/" ++ "/".intercalate place) text
  for r in o.log do
    IO.eprintln ("[" ++ r.level.name ++ "] " ++ r.source ++ ": " ++ r.message)
  IO.print o.stdout
  IO.eprint o.stderr
  if let some u := o.uncaught then IO.eprintln u.message
  return o.exitCode.toUInt32

end Firewall

def main (args : List String) : IO UInt32 := do
  Firewall.perform (Firewall.CommandLine.run (← Firewall.findSituation args) args)
