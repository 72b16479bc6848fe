import Firewall.Files
import Firewall.Policy.Load
import Firewall.Text.Lines
import Firewall.Yaml.NodeValue

/-!
# Reading policies

Policies from texts and from files. Besides the faults of policies, a path may lead to no file, a
scalar of the text may have no value, and the text may be too deep or mean what no value is. These
are faults of their own, wherever in the text they are.
-/

namespace Firewall

/-- Why a text or a file gives no policy. -/
inductive ReadFault where
  | policy (f : PolicyFault)
  | tooDeep
  | scalar (f : Yaml.ScalarFault)
  | beyond (b : Yaml.Beyond)
  | path (f : PathFault) (path : String)

def ReadFault.ofYaml : Yaml.Fault → ReadFault
  | .malformed => .policy .notYaml
  | .tooDeep => .tooDeep
  | .scalar f => .scalar f
  | .beyond b => .beyond b

def readingFile (path : String) : Record :=
  ⟨.debug, "fwpolicy.policy.loader", "Loading policy from " ++ path⟩

namespace Policy

/-- The policy of a text. -/
def read (text : String) : Logged ReadFault Policy :=
  (Logged.ofExcept ((Yaml.read text).mapError ReadFault.ofYaml)).andThen fun v =>
    (Policy.ofValue v).mapError .policy

/-- The text of the bytes of a file. -/
def fileText (path : String) (bytes : List UInt8) : Except PolicyFault String :=
  match Text.Utf8.decode bytes with
  | .ok cs => .ok (String.ofList (Text.unifyLineEnds cs))
  | .error f => .error (.notUtf8 path f)

def ofBytes (path : String) (bytes : List UInt8) : Logged ReadFault Policy :=
  (Logged.ofExcept ((fileText path bytes).mapError .policy)).andThen read

/-- The policy of the file at a path. -/
def load (fs : Files) (path : String) : Logged ReadFault Policy :=
  (Logged.note (readingFile path)).andThen fun _ =>
    (Logged.ofExcept ((fs.bytesAt path).mapError fun f => .path f (tidyPath path))).andThen
      (ofBytes path)

end Policy

end Firewall
