import Firewall.Yaml.Node

/-!
# Merge keys

A merge key brings the entries of other mappings into its own mapping, in front of the mapping's own
entries. This changes the table of nodes for good: the merge key is gone afterwards, and so it is in
the mappings that it named. A key that is the sign of the default value is a text from then on.

A merge key is taken out before its mappings are looked at, so that a mapping may name itself: it
brings in what it has besides that merge key.
-/

namespace Firewall.Yaml

abbrev Merging := StateT Nodes (Except Fault)

namespace Merging

/-- The entries of a mapping; nothing else can be merged. -/
def own (id : NodeId) : Merging (List (NodeId × NodeId)) := do
  match (← get).entries? id with
  | some es => return es
  | none => throw .malformed

/-- Makes a text of a key that is the sign of the default value. -/
def settleKey (key : NodeId) : Merging Unit := do
  if (← get).tag? key = some .value then modify fun ns => ns.retag key .str

/-- The entries of a mapping after its merge keys have brought in theirs. Of several mappings under
one merge key the last comes first. -/
def entries : (calls : Nat) → NodeId → Merging (List (NodeId × NodeId))
  | 0, _ => throw .tooDeep
  | n + 1, id => do
    let all ← own id
    let ns ← get
    let brought ← (all.filter fun e => ns.tag? e.1 = some .merge).mapM fun merge => do
      let es ← own id
      -- it is gone already if the mapping was merged meanwhile
      if merge ∈ es then
        modify fun ns => ns.setEntries id (es.erase merge)
        match (← get).items? merge.2 with
        | none => entries n merge.2
        | some items =>
          let parts ← items.mapM fun item => entries n item
          return parts.reverse.flatten
      else return []
    let rest ← own id
    rest.forM fun e => settleKey e.1
    let es := brought.flatten ++ rest
    modify fun ns => ns.setEntries id es
    return es

end Merging

end Firewall.Yaml
