import Firewall.Yaml.Grammar
import Firewall.Yaml.Lexer
import Firewall.Yaml.Merge
import Firewall.Yaml.ScalarValue

/-!
# Values of documents

What a document means. Nodes are looked at from the outermost on, each once: a scalar gets its value
at once, and a collection waits until all that wait before it have been opened. So of several faults
the one nearest to the outermost node counts, and of those the first. When no node waits any more,
the values of collections are put together from those of their parts. These mostly stand before
them, so that one round through the nodes is enough; a merge key may bring in parts from further on,
and then it takes more. A collection that holds itself has no value here.
-/

namespace Firewall.Yaml

/-- What is known of the value of a node: of a scalar all, of a collection its parts, none before it
is opened. The number that has the name nan is apart, since all nodes of that name have one key,
while any other nan is no key but its own. -/
inductive Sketch where
  | scalar (v : Value)
  | nan
  | list (items : List NodeId)
  | map (entries : List (NodeId × NodeId))
  | set (entries : List (NodeId × NodeId))
  | pairs (entries : List (NodeId × NodeId))
  deriving Repr

namespace Sketch

/-- Whether the value can be a key. -/
def isKey : Sketch → Bool
  | .scalar _ | .nan => true
  | _ => false

/-- A collection of a type that is not open yet. -/
def closed? : Tag → Option Sketch
  | .seq => some (.list [])
  | .map => some (.map [])
  | .set => some (.set [])
  | .omap | .pairs => some (.pairs [])
  | _ => none

/-- The scalar at a place. A mapping that stands for one is no date. -/
def ofScalar (ns : Nodes) (id : NodeId) : Except Fault Sketch := do
  match ns[id]? with
  | none => throw .malformed
  | some n =>
    if !n.tag.isScalar then throw .malformed
    let text ← ns.scalarText greatestCalls id
    if n.tag = .timestamp ∧ n.content.isMapping then throw (.scalar .momentOfMapping)
    if n.tag = .float ∧ ScalarValue.namesNan text then return .nan
    (ScalarValue.ofText n.tag text).map .scalar

end Sketch

/-! ## Looking and opening -/

/-- The nodes of a document with what is known of their values, and the collections that wait to be
opened, the latest first. -/
structure Building where
  nodes : Nodes
  sketches : Array (Option Sketch)
  waiting : List NodeId

abbrev Build := StateT Building (Except Fault)

namespace Build

/-- Looks at a node: a scalar gets its value, and a collection has to wait. -/
def look (id : NodeId) : Build Sketch := do
  match (← get).sketches.getD id none with
  | some s => return s
  | none =>
    match ((← get).nodes.tag? id).bind Sketch.closed? with
    | some s =>
      modify fun b => { b with
        sketches := b.sketches.setIfInBounds id (some s)
        waiting := id :: b.waiting }
      return s
    | none =>
      let s ← Sketch.ofScalar (← get).nodes id
      modify fun b => { b with sketches := b.sketches.setIfInBounds id (some s) }
      return s

def lookAtKey (id : NodeId) : Build Unit := do
  if !(← look id).isKey then throw .malformed

/-- The items of a sequence, all looked at. -/
def items (id : NodeId) : Build (List NodeId) := do
  match (← get).nodes.items? id with
  | none => throw .malformed
  | some is =>
    is.forM fun i => discard (look i)
    return is

/-- The entries of a mapping, merged and looked at. -/
def entries (id : NodeId) : Build (List (NodeId × NodeId)) := do
  let nodes ← modifyGet fun b => (b.nodes, { b with nodes := #[] })
  let (es, nodes) ← (Merging.entries greatestCalls id).run nodes
  modify fun b => { b with nodes }
  es.forM fun (key, value) => do
    lookAtKey key
    discard (look value)
  return es

/-- The only entries of the mappings that a sequence holds, looked at. -/
def onlyEntries (id : NodeId) : Build (List (NodeId × NodeId)) := do
  match (← get).nodes.items? id with
  | none => throw .malformed
  | some is =>
    is.mapM fun i => do
      match (← get).nodes.entries? i with
      | some [(key, value)] =>
        discard (look key)
        discard (look value)
        return (key, value)
      | _ => throw .malformed

/-- What is known of a node when it is opened. -/
def opened (id : NodeId) : Build Sketch := do
  match ← look id with
  | .list _ => return .list (← items id)
  | .map _ => return .map (← entries id)
  | .set _ => return .set (← entries id)
  | .pairs _ => return .pairs (← onlyEntries id)
  | s => return s

def openNode (id : NodeId) : Build Unit := do
  let s ← opened id
  modify fun b => { b with sketches := b.sketches.setIfInBounds id (some s) }

/-- Opens the collections that wait, and then those that have come to wait, until none waits. -/
def openAll : (fuel : Nat) → Build Unit
  | 0 => throw .malformed
  | n + 1 => do
    match (← get).waiting with
    | [] => return
    | ids =>
      modify fun b => { b with waiting := [] }
      ids.reverse.forM openNode
      openAll n

end Build

/-! ## Putting values together -/

namespace Sketch

/-- Whether two keys are the same. A node is the same key as itself. -/
def sameKey (sketches : Array (Option Sketch)) (k l : NodeId) : Bool :=
  k == l ||
    match sketches.getD k none, sketches.getD l none with
    | some .nan, some .nan => true
    | some (.scalar v), some (.scalar w) => Value.sameKey v w
    | _, _ => false

/-- Entries with equal keys merged: the key of the first with the value of the last. -/
def mergeKeys (sketches : Array (Option Sketch)) (entries : List (NodeId × NodeId)) :
    List (NodeId × NodeId) :=
  entries.foldl (fun es e => Value.insertBy (sameKey sketches e.1) e.1 e.2 es) []

/-- The value of a node, given those of its parts. -/
def value (sketches : Array (Option Sketch)) (part : NodeId → Option Value) :
    Sketch → Option Value
  | .scalar v => some v
  | .nan => some (.float .nan)
  | .list items => (items.mapM part).map .list
  | .map entries => ((mergeKeys sketches entries).mapM pair).map .map
  | .set entries => ((mergeKeys sketches entries).mapM fun e => part e.1).map .set
  | .pairs entries => (entries.mapM pair).map fun es => .list (es.map fun e => .tuple [e.1, e.2])
where
  pair (e : NodeId × NodeId) : Option (Value × Value) := do return (← part e.1, ← part e.2)

/-- Gives values to nodes in the order of their places, those after a node as they were before. What
is known of no node counts as null. -/
def round (sketches : Array (Option Sketch)) (before : Array (Option Value)) :
    Array (Option Value) :=
  sketches.foldl (fun vs s =>
    let part (id : NodeId) := vs.getD id (before.getD id (some .null))
    vs.push ((s.map (value sketches part)).getD (some .null))) #[]

/-- The value of a node as soon as it has one. -/
def valueWithin (sketches : Array (Option Sketch)) (id : NodeId) :
    (rounds : Nat) → (before : Array (Option Value)) → Option Value
  | 0, before => before.getD id (some .null)
  | n + 1, before =>
    match before.getD id (some .null) with
    | some v => some v
    | none => valueWithin sketches id n (round sketches before)

end Sketch

/-- The value of a document, which has one unless a node stands inside itself. -/
def Document.value (d : Document) : Except Fault Value := do
  let size := d.nodes.size
  let build : Build Unit := do
    discard (Build.look d.root)
    Build.openAll (size + 1)
  let ((), b) ← build.run ⟨d.nodes, Array.replicate size none, []⟩
  match Sketch.valueWithin b.sketches d.root (size + 1) (Array.replicate b.sketches.size none) with
  | some v => return v
  | none => throw (.beyond .knot)

/-- The value of a text in YAML, null for a text without a document. -/
def read (text : String) : Except Fault Value := do
  let (tokens, fault) := Token.ofText text.toList
  match ← Document.ofTokens tokens (fault.getD .malformed) with
  | none => return .null
  | some d =>
    let v ← d.value
    if tokens.any Token.isTorn then throw (.beyond .halfPair) else return v

end Firewall.Yaml
