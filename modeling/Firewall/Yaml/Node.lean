import Firewall.Yaml.Fault
import Firewall.Yaml.Tag

/-!
# Nodes

A document is a table of nodes: scalars, sequences and mappings, each with its type. A node refers
to its parts by their places in the table. An alias is the place of the node with its anchor, so
that a node may be a part of several others, or of itself, and is still one node.
-/

namespace Firewall.Yaml

/-- The place of a node in the table of its document. -/
abbrev NodeId := Nat

/-- What a node is made of. -/
inductive Content where
  | scalar (text : String)
  | sequence (items : List NodeId)
  | mapping (entries : List (NodeId × NodeId))
  deriving DecidableEq, Repr

def Content.isMapping : Content → Bool
  | .mapping _ => true
  | _ => false

/-- The same content with its parts at other places. -/
def Content.relocate (place : NodeId → NodeId) : Content → Content
  | .scalar text => .scalar text
  | .sequence items => .sequence (items.map place)
  | .mapping entries => .mapping (entries.map fun e => (place e.1, place e.2))

structure Node where
  tag : Tag
  content : Content
  deriving DecidableEq, Repr

def Node.missing : Node := ⟨.null, .scalar ""⟩

/-- A table of nodes. -/
abbrev Nodes := Array Node

namespace Nodes

def tag? (ns : Nodes) (id : NodeId) : Option Tag := ns[id]?.map (·.tag)

/-- The items of a sequence; no other node has any. -/
def items? (ns : Nodes) (id : NodeId) : Option (List NodeId) :=
  match ns[id]? with
  | some ⟨_, .sequence items⟩ => some items
  | _ => none

/-- The entries of a mapping; no other node has any. -/
def entries? (ns : Nodes) (id : NodeId) : Option (List (NodeId × NodeId)) :=
  match ns[id]? with
  | some ⟨_, .mapping entries⟩ => some entries
  | _ => none

/-- The text of a node that stands for a scalar: a scalar, or a mapping by its default value. -/
def scalarText (ns : Nodes) : (calls : Nat) → NodeId → Except Fault String
  | 0, _ => .error .tooDeep
  | n + 1, id =>
    match ns[id]? with
    | some ⟨_, .scalar text⟩ => .ok text
    | some ⟨_, .mapping entries⟩ =>
      match entries.find? fun e => ns.tag? e.1 = some .value with
      | some (_, value) => ns.scalarText n value
      | none => .error .malformed
    | _ => .error .malformed

def retag (ns : Nodes) (id : NodeId) (tag : Tag) : Nodes :=
  ns.modify id fun n => { n with tag }

def setEntries (ns : Nodes) (id : NodeId) (entries : List (NodeId × NodeId)) : Nodes :=
  ns.modify id fun n => { n with content := .mapping entries }

end Nodes

/-- A document: its nodes, and the place of the outermost. -/
structure Document where
  nodes : Nodes
  root : NodeId

end Firewall.Yaml
