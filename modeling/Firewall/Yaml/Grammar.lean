import Firewall.Yaml.Fault
import Firewall.Yaml.Node
import Firewall.Yaml.Token

/-!
# Grammar

Reads the one document of a text from its tokens. A node gets its place in the table when it ends,
after its parts; an anchor is taken when its node begins. An alias inside the node with its anchor
gets a place of its own, which is that node's in the end.
-/

namespace Firewall.Yaml

/-- The tokens still to be read, the fault that follows the last of them, the expansions of handles,
the nodes so far, the anchors with the nodes that have ended, the places of aliases of others, and
the number of open collections. -/
structure Reading where
  tokens : List Token
  fault : Fault
  handles : List (String × String)
  nodes : Nodes
  anchors : List (String × Option NodeId)
  knots : List (NodeId × String)
  depth : Nat

abbrev Read := StateT Reading (Except Fault)

namespace Read

/-- Fails: the tokens do not fit the grammar. -/
def refuse {α : Type} : Read α := throw .malformed

/-- The next token. -/
def peek : Read Token := do
  let r ← get
  match r.tokens with
  | t :: _ => return t
  | [] => throw r.fault

/-- Moves past the next token. -/
def skip : Read Unit := modify fun r => { r with tokens := r.tokens.tail }

/-- Moves past the next token if it is `t`, and tells whether it was. -/
def take? (t : Token) : Read Bool := do
  if (← peek) = t then
    skip
    return true
  else return false

/-- Moves past the next token, which must be `t`. -/
def expect (t : Token) : Read Unit := do if !(← take? t) then refuse

/-! ### Tags and anchors -/

/-- The name of a tag that is written with a handle. -/
def tagName : WrittenTag → Read String
  | .whole name => return name
  | .short handle suffix => do
    match (← get).handles.lookup handle with
    | some expansion => return expansion ++ suffix
    | none => refuse

/-- What is written in front of a node. -/
structure Properties where
  anchor : Option String
  tag : Option String

def anchor? : Read (Option String) := do
  match ← peek with
  | .anchor name =>
    skip
    return some name
  | _ => return none

def tag? : Read (Option WrittenTag) := do
  match ← peek with
  | .tag t =>
    skip
    return some t
  | _ => return none

def properties : Read Properties := do
  let first ← anchor?
  let tag ← tag?
  let anchor ← match first, tag with
    | none, some _ => anchor?
    | _, _ => pure first
  let name ← match tag with
    | some t => some <$> tagName t
    | none => pure none
  return ⟨anchor, name⟩

def Properties.isEmpty (p : Properties) : Bool := p.anchor.isNone && p.tag.isNone

/-- The type of a collection; a lone exclamation mark does not change it. -/
def Properties.tagOr (p : Properties) (standard : Tag) : Tag :=
  match p.tag with
  | none => standard
  | some "!" => standard
  | some name => Tag.ofName name

/-- The type of a scalar: a plain one has that of its form, as has one after a lone exclamation
mark. -/
def Properties.scalarTag (p : Properties) (text : String) (plain : Bool) : Tag :=
  match p.tag with
  | none => if plain then Tag.ofPlain text else .str
  | some "!" => Tag.ofPlain text
  | some name => Tag.ofName name

/-! ### Nodes -/

/-- Takes the anchor of a node that begins; it must be new. -/
def claim (p : Properties) : Read Unit := do
  match p.anchor with
  | none => return
  | some name =>
    if ((← get).anchors.lookup name).isSome then refuse
    else modify fun r => { r with anchors := (name, none) :: r.anchors }

/-- Gives a node its place. -/
def add (n : Node) : Read NodeId := do
  let id := (← get).nodes.size
  modify fun r => { r with nodes := r.nodes.push n }
  return id

/-- Gives a node its place, to which its anchor leads from now on. -/
def addAnchored (p : Properties) (n : Node) : Read NodeId := do
  let id ← add n
  match p.anchor with
  | none => return id
  | some name =>
    modify fun r => { r with anchors := (name, some id) :: r.anchors }
    return id

/-- The node that an alias stands for, or a place for it if it has not ended. -/
def aliased (name : String) : Read NodeId := do
  match (← get).anchors.lookup name with
  | some (some id) => return id
  | some none =>
    let id ← add .missing
    modify fun r => { r with knots := (id, name) :: r.knots }
    return id
  | none => refuse

/-- The greatest number of collections around a node, which take two calls each. -/
def greatestDepth : Nat := greatestCalls / 2

/-- Reads what stands inside a collection. -/
def inside {α : Type} (content : Read α) : Read α := do
  let depth := (← get).depth
  if greatestDepth ≤ depth then throw .tooDeep
  modify fun r => { r with depth := depth + 1 }
  let a ← content
  modify fun r => { r with depth }
  return a

def scalar (p : Properties) (text : String) (plain : Bool) : Read NodeId := do
  claim p
  addAnchored p ⟨p.scalarTag text plain, .scalar text⟩

/-- Adds the scalar of a node that is left out. -/
def missing : Read NodeId := add .missing

def sequence (p : Properties) (items : Read (List NodeId)) : Read NodeId := do
  claim p
  let items ← inside items
  addAnchored p ⟨p.tagOr .seq, .sequence items⟩

/-- Reads a mapping with the given way to read its entries. -/
def mapping (p : Properties) (entries : Read (List (NodeId × NodeId))) : Read NodeId := do
  claim p
  let entries ← inside entries
  addAnchored p ⟨p.tagOr .map, .mapping entries⟩

/-! ### Places -/

/-- The place where a node stands: in a flow collection, in a block, or as a key or value of a block
mapping, where a sequence need not be indented. -/
inductive Place where
  | flow
  | block
  | mappingBlock
  deriving DecidableEq

def endsBlockEntry (t : Token) : Bool := t = .key || t = .value || t = .blockEnd

mutual

def node : (fuel : Nat) → Place → Read NodeId
  | 0, _ => refuse
  | n + 1, place => do
    match ← peek with
    | .alias name =>
      skip
      aliased name
    | _ =>
      let p ← properties
      match ← peek, place with
      | .blockEntry, .mappingBlock => sequence p (openSequence n)
      | .scalar text plain _, _ => do
        skip
        scalar p text plain
      | .flowSequenceStart, _ => do
        skip
        sequence p (flowSequence n true)
      | .flowMappingStart, _ => do
        skip
        mapping p (flowMapping n true)
      | .blockSequenceStart, .block | .blockSequenceStart, .mappingBlock => do
        skip
        sequence p (blockSequence n)
      | .blockMappingStart, .block | .blockMappingStart, .mappingBlock => do
        skip
        mapping p (blockMapping n)
      | _, _ => if p.isEmpty then refuse else scalar p "" true

/-- Reads a node, or nothing before a token that ends it. -/
def nodeUnless : (fuel : Nat) → Place → (Token → Bool) → Read NodeId
  | 0, _, _ => refuse
  | n + 1, place, ends => do if ends (← peek) then missing else node n place

def blockSequence : (fuel : Nat) → Read (List NodeId)
  | 0 => refuse
  | n + 1 => do
    if ← take? .blockEntry then
      let item ← nodeUnless n .block fun t => t = .blockEntry || t = .blockEnd
      return item :: (← blockSequence n)
    else
      expect .blockEnd
      return []

/-- Reads the entries of a sequence that no token of its own ends. -/
def openSequence : (fuel : Nat) → Read (List NodeId)
  | 0 => refuse
  | n + 1 => do
    if ← take? .blockEntry then
      let item ← nodeUnless n .block fun t => t = .blockEntry || endsBlockEntry t
      return item :: (← openSequence n)
    else return []

def blockMapping : (fuel : Nat) → Read (List (NodeId × NodeId))
  | 0 => refuse
  | n + 1 => do
    if ← take? .key then
      let key ← nodeUnless n .mappingBlock endsBlockEntry
      let value ← if ← take? .value then nodeUnless n .mappingBlock endsBlockEntry else missing
      return (key, value) :: (← blockMapping n)
    else
      expect .blockEnd
      return []

/-- Reads the value of an entry in a flow collection that `close` ends. -/
def flowValue : (fuel : Nat) → (close : Token) → Read NodeId
  | 0, _ => refuse
  | n + 1, close => do
    if ← take? .value then nodeUnless n .flow fun t => t = .flowEntry || t = close else missing

/-- Reads an entry with a marked key in a flow collection that `close` ends. -/
def flowEntry : (fuel : Nat) → (close : Token) → Read (NodeId × NodeId)
  | 0, _ => refuse
  | n + 1, close => do
    let key ← nodeUnless n .flow fun t => t = .value || t = .flowEntry || t = close
    let value ← flowValue n close
    return (key, value)

/-- Reads the items of a flow sequence; commas separate them and may follow the last. An entry of a
mapping is an item of its own. -/
def flowSequence : (fuel : Nat) → (first : Bool) → Read (List NodeId)
  | 0, _ => refuse
  | n + 1, first => do
    if ← take? .flowSequenceEnd then return []
    if !first then expect .flowEntry
    if ← take? .flowSequenceEnd then return []
    let item ←
      if ← take? .key then
        mapping ⟨none, none⟩ (do return [← flowEntry n .flowSequenceEnd])
      else node n .flow
    return item :: (← flowSequence n false)

/-- Reads the entries of a flow mapping; commas separate them and may follow the last. An item
without a value is a key. -/
def flowMapping : (fuel : Nat) → (first : Bool) → Read (List (NodeId × NodeId))
  | 0, _ => refuse
  | n + 1, first => do
    if ← take? .flowMappingEnd then return []
    if !first then expect .flowEntry
    if ← take? .flowMappingEnd then return []
    let entry ←
      if ← take? .key then flowEntry n .flowMappingEnd
      else
        let key ← node n .flow
        pure (key, ← missing)
    return entry :: (← flowMapping n false)

end

/-! ### Documents -/

def standardHandles : List (String × String) := [("!", "!"), ("!!", Tag.standardNames)]

/-- Reads the instructions in front of a document: at most one version, and every handle once. -/
def instructions : (fuel : Nat) → (versioned : Bool) → (handles : List (String × String)) →
    Read (List (String × String))
  | 0, _, _ => refuse
  | n + 1, versioned, handles => do
    match ← peek with
    | .instruction i =>
      skip
      match i with
      | .version major _ => if versioned || major ≠ 1 then refuse else instructions n true handles
      | .handle handle expansion =>
        if (handles.lookup handle).isSome then refuse
        else instructions n versioned ((handle, expansion) :: handles)
      | .other => instructions n versioned handles
    | _ => return handles

/-- Moves past the marks that end documents. -/
def skipEnds : (fuel : Nat) → Read Unit
  | 0 => refuse
  | n + 1 => do if ← take? .documentEnd then skipEnds n

/-- Reads a document that a mark starts, with the instructions before it. -/
def explicitDocument (fuel : Nat) : Read NodeId := do
  let handles ← instructions fuel false []
  modify fun r => { r with handles := handles ++ standardHandles }
  expect .documentStart
  match ← peek with
  | .instruction _ | .documentStart | .documentEnd | .streamEnd => missing
  | _ => node fuel .block

/-- Ends the text. A second document is a fault that comes after those of its instructions. -/
def finish (fuel : Nat) : Read Unit := do
  if !(← take? .streamEnd) then
    let _ ← instructions fuel false []
    refuse

def document? (fuel : Nat) : Read (Option NodeId) := do
  let id ← match ← peek with
    | .streamEnd => return none
    | .instruction _ | .documentStart => explicitDocument fuel
    | _ => node fuel .block
  skipEnds fuel
  finish fuel
  return some id

end Read

/-- The place of the node that is meant by a place. -/
def Reading.placeOf (r : Reading) (id : NodeId) : NodeId :=
  match r.knots.lookup id with
  | some name => ((r.anchors.lookup name).join).getD id
  | none => id

/-- The nodes, with the places of aliases resolved. -/
def Reading.resolved (r : Reading) : Nodes :=
  if r.knots.isEmpty then r.nodes
  else r.nodes.map fun n => { n with content := n.content.relocate r.placeOf }

/-- The one document that the tokens of a text hold, if they hold one; `fault` follows the last
token. -/
def Document.ofTokens (tokens : List Token) (fault : Fault) : Except Fault (Option Document) := do
  let (root, r) ← (Read.document? (4 * tokens.length + 8)).run
    ⟨tokens, fault, Read.standardHandles, #[], [], [], 0⟩
  return root.map fun root => ⟨r.resolved, root⟩

end Firewall.Yaml
