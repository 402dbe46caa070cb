import ReferenceAudit.Yaml.Tag
import ReferenceAudit.Yaml.Token

/-! # The nodes of a YAML document: scalars, sequences and mappings with their tags

A document is a graph: an alias is another name of the node that has its anchor, and a collection may stand in
itself. Nodes go by their numbers.
-/
namespace ReferenceAudit.Yaml

inductive Node
  | scalar (tag : Tag) (text : String)
  | seq (tag : Tag) (items : List Nat)
  | map (tag : Tag) (entries : List (Nat × Nat))
  deriving DecidableEq, Repr

def Node.tag : Node → Tag
  | scalar tag _ | seq tag _ | map tag _ => tag

/-- A document: all its nodes, and the number of the one on top. -/
structure Graph where
  nodes : Array Node
  top : Nat

namespace Graph

structure State where
  scanner : Token.Scanner
  anchors : List (String × Nat)
  handles : List (String × String)
  nodes : Array Node
  /-- How many collections may still be opened in each other. -/
  levels : Nat

abbrev Parsing := StateT State Reading

def fail {α : Type} : Parsing α := throw .yaml

def peek : Parsing (Option Token) := do
  let s ← get
  let scanner ← s.scanner.ready
  set { s with scanner }
  return scanner.tokens.head?

def advance : Parsing Unit := modify fun s => { s with scanner := s.scanner.advance }

/-- Takes a token if it comes next. -/
def accept (t : Token) : Parsing Bool := do
  if (← peek) == some t then
    advance
    return true
  else return false

def expect (t : Token) : Parsing Unit := do
  unless ← accept t do fail

def nextIsOneOf (ts : List Token) : Parsing Bool := return (← peek).any ts.contains

/-- What is written in front of a node. -/
structure Properties where
  anchor : Option String
  tag : Option String

def acceptAnchor : Parsing (Option String) := do
  match ← peek with
  | some (.anchor name) =>
    advance
    return some name
  | _ => return none

def acceptTag : Parsing (Option (Option String × String)) := do
  match ← peek with
  | some (.tag handle rest) =>
    advance
    return some (handle, rest)
  | _ => return none

/-- A tag with its handle written out. -/
def expanded : Option (Option String × String) → Parsing (Option String)
  | none => return none
  | some (none, rest) => return some rest
  | some (some handle, rest) => do
    match (← get).handles.lookup handle with
    | some expansion => return some (expansion ++ rest)
    | none => fail

def properties : Parsing Properties := do
  let anchor ← acceptAnchor
  let tag ← acceptTag
  let anchor ← if anchor.isNone then acceptAnchor else pure anchor
  return ⟨anchor, ← expanded tag⟩

def collectionTag (p : Properties) (default : Tag) : Tag := match p.tag with
  | none | some "!" => default
  | some uri => .ofUri uri

def scalarTag (p : Properties) (text : String) (plain : Bool) : Tag := match p.tag with
  | none => if plain then .ofPlain text else .str
  | some "!" => .ofPlain text
  | some uri => .ofUri uri

def add (n : Node) : Parsing Nat := do
  let s ← get
  set { s with nodes := s.nodes.push n }
  return s.nodes.size

/-- A new node under its anchor; an anchor may be set once. -/
def start (p : Properties) (n : Node) : Parsing Nat := do
  match p.anchor with
  | none => add n
  | some name =>
    if ((← get).anchors.lookup name).isSome then fail
    let id ← add n
    modify fun s => { s with anchors := (name, id) :: s.anchors }
    return id

def put (id : Nat) (n : Node) : Parsing Unit := modify fun s => { s with nodes := s.nodes.setIfInBounds id n }

def startScalar (p : Properties) (text : String) (plain : Bool) : Parsing Nat :=
  start p (.scalar (scalarTag p text plain) text)

/-- So many collections may be open at once. -/
def mostLevels : Nat := 485

/-- What stands in a collection. -/
def inner {α : Type} (contents : Parsing α) : Parsing α := do
  match (← get).levels with
  | 0 => throw .endless
  | levels + 1 => do
    modify fun s => { s with levels }
    let a ← contents
    modify fun s => { s with levels := levels + 1 }
    return a

/-- A sequence, which is there before its items are. -/
def sequence (p : Properties) (items : Parsing (List Nat)) : Parsing Nat := do
  let tag := collectionTag p .seq
  let id ← start p (.seq tag [])
  put id (.seq tag (← inner items))
  return id

/-- A mapping, which is there before its entries are. -/
def mapping (p : Properties) (entries : Parsing (List (Nat × Nat))) : Parsing Nat := do
  let tag := collectionTag p .map
  let id ← start p (.map tag [])
  put id (.map tag (← inner entries))
  return id

/-- Nothing is a node only behind properties. -/
def emptyNode (p : Properties) : Parsing Nat :=
  if p.anchor.isSome || p.tag.isSome then startScalar p "" true else fail

def empty : Parsing Nat := add (.scalar .null "")

mutual

/-- A node. In a block it may be a block collection; as a mapping's part it may also be a sequence that is not
indented. `fuel` bounds the calls. -/
def node : Nat → Bool → Bool → Parsing Nat
  | 0, _, _ => fail
  | fuel + 1, inBlock, unindented => do
    match ← peek with
    | some (.alias name) =>
      advance
      match (← get).anchors.lookup name with
      | some id => return id
      | none => fail
    | _ =>
      let p ← properties
      match ← peek with
      | some (.scalar text plain) =>
        advance
        startScalar p text plain
      | some .flowSequence => sequence p do
        advance
        flowItems fuel true
      | some .flowMapping => mapping p do
        advance
        flowEntries fuel true
      | some .entry => if unindented then sequence p (unindentedItems fuel) else emptyNode p
      | some .blockSequence =>
        if inBlock then
          sequence p do
            advance
            blockItems fuel
        else emptyNode p
      | some .blockMapping =>
        if inBlock then
          mapping p do
            advance
            blockEntries fuel
        else emptyNode p
      | _ => emptyNode p

/-- A node, or the empty one if one of `ends` comes next. -/
def nodeBefore : Nat → Bool → Bool → List Token → Parsing Nat
  | 0, _, _, _ => fail
  | fuel + 1, inBlock, unindented, ends => do
    if ← nextIsOneOf ends then empty else node fuel inBlock unindented

def blockItems : Nat → Parsing (List Nat)
  | 0 => fail
  | fuel + 1 => do
    if ← accept .entry then
      let item ← nodeBefore fuel true false [.entry, .blockEnd]
      return item :: (← blockItems fuel)
    else
      expect .blockEnd
      return []

def unindentedItems : Nat → Parsing (List Nat)
  | 0 => fail
  | fuel + 1 => do
    if ← accept .entry then
      let item ← nodeBefore fuel true false [.entry, .key, .value, .blockEnd]
      return item :: (← unindentedItems fuel)
    else return []

def blockEntries : Nat → Parsing (List (Nat × Nat))
  | 0 => fail
  | fuel + 1 => do
    if ← accept .key then
      let key ← nodeBefore fuel true true [.key, .value, .blockEnd]
      let value ← if ← accept .value then nodeBefore fuel true true [.key, .value, .blockEnd] else empty
      return (key, value) :: (← blockEntries fuel)
    else
      expect .blockEnd
      return []

def flowItems : Nat → Bool → Parsing (List Nat)
  | 0, _ => fail
  | fuel + 1, first => do
    if ← accept .flowSequenceEnd then return []
    unless first do expect .flowEntry
    if ← accept .key then
      let pair ← mapping ⟨none, none⟩ do
        let key ← nodeBefore fuel false false [.value, .flowEntry, .flowSequenceEnd]
        let value ← if ← accept .value then nodeBefore fuel false false [.flowEntry, .flowSequenceEnd] else empty
        return [(key, value)]
      return pair :: (← flowItems fuel false)
    else if ← accept .flowSequenceEnd then return []
    else
      let item ← node fuel false false
      return item :: (← flowItems fuel false)

def flowEntries : Nat → Bool → Parsing (List (Nat × Nat))
  | 0, _ => fail
  | fuel + 1, first => do
    if ← accept .flowMappingEnd then return []
    unless first do expect .flowEntry
    if ← accept .key then
      let key ← nodeBefore fuel false false [.value, .flowEntry, .flowMappingEnd]
      let value ← if ← accept .value then nodeBefore fuel false false [.flowEntry, .flowMappingEnd] else empty
      return (key, value) :: (← flowEntries fuel false)
    else if ← accept .flowMappingEnd then return []
    else
      let key ← node fuel false false
      let value ← empty
      return (key, value) :: (← flowEntries fuel false)

end

def standardHandles : List (String × String) := [("!", "!"), ("!!", Tag.coreUri)]

/-- Takes the directives of a document: at most one version, and each handle once. -/
def directives : Nat → Bool → List String → Parsing Unit
  | 0, _, _ => fail
  | fuel + 1, versioned, named => do
    match ← peek with
    | some (.directive d) =>
      advance
      match d with
      | .version major =>
        if versioned || major != 1 then fail
        directives fuel true named
      | .tag handle expansion =>
        if named.contains handle then fail
        modify fun s => { s with handles := (handle, expansion) :: s.handles }
        directives fuel versioned (handle :: named)
      | .other => directives fuel versioned named
    | _ => return ()

def isDirective : Option Token → Bool
  | some (.directive _) => true
  | _ => false

def skipDocumentEnds : Nat → Parsing Unit
  | 0 => fail
  | fuel + 1 => do
    if ← accept .documentEnd then skipDocumentEnds fuel

/-- The one document of a stream, if there is one. -/
def document (fuel : Nat) : Parsing (Option Nat) := do
  let first ← peek
  if first == none then return none
  let top ← if isDirective first || first == some .documentStart then
      directives fuel false []
      expect .documentStart
      let next ← peek
      if next == none || isDirective next || next == some .documentStart || next == some .documentEnd then empty
      else node fuel true false
    else node fuel true false
  skipDocumentEnds fuel
  if (← peek) == none then return some top else fail

/-- The document that a text holds; none if it is empty. There are fewer than two tokens to a character. -/
def parse (s : String) : Reading (Option Graph) := do
  let scanner ← Token.Scanner.ofText s
  let (top, state) ← (document (8 * s.toList.length + 16)).run ⟨scanner, [], standardHandles, #[], mostLevels⟩
  return top.map fun top => ⟨state.nodes, top⟩

end Graph
end ReferenceAudit.Yaml
