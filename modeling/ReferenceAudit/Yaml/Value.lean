import ReferenceAudit.Yaml.Leaf
import ReferenceAudit.Yaml.Node

/-! # The values that YAML documents stand for

Scalars are read when they are met. The contents of collections are read later, in the order in which the
collections were met, so that a collection may stand in itself; of several faults the first one met is told.
-/
namespace ReferenceAudit.Yaml

/-- The value of a node. Keys stand for themselves; the other members of a collection go by their nodes. -/
inductive Part
  | leaf (v : Setting)
  | list (items : List Nat)
  | pairs (items : List (Nat × Nat))
  | map (entries : List (Setting × Nat))
  | set (members : List Setting)

/-- A document with the values of its nodes. -/
structure Document where
  parts : Array (Option Part)
  top : Nat

namespace Document

/-- How far the reading has come: the nodes with their tags and entries as they are by now, the values, and the
collections in the order in which they were met. -/
structure State where
  nodes : Array Node
  parts : Array (Option Part)
  met : Array Nat

abbrev Building := StateT State Reading

def fail {α : Type} : Building α := throw .yaml

def tagAt (nodes : Array Node) (id : Nat) : Option Tag := nodes[id]?.map Node.tag

/-- The text of a scalar, or the one that is found in a mapping under an equals sign. -/
def textOf (nodes : Array Node) : Nat → Nat → Reading String
  | 0, _ => .error .endless
  | fuel + 1, id => match nodes[id]? with
    | some (.scalar _ text) => .ok text
    | some (.map _ entries) => match entries.find? fun e => tagAt nodes e.1 == some .value with
      | some e => textOf nodes fuel e.2
      | none => refuse
    | _ => refuse

def setEntries (id : Nat) (entries : List (Nat × Nat)) : Building Unit :=
  modify fun s => { s with nodes := s.nodes.modify id fun n => match n with
    | .map tag _ => .map tag entries
    | n => n }

/-- As a key, an equals sign is a text like any other. -/
def retag (key : Nat) : Building Unit :=
  modify fun s => { s with nodes := s.nodes.modify key fun n => match n with
    | .scalar .value text => .scalar .str text
    | .seq .value items => .seq .str items
    | .map .value entries => .map .str entries
    | n => n }

def entriesOf (id : Nat) : Building (List (Nat × Nat)) := do
  match (← get).nodes[id]? with
  | some (.map _ entries) => return entries
  | _ => fail

/-- Puts the entries of the mappings that are merged into a mapping in front of its own ones; of several
mappings the last one comes first. Each call takes one mark away, which bounds the depth. -/
def flatten : Nat → Nat → Building Unit
  | 0, _ => fail
  | fuel + 1, id => do
    let entries ← entriesOf id
    let nodes := (← get).nodes
    let isMerge (e : Nat × Nat) := tagAt nodes e.1 == some .merge
    match entries.find? isMerge with
    | none => entries.forM fun e => retag e.1
    | some e => do
      setEntries id (entries.eraseP isMerge)
      let flattened (id : Nat) : Building (List (Nat × Nat)) := do
        flatten fuel id
        entriesOf id
      let merged ← match nodes[e.2]? with
        | some (.map ..) => flattened e.2
        | some (.seq _ items) => (·.reverse.flatten) <$> items.mapM flattened
        | _ => fail
      flatten fuel id
      setEntries id (merged ++ (← entriesOf id))

def setPart (id : Nat) (p : Part) : Building Unit :=
  modify fun s => { s with parts := s.parts.setIfInBounds id (some p) }

/-- What is known of a value before its contents are read. -/
def start (s : State) (id : Nat) : Reading Part :=
  match tagAt s.nodes id with
  | some .seq => .ok (.list [])
  | some .omap | some .pairs => .ok (.pairs [])
  | some .map => .ok (.map [])
  | some .set => .ok (.set [])
  | some tag => do
    if [Tag.null, .bool, .int, .float, .binary, .timestamp, .str].contains tag then
      return .leaf (← Leaf.read tag (← textOf s.nodes (s.nodes.size + 1) id))
    else refuse
  | none => refuse

/-- The value of a node; a collection that was not met before is noted. -/
def meet (id : Nat) : Building Part := do
  let s ← get
  match s.parts[id]? with
  | some (some p) => return p
  | _ =>
    let p ← start s id
    setPart id p
    match p with
    | .leaf _ => return p
    | _ =>
      modify fun s => { s with met := s.met.push id }
      return p

/-- The number that a key is, where numbers and truth values are one kind of key. -/
def keyNumber? : Setting → Option Int
  | .bool b => some (if b then 1 else 0)
  | .integer n => some n
  | .decimal d => match d.whole with
    | .whole n => some n
    | _ => none
  | _ => none

def sameKey (a b : Setting) : Bool :=
  match a, b with
  | .text s, .text t => s == t
  | .bytes s, .bytes t => s == t
  | .null, .null => true
  | .decimal d, .decimal e => d == e
  | a, b => (keyNumber? a).isSome && keyNumber? a == keyNumber? b

/-- A repeated key keeps the place of its first entry and takes the value of its last. -/
def put (entries : List (Setting × Nat)) (key : Setting) (value : Nat) : List (Setting × Nat) :=
  if entries.any fun e => sameKey e.1 key then
    entries.map fun e => if sameKey e.1 key then (e.1, value) else e
  else entries ++ [(key, value)]

def keyOf (id : Nat) : Building Setting := do
  match ← meet id with
  | .leaf v => return v
  | _ => fail

/-- The entries of a mapping once others have been merged into it. -/
def mapEntries (id : Nat) : Building (List (Setting × Nat)) := do
  let all := (← get).nodes.foldl (fun n node => match node with
    | .map _ entries => n + entries.length
    | _ => n) 0
  flatten (all + 1) id
  (← entriesOf id).foldlM (fun acc e => do
    let key ← keyOf e.1
    let _ ← meet e.2
    return put acc key e.2) []

def itemsOf (id : Nat) : Building (List Nat) := do
  match (← get).nodes[id]? with
  | some (.seq _ items) => return items
  | _ => fail

/-- The one entry of a mapping. -/
def pairOf (id : Nat) : Building (Nat × Nat) := do
  match ← entriesOf id with
  | [e] =>
    let _ ← meet e.1
    let _ ← meet e.2
    return e
  | _ => fail

/-- Reads the contents of a collection. -/
def fill (id : Nat) : Building Unit := do
  match (← get).parts[id]? with
  | some (some (.list _)) =>
    let items ← itemsOf id
    items.forM fun item => do let _ ← meet item
    setPart id (.list items)
  | some (some (.pairs _)) => setPart id (.pairs (← (← itemsOf id).mapM pairOf))
  | some (some (.map _)) => setPart id (.map (← mapEntries id))
  | some (some (.set _)) => setPart id (.set ((← mapEntries id).map Prod.fst))
  | _ => return ()

/-- Reads the contents of the collections from the `k`th one met on. No more are met than there are nodes. -/
def fillFrom : Nat → Nat → Building Unit
  | 0, _ => return ()
  | fuel + 1, k => do
    match (← get).met[k]? with
    | none => return ()
    | some id => do
      fill id
      fillFrom fuel (k + 1)

def ofGraph (g : Graph) : Reading Document := do
  let build : Building Unit := do
    let _ ← meet g.top
    fillFrom (g.nodes.size + 1) 0
  let (_, s) ← build.run ⟨g.nodes, Array.replicate g.nodes.size none, #[]⟩
  return ⟨s.parts, g.top⟩

/-- A value with all that is in it. A collection that stands in itself is gone into a second time, and is empty
where it comes up again. -/
def unrolled (d : Document) : Nat → List Nat → Nat → Setting
  | 0, _, _ => .null
  | fuel + 1, above, id =>
    let inner := unrolled d fuel (id :: above)
    let isOpen := above.count id < 2
    match d.parts[id]? with
    | some (some (.leaf v)) => v
    | some (some (.list items)) => .list (if isOpen then items.map inner else [])
    | some (some (.pairs items)) => .list (if isOpen then items.map fun (a, b) => .pair (inner a) (inner b) else [])
    | some (some (.map entries)) => .map (if isOpen then entries.map fun (k, v) => (k, inner v) else [])
    | some (some (.set members)) => .set members
    | _ => .null

def setting (d : Document) (id : Nat) : Setting := d.unrolled (2 * d.parts.size + 2) [] id

/-- The value on top. In a map, what stands under keys that are not wanted is left out. -/
def topSetting (d : Document) (wanted : Setting → Bool) : Setting :=
  match d.parts[d.top]? with
  | some (some (.map entries)) => .map (entries.map fun (k, v) => (k, if wanted k then d.setting v else .null))
  | _ => d.setting d.top

end Document

/-- The value that a text holds; an empty text holds nothing. In a map on top, what stands under keys that are
not wanted is left out. -/
def read (wanted : Setting → Bool) (s : String) : Reading Setting := do
  match ← Graph.parse s with
  | none => return .null
  | some g => return (← Document.ofGraph g).topSetting wanted

end ReferenceAudit.Yaml
