import ReferenceAudit.Collection

/-! # Reading the items of a project -/
namespace ReferenceAudit.Items

def member (members : List (String × Json)) (name : String) : Setting :=
  ((members.lookup name).map Setting.ofJson).getD .null

/-- An entry of a map that is written as a pair of values. -/
def entryOf (index : Nat) (v : Setting) : Except Fault (Setting × Setting) := do
  match ← v.members with
  | [key, value] => if key.isKey then return (key, value) else throw key.notKey
  | parts => throw (.pairLength index parts.length)

/-- Metadata are a map, or the pairs of one; what counts as false is an empty one. -/
def metadataEntries (v : Setting) : Except Fault (List (Setting × Setting)) :=
  if !v.isTruthy then .ok []
  else match v with
    | .map entries => .ok entries
    | v => do (← v.members).zipIdx.mapM fun (pair, index) => entryOf index pair

/-- The entries with names, the last one first. -/
def named (entries : List (Setting × Setting)) : List (String × Setting) :=
  (entries.filterMap fun e => match e.1 with
    | .text name => some (name, e.2)
    | _ => none).reverse

def itemOf (v : Setting) : Except Fault Item :=
  match v with
  | .map entries => do
    let fields := named entries
    match fields.lookup "spec" with
    | none => throw (.memberMissing "spec")
    | some spec => return ⟨spec, named (← metadataEntries ((fields.lookup "metadata").getD .null))⟩
  | v => .error (.wrongType ("'" ++ v.typeWord ++ "' object is not subscriptable"))

/-- A list of items; what counts as false is an empty one. -/
def itemsOf (v : Setting) : Except Fault (List Item) :=
  if v.isTruthy then do (← v.members).mapM itemOf else .ok []

/-- The members of a set; what counts as false is an empty one. -/
def setOf (v : Setting) : Except Fault (List Setting) :=
  if v.isTruthy then do (← v.members).mapM fun m => if m.isKey then .ok m else .error m.notKey
  else .ok []

def ofJson : Json → Except Fault Items
  | .object members => do
    let references ← itemsOf (member members "references")
    let resolved ← itemsOf (member members "resolved_references")
    let projects ← itemsOf (member members "project_references")
    let packages ← itemsOf (member members "package_references")
    let assemblies ← setOf (member members "framework_assemblies")
    return ⟨references, resolved, projects, packages, assemblies, member members "package_root"⟩
  | v => .error ((Setting.ofJson v).lacks "get")

def parse (text : String) : Except Fault Items :=
  match Json.parse text with
  | .error fault => .error (.ofJson fault)
  | .ok v => ofJson v

def load (d : Disk) (path : Path) : Except Fault Items := do
  let bytes ← d.read path
  match Text.Utf8.decode bytes with
  | .error fault => throw (.badEncoding fault)
  | .ok s => parse (String.ofList (Text.unifyNewlines s.toList))

end ReferenceAudit.Items
