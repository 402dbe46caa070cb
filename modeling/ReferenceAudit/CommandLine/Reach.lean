import ReferenceAudit.CommandLine.Commands

/-! # The paths that a run may look at

A run works on a disk that holds what it looks at. What that is follows from the arguments, and from the
files that are already on the disk.
-/
namespace ReferenceAudit.CommandLine.Reach

/-- What an argument may name: itself, what follows `=` in it, and what follows a short name. -/
def named (argument : String) : List String :=
  let cs := argument.toList
  [argument, String.ofList ((cs.dropWhile (· != '=')).drop 1), String.ofList (cs.drop 2)]

def besides (path : String) : List String :=
  let directory := (Path.ofString path).parent
  [(directory.child Store.usedFileName).text, (directory.child Store.unusedFileName).text]

def ofArguments (d : Disk) (args : List String) : List String :=
  let paths := Store.referencesFileName :: args.flatMap named
  (d.here.child Store.configFileName).text :: (paths ++ paths.flatMap besides)

def ofItem (i : Item) : List String :=
  [i.spec, i.get "HintPath"].filterMap fun v => match v with
    | .text path => some path
    | _ => none

def ofManifest (m : Manifest) : List String :=
  m.targets.values.flatMap fun target =>
    (PackageGraph.packageEntries target).flatMap fun e =>
      let (id, version) := PackageGraph.idAndVersion e.1
      m.folders.map fun folder => Path.joinText folder (PackageGraph.relativeDirectory m id version)

/-- What a file names, if it holds items or a manifest. -/
def ofFile (d : Disk) (loc : Location) : List String :=
  let path : Path := ⟨.single, loc⟩
  let items := match Items.load d path with
    | .ok items => items.references.flatMap ofItem
    | .error _ => []
  let folders := match Manifest.load d path with
    | .ok m => ofManifest m
    | .error _ => []
  items ++ folders

def ofDisk (d : Disk) : List String := d.entries.flatMap fun e => match e.2 with
  | .file .. => ofFile d e.1
  | .directory => []

/-- The places that a path leads through, and the one that it leads to. -/
def places (d : Disk) (path : String) : List Location :=
  let components := Text.splitOn '/' path
  (List.range (components.length + 1)).flatMap fun count =>
    let loc := d.lexical (Text.join "/" (components.take count))
    (List.range (loc.length + 1)).map loc.take

end ReferenceAudit.CommandLine.Reach
