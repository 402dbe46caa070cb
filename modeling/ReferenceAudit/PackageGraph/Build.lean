import ReferenceAudit.Disk
import ReferenceAudit.PackageGraph

/-! # The package graph of a lock manifest's target -/
namespace ReferenceAudit

/-- What names a module by the path of its file. -/
abbrev ModuleNaming := String → Except Fault String

/-- A module named by its normal absolute path, as a compiler reports it. -/
def ModuleNaming.absolute (here : Path) : ModuleNaming := fun path => .ok (Path.absolute here path)

namespace PackageGraph

def packageEntries (target : OrderedMap TargetLibrary) : List (String × TargetLibrary) :=
  target.entries.filter fun e => Text.fold e.2.type == "package"

/-- An id and a version, parted at the first slash. -/
def idAndVersion (name : String) : String × String :=
  let id := name.toList.takeWhile (· != '/')
  (String.ofList id, String.ofList (name.toList.drop (id.length + 1)))

/-- Where a package lies in a package folder. -/
def relativeDirectory (m : Manifest) (id version : String) : String :=
  let standard := Text.lower id ++ "/" ++ Text.lower version
  match (m.findLibrary? id version).bind (·.path) with
  | none | some "" => standard
  | some path => path

/-- The directory of a package, in the first folder that has it. -/
def directoryOf (d : Disk) (m : Manifest) (id version : String) : Except Fault String :=
  let relative := relativeDirectory m id version
  match (m.folders.map fun folder => Path.joinText folder relative).find? d.isDirectory with
  | some directory => .ok directory
  | none => .error (.packageMissing id version m.folders)

def compileModules (naming : ModuleNaming) (directory : String) (l : TargetLibrary) : Except Fault (List String) :=
  ((l.compile.filter fun a => !Manifest.isPlaceholder a).mapM fun a => naming (Path.joinText directory a)).map
    List.eraseDups

def buildAssets (l : TargetLibrary) : List String := l.build.filter fun a => !Manifest.isPlaceholder a

def isIgnored (ignored : List String) (id : String) : Bool := (ignored.map packageKey).contains (packageKey id)

def buildFilesOf (ignored : List String) (id directory : String) (l : TargetLibrary) : List String :=
  if isIgnored ignored id then []
  else (buildAssets l).map fun a => Path.normalText (Path.joinText directory a)

def packageOf (d : Disk) (m : Manifest) (ignored : List String) (naming : ModuleNaming)
    (e : String × TargetLibrary) : Except Fault Package := do
  let (id, version) := idAndVersion e.1
  let directory ← directoryOf d m id version
  let modules ← compileModules naming directory e.2
  return ⟨id, version, e.2.dependencies.keys, modules, buildFilesOf ignored id directory e.2⟩

def addMember (x : String) (xs : List String) : List String := if x ∈ xs then xs else xs ++ [x]

def addDependent (index : OrderedMap (List String)) (dependency dependent : String) : OrderedMap (List String) :=
  index.insert dependency (addMember dependent (index.getD dependency []))

/-- The dependency edges turned round: every package and every dependency has an entry. -/
def indexOf (packages : OrderedMap Package) : OrderedMap (List String) :=
  packages.entries.foldl
    (fun index e => e.2.dependencies.foldl (fun index d => addDependent index (packageKey d) e.1) index)
    (packages.map fun _ => [])

/-- Of packages with one key, the last one counts. -/
def ofPackages (ps : List Package) : PackageGraph :=
  let packages := OrderedMap.ofList (ps.map fun p => (packageKey p.id, p))
  ⟨packages, indexOf packages⟩

def build (d : Disk) (m : Manifest) (selector : Selector) (ignored : List String) (naming : ModuleNaming) :
    Except Fault PackageGraph :=
  match m.findTarget? selector.targetKey with
  | none => .error (.targetMissing selector.targetKey (Text.sorted m.targets.keys))
  | some target => ((packageEntries target).mapM (packageOf d m ignored naming)).map ofPackages

end PackageGraph
end ReferenceAudit
