import ReferenceAudit.Contributions
import ReferenceAudit.Declaration
import ReferenceAudit.Disk
import ReferenceAudit.Suppression

/-! # Collecting declared references from the items of a project

Each item is declared, or passed over for one reason.
-/
namespace ReferenceAudit

/-- An item of a project: what was written, and its metadata. Both may be of any type. -/
structure Item where
  spec : Setting
  metadata : List (String × Setting)

namespace Item

/-- Metadata that is absent or counts as false is an empty text. -/
def get (i : Item) (name : String) : Setting :=
  match i.metadata.lookup name with
  | some v => if v.isTruthy then v else .text ""
  | none => .text ""

def has (i : Item) (name : String) : Bool := (i.get name).isTruthy

def isTrue (i : Item) (name : String) : Except Fault Bool :=
  match i.get name with
  | .bool b => .ok b
  | v => (v.textFor "strip").map ReferenceAudit.isTrue

/-- Whether the item's own metadata keep diagnostics of a category away. -/
def isSuppressed (i : Item) (c : Category) : Except Fault Bool := do
  let list ← (i.get "NoWarn").textFor "split"
  if noWarnNames list c.id then return true
  i.isTrue "TreatAsUsed"

end Item

structure Items where
  references : List Item
  resolved : List Item
  projects : List Item
  packages : List Item
  frameworkAssemblies : List Setting
  packageRoot : Setting

/-- Why an item is passed over, or the references that it declares. -/
inductive Decision
  | implicit
  | frameworkAssembly
  | ofPackage
  | suppressed
  | underPackageRoot (path : String)
  | noModules
  | hasBuildFiles (count : Nat)
  | declared (xs : List Declaration)

namespace Decision

def declarations : Decision → List Declaration
  | declared xs => xs
  | _ => []

def noModulesReason : String :=
  "it has no compile-time modules (likely an analyzer, tool, or content-only package)"

/-- Why an item is passed over, in words. One that a restore put there is passed over in silence. -/
def reason? : Decision → Option String
  | implicit => some "it is implicitly defined"
  | frameworkAssembly => some "it is a target framework assembly"
  | suppressed => some "it is suppressed"
  | underPackageRoot path =>
    some ("'" ++ path ++ "' is under the package root (likely added by a package's build files)")
  | noModules => some noModulesReason
  | hasBuildFiles count => some ("it has " ++ toString count ++ " build file(s)")
  | ofPackage | declared _ => none

end Decision

namespace Items

/-- The text of a path; only texts are paths. -/
def pathText : Setting → Except Fault String
  | .text s => .ok s
  | v => .error (.wrongType ("a path is a text, not " ++ v.typeWord))

/-- What all references of a project are held against: the folded names of the framework's assemblies, and the
folded text that all paths below the package root start with. -/
structure Scope where
  assemblies : List String
  root : Option String

def rootText (d : Disk) (root : Setting) : Except Fault (Option String) :=
  if root.isTruthy then do
    return some (Text.fold (Path.joinText (Path.absolute d.here (← pathText root)) ""))
  else .ok none

def scope (d : Disk) (items : Items) : Except Fault Scope := do
  let assemblies ← items.frameworkAssemblies.mapM fun v => return Text.fold (← v.textFor "casefold")
  return ⟨assemblies, ← rootText d items.packageRoot⟩

/-- How a reference's spec was resolved to a file. -/
inductive Resolution
  | found (path : Setting)
  | ambiguous (matching : Nat)
  | nowhere

def Resolution.path? : Resolution → Option Setting
  | found path => some path
  | _ => none

def resolvedAs (resolved : List Item) (spec : String) : Except Fault (List Item) :=
  resolved.filterM fun r => do
    return Text.fold (← (r.get "OriginalItemSpec").textFor "casefold") == Text.fold spec

/-- The absolute path of a file, if there is one. No number names a file. -/
def file? (d : Disk) (path : Setting) : Except Fault (Option String) :=
  match path with
  | .integer _ | .bool _ => .ok none
  | v => do
    let path ← pathText v
    return if path ≠ "" && d.isFile path then some (Path.absolute d.here path) else none

/-- The hint's file, else the file that the spec names, else the only resolved item for the spec. -/
def resolve (d : Disk) (resolved : List Item) (i : Item) (spec : String) : Except Fault Resolution := do
  if let some path ← file? d (i.get "HintPath") then return .found (.text path)
  if let some path ← file? d (.text spec) then return .found (.text path)
  match ← resolvedAs resolved spec with
  | [] => return .nowhere
  | [r] => match r.spec with
    | .null => return .nowhere
    | path => return .found path
  | rs => return .ambiguous rs.length

/-- The absolute path of what is below the package root. -/
def underRoot? (d : Disk) (root : Option String) (path : Setting) : Except Fault (Option String) :=
  match root with
  | none => .ok none
  | some root => do
    let path ← pathText path
    return if root.toList.isPrefixOf (Text.fold (Path.absolute d.here path)).toList then some path else none

/-- What counts as false is no identity. -/
def identityOf (path : Option Setting) : Setting := match path with
  | some path => if path.isTruthy then path else .text ""
  | none => .text ""

def decideReference (d : Disk) (s : Scope) (resolved : List Item) (i : Item) : Except Fault Decision := do
  if ← i.isTrue "IsImplicitlyDefined" then return .implicit
  let spec ← i.spec.textFor "casefold"
  if s.assemblies.contains (Text.fold spec) then return .frameworkAssembly
  if i.has "NuGetPackageId" then return .ofPackage
  if ← i.isSuppressed .reference then return .suppressed
  let path := (← resolve d resolved i spec).path?
  let under ← match path with
    | some path => underRoot? d s.root path
    | none => pure none
  match under with
  | some path => return .underPackageRoot path
  | none => return .declared [⟨identityOf path, .direct, .text spec⟩]

/-- The label is the spec that the metadata keep, or else the item's own. -/
def projectLabel (i : Item) : Setting :=
  if i.has "OriginalProjectReferenceItemSpec" then i.get "OriginalProjectReferenceItemSpec" else i.spec

def decideProject (d : Disk) (i : Item) : Except Fault Decision := do
  if ← i.isSuppressed .project then return .suppressed
  if i.has "NuGetPackageId" then return .ofPackage
  return .declared [⟨.text (Path.absolute d.here (← pathText i.spec)), .project, projectLabel i⟩]

/-- A package is declared once for every module that it brings in; one with build files is not declared. -/
def decidePackage (c : Contributions) (i : Item) : Except Fault Decision := do
  if ← i.isSuppressed .package then return .suppressed
  let id ← i.spec.textFor "casefold"
  if !c.contains id then return .noModules
  match c.buildFilesFor id with
  | [] => return .declared ((c.modulesFor id).map fun m => .ofReference ⟨m, .package, id⟩)
  | files => return .hasBuildFiles files.length

/-- The decisions on the references, if there are any. -/
def decideReferences (d : Disk) (items : Items) : Except Fault (List (Item × Decision)) :=
  if items.references.isEmpty then .ok []
  else do
    let s ← items.scope d
    items.references.mapM fun i => do return (i, ← decideReference d s items.resolved i)

/-- The decisions on all items: references, projects, packages. -/
def decisions (d : Disk) (items : Items) (c : Contributions) :
    Except Fault (List (Item × Decision) × List (Item × Decision) × List (Item × Decision)) := do
  let references ← items.decideReferences d
  let projects ← items.projects.mapM fun i => do return (i, ← decideProject d i)
  let packages ← items.packages.mapM fun i => do return (i, ← decidePackage c i)
  return (references, projects, packages)

def collect (d : Disk) (items : Items) (c : Contributions) : Except Fault (List Declaration) := do
  let (references, projects, packages) ← items.decisions d c
  return (references ++ projects ++ packages).flatMap (·.2.declarations)

end Items
end ReferenceAudit
