import ReferenceAudit.Setting
import ReferenceAudit.Suppression
import ReferenceAudit.Text.Order

/-! # Configurations, and the policy that they ask for

A configuration keeps its values as they were written. Only the suppressions are looked at when it is
read; any other value of a wrong type is a fault of the step that first needs it.
-/
namespace ReferenceAudit

structure Config where
  enableDiagnostics : Setting
  dumpReferenceInfo : Setting
  ignorePackageBuildFiles : Setting
  implicitReferences : Setting
  suppressions : Setting
  treatAsUsed : Setting

namespace Config

def default : Config := ⟨.bool true, .bool false, .list [], .list [], .map [], .list []⟩

def fieldNames : List String :=
  ["dump_reference_info", "enable_diagnostics", "ignore_package_build_files", "implicit_references",
   "suppressions", "treat_as_used"]

def isField : Setting → Bool
  | .text key => fieldNames.contains key
  | _ => false

def lookup (entries : List (Setting × Setting)) (name : String) (otherwise : Setting) : Setting :=
  (entries.findSome? fun e => match e.1 with
    | .text key => if key = name then some e.2 else none
    | _ => none).getD otherwise

def ofEntries (entries : List (Setting × Setting)) : Config :=
  { enableDiagnostics := lookup entries "enable_diagnostics" default.enableDiagnostics
    dumpReferenceInfo := lookup entries "dump_reference_info" default.dumpReferenceInfo
    ignorePackageBuildFiles := lookup entries "ignore_package_build_files" default.ignorePackageBuildFiles
    implicitReferences := lookup entries "implicit_references" default.implicitReferences
    suppressions := lookup entries "suppressions" default.suppressions
    treatAsUsed := lookup entries "treat_as_used" default.treatAsUsed }

/-- The entries of a configuration, in the order of their names. -/
def toSetting (c : Config) : Setting :=
  .map [(.text "dump_reference_info", c.dumpReferenceInfo), (.text "enable_diagnostics", c.enableDiagnostics),
    (.text "ignore_package_build_files", c.ignorePackageBuildFiles),
    (.text "implicit_references", c.implicitReferences), (.text "suppressions", c.suppressions),
    (.text "treat_as_used", c.treatAsUsed)]

def checkCategory (label : Setting) (category : Setting) : Except Fault Unit := do
  let fault := Fault.unknownSuppression label.quoted category.quoted
  match category with
  | .text id => unless (Category.ofId? id).isSome do throw fault
  | .bytes _ => throw fault
  | v => throw (v.lacks "strip")

/-- Refuses suppressions that name a category there is none of. -/
def validate (c : Config) : Except Fault Unit :=
  match c.suppressions with
  | .map entries => entries.forM fun e => do (← e.2.members).forM (checkCategory e.1)
  | v => .error (v.lacks "items")

/-- The keys of a map that no configuration has, in order; none for any other value. -/
def unknownKeys : Setting → List String
  | .map entries =>
    Text.sorted ((entries.filterMap fun e => match e.1 with
      | .text key => some key
      | _ => none).filter fun key => !fieldNames.contains key)
  | _ => []

def isText : Setting → Bool
  | .text _ => true
  | _ => false

/-- Refuses keys that are no texts. -/
def checkKeys (v : Setting) : Except Fault Unit := do
  unless (← v.members).all isText do throw (.wrongType "a key that is not a text")

/-- The configuration that a value holds. -/
def ofSetting (v : Setting) : Except Fault Config := do
  checkKeys v
  match v with
  | .map entries =>
    let config := ofEntries entries
    config.validate
    return config
  | v => throw (v.lacks "items")

def ofJson (v : Json) : Except Fault Config := ofSetting (.ofJson v)

end Config

/-- What an analysis is to do. A value that a configuration cannot give is the fault of asking for it. -/
structure Policy where
  diagnose : Bool
  dump : Bool
  ignoredBuildFiles : Except Fault (List String)
  implicit : Except Fault (List String)
  suppression : Except Fault Suppression

namespace Suppression

def categoryOf (id : String) : Except Fault Category := match Category.ofId? id with
  | some category => .ok category
  | none => .error (.unknownCategory id)

def ofIds (rules : List (String × List String)) (alwaysUsed : List String) : Except Fault Suppression := do
  let rules ← rules.mapM fun (label, ids) => do return (label, ← ids.mapM categoryOf)
  return ofRules rules alwaysUsed

end Suppression

namespace Config

def rules (c : Config) : Except Fault (List (String × List String)) :=
  match c.suppressions with
  | .map entries => entries.mapM fun (label, ids) => do
    return (← label.textFor "casefold", ← ids.texts "strip")
  | v => if v.isTruthy then .error (v.lacks "items") else .ok []

def policy (c : Config) : Policy where
  diagnose := c.enableDiagnostics.isTruthy
  dump := c.dumpReferenceInfo.isTruthy
  ignoredBuildFiles := c.ignorePackageBuildFiles.texts "casefold"
  implicit := c.implicitReferences.texts "casefold"
  suppression := do
    let rules ← c.rules
    let suppression ← Suppression.ofIds rules []
    let alwaysUsed ← c.treatAsUsed.texts "casefold"
    return { suppression with alwaysUsed := alwaysUsed.map Text.fold }

end Config
end ReferenceAudit
