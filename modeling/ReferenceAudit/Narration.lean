import ReferenceAudit.Analysis
import ReferenceAudit.Collection
import ReferenceAudit.Note
import ReferenceAudit.Store.Config

/-! # What there is to tell about work as it goes

Each account goes through the stages of its work on the disk as it is, and ends where the work breaks off.
-/
namespace ReferenceAudit

abbrev Account := ExceptT Fault (StateM (List Note))

namespace Account

def tell (level : Level) (topic : Topic) (text : String) : Account Unit :=
  modify (· ++ [⟨level, topic, text⟩])

def detail (topic : Topic) (text : String) : Account Unit := tell .debug topic text

def orFault {α : Type} : Except Fault α → Account α
  | .ok a => pure a
  | .error fault => throw fault

def notes {α : Type} (a : Account α) : List Note := (a.run.run []).2

def config (d : Disk) (asked : Option Path) : Account Unit :=
  match Store.configPath? d asked with
  | none => pure ()
  | some path => do
    let settings ← orFault (Store.readSettings d path)
    detail .config ("Loaded config from " ++ path.text)
    orFault (Config.checkKeys settings)
    match Config.unknownKeys settings with
    | [] => pure ()
    | keys => tell .warning .config ("Ignoring unknown config key(s): " ++ Text.join ", " keys)

def manifest (d : Disk) (path : Path) : Account Manifest := do
  if d.isThere path.text then detail .manifest ("Loading lock manifest from " ++ path.text)
  orFault (Manifest.load d path)

def package (d : Disk) (m : Manifest) (ignored : List String) (naming : ModuleNaming)
    (e : String × TargetLibrary) : Account Unit := do
  let p ← orFault (PackageGraph.packageOf d m ignored naming e)
  let assets := PackageGraph.buildAssets e.2
  if PackageGraph.isIgnored ignored p.id && !assets.isEmpty then
    detail .graph ("Package '" ++ p.id ++ "' has " ++ amount assets.length "build file" ++ " but they are ignored")
  detail .graph ("Package '" ++ p.id ++ "' v" ++ p.version ++ ": " ++
    amount p.modules.length "compile-time module" ++ ", " ++ amount p.buildFiles.length "build file")

def packages (d : Disk) (m : Manifest) (selector : Selector) (ignored : List String) (naming : ModuleNaming) :
    Account Unit :=
  match m.findTarget? selector.targetKey with
  | none => pure ()
  | some target => do
    let entries := PackageGraph.packageEntries target
    detail .graph ("Found " ++ toString entries.length ++ " package library(ies) in lock manifest target " ++
      selector.targetKey)
    entries.forM (package d m ignored naming)

/-- Resolving a manifest's target afresh. -/
def resolution (d : Disk) (path : Path) (selector : Selector) (ignored : Except Fault (List String))
    (naming : ModuleNaming) : Account Resolved := do
  let m ← manifest d path
  let ignored ← orFault ignored
  packages d m selector ignored naming
  let r ← orFault (resolveTarget d m selector ignored naming)
  detail .contributions ("Resolved transitive contributions for " ++
    toString r.contributions.modules.keys.length ++ " of " ++ amount r.graph.size "package")
  return r

def unchanged (path : Path) : Account Unit := detail .files ("Skipping write of unchanged file " ++ path.text)

def saved (path : Path) (count : Nat) (written : Bool) : Account Unit := do
  if !written then unchanged path
  detail .references ("Saved " ++ amount count "declared reference" ++ " to " ++ path.text ++ " (written=" ++
    (Setting.bool written).shown ++ ")")

def listing (d : Disk) (path : Path) (modules : List String) : Account Disk :=
  match (Store.writeListing path modules).run.run d with
  | (.error fault, _) => throw fault
  | (.ok written, d) => do
    if written = [] then unchanged path
    return d

def dump (d : Disk) (directory : Path) (used offered : List String) : Account Unit := do
  let d ← listing d (directory.child Store.usedFileName) (Store.usedListing used)
  let _ ← listing d (directory.child Store.unusedFileName) (Store.unusedListing used offered)

def references (d : Disk) (path : Path) : Account (List Reference) := do
  let rs ← orFault (Store.loadReferences d path)
  detail .references ("Loaded " ++ amount rs.length "declared reference" ++ " from " ++ path.text)
  return rs

def usedModules (d : Disk) (r : Request) : Account (List String) := do
  let used ← orFault (Analysis.usedModules d r)
  match r.used, r.usedReport with
  | none, some path => detail .usedReport ("Loaded " ++ amount used.length "used module" ++ " from " ++ path.text)
  | _, _ => pure ()
  return used

/-- Why a subject gets no verdict of its own, or counts as used. -/
def judgementText? : Subject → Judgement → Option String
  | s, .implicit => some ("Skipping '" ++ s.first.label ++ "' because it is provided by the platform")
  | .single r, .unresolved =>
    some ("Treating '" ++ r.label ++ "' as used because its module could not be resolved")
  | .package r _, .unresolved =>
    some ("Treating package '" ++ r.label ++ "' as used because a module could not be resolved")
  | s, .noModules => some ("Skipping package '" ++ s.first.label ++ "' because " ++ Decision.noModulesReason)
  | s, .hasBuildFiles count =>
    some ("Skipping package '" ++ s.first.label ++ "' because it has " ++ amount count "build file")
  | _, .judged .. => none

def judgements (j : Judge) (rs : List Reference) (used : List String) : Account Unit :=
  let used := used.map moduleKey
  ((Subject.ofReferences rs).filterMap fun s => judgementText? s (j.judge used s)).forM (detail .judgement)

def conclusion (policy : Policy) (r : Request) (rs : List Reference) (vs : List Verdict) : Account Unit := do
  let outcome ← orFault (Analysis.conclude policy r [] (.ok vs))
  if policy.diagnose then
    let suppression ← orFault policy.suppression
    match Diagnostic.ignoredCount suppression.ignores vs with
    | 0 => pure ()
    | count => detail .diagnostics ("Suppressed " ++ amount count "diagnostic")
  tell .info .analysis (r.module ++ ": " ++ amount rs.length "declared reference" ++ ", " ++
    amount outcome.diagnostics.length "diagnostic")

/-- An analysis without a cache. -/
def analysis (d : Disk) (policy : Policy) (naming : ModuleNaming) (r : Request) : Account Unit := do
  let rs ← references d r.declared
  let used ← usedModules d r
  let resolved ← match r.manifest, r.target with
    | some path, some selector =>
      some <$> resolution d (Path.ofString path) selector policy.ignoredBuildFiles naming
    | some path, none => throw (.noSelector path)
    | none, _ => pure none
  if policy.dump then dump d r.declared.parent used r.offered
  match policy.implicit, Analysis.verdicts policy resolved rs used with
  | .ok implicit, .ok vs => do
    judgements (Judge.ofResolved resolved implicit) rs used
    conclusion policy r rs vs
  | _, .error fault =>
    tell .warning .analysis ("Unexpected error analyzing " ++ r.module ++ ": " ++ fault.message ++ "\n" ++
      fault.kind ++ ": " ++ fault.message)
  | _, _ => pure ()

def unresolved (spec : Setting) : Account Unit :=
  detail .collection ("Reference '" ++ spec.shown ++ "' could not be resolved to a file")

def search (spec : Setting) : Items.Resolution → Account Unit
  | .found _ => pure ()
  | .ambiguous matching => do
    detail .collection ("Reference '" ++ spec.shown ++ "' resolved ambiguously (" ++ toString matching ++
      " matches)")
    unresolved spec
  | .nowhere => unresolved spec

/-- One item of a kind, and how it was decided on. -/
def item (kind : Kind) (i : Item) (decision : Decision) : Account Unit :=
  match decision.reason? with
  | some reason => detail .collection ("Skipping " ++ kind.token ++ " '" ++ i.spec.shown ++ "' because " ++ reason)
  | none => pure ()

def reference (d : Disk) (is : Items) (i : Item) : Account Unit := do
  let scope ← orFault (is.scope d)
  let decision ← orFault (Items.decideReference d scope is.resolved i)
  item .direct i decision
  match decision, i.spec with
  | .declared _, .text spec => search i.spec (← orFault (Items.resolve d is.resolved i spec))
  | _, _ => pure ()

def items (kind : Kind) (told : Item → Account Unit) : List Item → Account Unit
  | [] => detail .collection ("No " ++ kind.token ++ "s to process")
  | is => is.forM told

def collection (d : Disk) (is : Items) (c : Contributions) : Account Unit := do
  items .direct (reference d is) is.references
  items .project (fun i => do item .project i (← orFault (Items.decideProject d i))) is.projects
  items .package (fun i => do item .package i (← orFault (Items.decidePackage c i))) is.packages
  let xs ← orFault (is.collect d c)
  tell .info .collection ("Collected " ++ amount xs.length "declared reference")

end Account
end ReferenceAudit
