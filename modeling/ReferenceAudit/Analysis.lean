import ReferenceAudit.Config
import ReferenceAudit.Judgement
import ReferenceAudit.ManifestCache
import ReferenceAudit.Store.Dump
import ReferenceAudit.Store.References
import ReferenceAudit.Store.UsedReport

/-! # Analyses of compiled modules

The references that a module declares are judged by the modules that its compiler used. Several modules
are analysed one after another; the bad input of one does not keep the others from being analysed.
-/
namespace ReferenceAudit

/-- What there is to analyse one module by. -/
structure Request where
  module : String
  declared : Path
  used : Option (List String)
  usedReport : Option Path
  /-- The path as it was written. -/
  manifest : Option String
  target : Option Selector
  offered : List String
  compilerFailed : Bool
  docEnabled : Bool

structure Outcome where
  module : String
  diagnostics : List Diagnostic
  verdicts : List Verdict
  skipReason : Option String
  fault : Option Fault
  dumped : List Path

namespace Outcome

def blank (module : String) : Outcome := ⟨module, [], [], none, none, []⟩

def failed (module : String) (fault : Fault) : Outcome := { blank module with fault := some fault }

def skipped (module reason : String) : Outcome := { blank module with skipReason := some reason }

def isOk (o : Outcome) : Bool := o.fault.isNone

def isInputMissing (o : Outcome) : Bool := o.fault.any Fault.isMissingInput

end Outcome

/-- What analyses work on: a disk, and a cache if they share one. -/
structure Workspace (ι : Type) where
  disk : Disk
  cache : Option (ManifestCache ι)

abbrev Work (ι : Type) := ExceptT Fault (StateM (Workspace ι))

/-- How an analysis finds modules' names and tokens. -/
structure Environment (ι : Type) where
  namings : ι → ModuleNaming
  naming : ι
  allocation : Allocation

namespace Analysis
variable {ι : Type}

def orFault {α : Type} : Except Fault α → Work ι α
  | .ok a => pure a
  | .error fault => throw fault

def look {α : Type} (f : Disk → Except Fault α) : Work ι α := do
  orFault (f (← get).disk)

def onDisk {α : Type} (e : Effect α) : Work ι α := do
  let w ← get
  let (result, disk) := e.run.run w.disk
  set { w with disk }
  orFault result

def usedModules (d : Disk) (r : Request) : Except Fault (List String) :=
  match r.used, r.usedReport with
  | some used, _ => .ok used.eraseDups
  | none, some path => Store.loadUsed d path
  | none, none => .error (.inputMissing "Used module report" none)

/-- A manifest's target, read afresh. -/
def resolveAfresh (d : Disk) (path : Path) (selector : Selector) (ignored : Except Fault (List String))
    (naming : ModuleNaming) : Except Fault Resolved := do
  let m ← Manifest.load d path
  resolveTarget d m selector (← ignored) naming

section
variable [DecidableEq ι]

/-- A manifest's target, from the cache if there is one. -/
def resolve (env : Environment ι) (path : Path) (selector : Selector) (ignored : Except Fault (List String)) :
    Work ι Resolved := do
  let w ← get
  match w.cache with
  | none => orFault (resolveAfresh w.disk path selector ignored (env.namings env.naming))
  | some c =>
    let (result, c) := c.resolve env.allocation w.disk env.namings path selector ignored env.naming
    set { w with cache := some c }
    orFault result

/-- The packages to judge by, if the request names a manifest. -/
def resolvePackages (env : Environment ι) (policy : Policy) (r : Request) : Work ι (Option Resolved) :=
  match r.manifest, r.target with
  | none, _ => pure none
  | some path, none => throw (.noSelector path)
  | some path, some selector => some <$> resolve env (Path.ofString path) selector policy.ignoredBuildFiles

end

/-- The verdicts on references, by packages whose index has been checked. -/
def verdicts (policy : Policy) (resolved : Option Resolved) (rs : List Reference) (used : List String) :
    Except Fault (List Verdict) := do
  if let some r := resolved then r.graph.verify
  return (Judge.ofResolved resolved (← policy.implicit)).verdicts rs used

/-- The outcome of judging. A fault that comes up only here is told in a diagnostic. -/
def conclude (policy : Policy) (r : Request) (dumped : List Path) (judged : Except Fault (List Verdict)) :
    Except Fault Outcome :=
  let o := { Outcome.blank r.module with dumped }
  match judged with
  | .error fault => .ok { o with diagnostics := [Diagnostic.unexpected fault.kind fault.message] }
  | .ok vs =>
    let o := { o with verdicts := vs }
    if policy.diagnose then do
      let suppression ← policy.suppression
      return { o with diagnostics := Diagnostic.emit suppression.ignores r.docEnabled vs }
    else .ok o

variable [DecidableEq ι]

def analyze (env : Environment ι) (policy : Policy) (r : Request) : Work ι Outcome := do
  if r.compilerFailed then return Outcome.skipped r.module "compiler reported errors"
  let references ← look (Store.loadReferences · r.declared)
  let used ← look (usedModules · r)
  let resolved ← resolvePackages env policy r
  let dumped ← if policy.dump then onDisk (Store.dump r.declared.parent used r.offered) else pure []
  orFault (conclude policy r dumped (verdicts policy resolved references used))

def analyzeOrFail (env : Environment ι) (policy : Policy) (r : Request) : Work ι Outcome :=
  tryCatch (analyze env policy r) fun fault =>
    if fault.isInput then pure (Outcome.failed r.module fault) else throw fault

def analyzeAll (env : Environment ι) (policy : Policy) (rs : List Request) : Work ι (List Outcome) :=
  rs.mapM (analyzeOrFail env policy)

/-- What is reported while so many modules are analysed: the work, how many are done, how many there are. -/
def progress (count : Nat) : List (String × Nat × Nat) :=
  (List.range (count + 1)).map fun done => ("Analyzing", done, count)

end Analysis
end ReferenceAudit
