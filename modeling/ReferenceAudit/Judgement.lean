import ReferenceAudit.Contributions
import ReferenceAudit.Diagnostic

/-! # Judging declared references by the modules a compiler used

Direct and project references are judged one by one. A package stands once for every module it has, so
its references are judged together.
-/
namespace ReferenceAudit

/-- What is judged as one: a reference, or all references to one package. -/
inductive Subject
  | single (r : Reference)
  | package (first : Reference) (others : List Reference)
  deriving DecidableEq, Repr

namespace Subject

def first : Subject → Reference
  | single r => r
  | package r _ => r

def records : Subject → List Reference
  | single r => [r]
  | package r rs => r :: rs

def refersTo (key : String) (r : Reference) : Bool := r.kind == .package && packageKey r.label == key

/-- The subjects among `rs`, the packages in `seen` left out. A package stands where its first reference does. -/
def collect (seen : List String) : List Reference → List Subject
  | [] => []
  | r :: rs =>
    if r.kind = .package then
      let key := packageKey r.label
      if key ∈ seen then collect seen rs
      else .package r (rs.filter (refersTo key)) :: collect (key :: seen) rs
    else .single r :: collect seen rs

def ofReferences (rs : List Reference) : List Subject := collect [] rs

end Subject

/-- What is found out about a subject. -/
inductive Judgement
  | implicit
  | unresolved
  | noModules
  | hasBuildFiles (count : Nat)
  | judged (classification : Classification) (ownUsed transitiveUsed : List String)
  deriving DecidableEq, Repr

/-- What references are judged by: the packages, if a manifest is at hand, and the platform's modules. -/
structure Judge where
  graph : Option PackageGraph
  contributions : Option Contributions
  /-- Folded labels and identities that the platform provides. -/
  implicit : List String

namespace Judge

def ofResolved (resolved : Option Resolved) (implicit : List String) : Judge :=
  ⟨resolved.map (·.graph), resolved.map (·.contributions), implicit.map moduleKey⟩

def isImplicit (j : Judge) (r : Reference) : Bool :=
  j.implicit.contains (moduleKey r.label) || (r.isResolved && j.implicit.contains (moduleKey r.identity))

def usedAmong (used : List String) (xs : List String) : List String :=
  xs.filter fun m => used.contains (moduleKey m)

def judgeSingle (j : Judge) (used : List String) (r : Reference) : Judgement :=
  if j.isImplicit r then .implicit
  else if r.isResolved then
    if used.contains (moduleKey r.identity) then .judged .used [r.identity] [] else .judged .removable [] []
  else .unresolved

def classify (ownUsed transitiveUsed : List String) : Classification :=
  if transitiveUsed = [] then .removable else if ownUsed = [] then .removableWithCaveat else .used

/-- A package with build files does its work without any module being used. -/
def judgeModules (used own transitive buildFiles : List String) : Judgement :=
  if transitive = [] then .noModules
  else if buildFiles ≠ [] then .hasBuildFiles buildFiles.length
  else
    let ownUsed := usedAmong used own
    let transitiveUsed := usedAmong used transitive
    .judged (classify ownUsed transitiveUsed) ownUsed transitiveUsed

def judgePackage (j : Judge) (used : List String) (first : Reference) (others : List Reference) : Judgement :=
  match j.graph.bind fun g => g.get? first.label with
  | some p => match j.contributions with
    | some c => judgeModules used p.modules (c.modulesFor first.label) (c.buildFilesFor first.label)
    | none => judgeModules used p.modules p.modules p.buildFiles
  | none =>
    let records := first :: others
    if records.all Reference.isResolved then
      let own := records.map (·.identity)
      judgeModules used own own []
    else .unresolved

/-- `used` are module keys. -/
def judge (j : Judge) (used : List String) : Subject → Judgement
  | .single r => j.judgeSingle used r
  | .package r rs => j.judgePackage used r rs

end Judge

namespace Judgement

/-- The verdict on a subject with this first reference, if there is one. -/
def verdict? (r : Reference) : Judgement → Option Verdict
  | implicit | noModules | hasBuildFiles _ => none
  | unresolved => some ⟨r, .used, [], []⟩
  | judged c own transitive => some ⟨r, c, own, transitive⟩

end Judgement

namespace Judge

def verdictOn? (j : Judge) (used : List String) (s : Subject) : Option Verdict :=
  (j.judge used s).verdict? s.first

def verdicts (j : Judge) (rs : List Reference) (usedModules : List String) : List Verdict :=
  (Subject.ofReferences rs).filterMap (j.verdictOn? (usedModules.map moduleKey))

end Judge
end ReferenceAudit
