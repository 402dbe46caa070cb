import ReferenceAudit.Judgement
import ReferenceAudit.PackageGraph.Build

/-!
# What a package is judged by

A package of the graph holds its own modules and brings in others; one outside holds what its references resolve
to. The used modules come in only after that, so a judgement is a function of what the package holds.
-/
namespace ReferenceAudit

/-- A package's own modules, those that it brings in, and the build files that come with it. -/
structure Holdings where
  own : List String
  transitive : List String
  buildFiles : List String
  deriving DecidableEq, Repr

namespace Holdings

/-- What references hold that are all resolved: their own modules. -/
def ofRecords (rs : List Reference) : Option Holdings :=
  if rs.all Reference.isResolved then some ⟨rs.map (·.identity), rs.map (·.identity), []⟩ else none

def judgement (h : Holdings) (used : List String) : Judgement :=
  Judge.judgeModules used h.own h.transitive h.buildFiles

theorem ofRecords_eq_some_iff {rs : List Reference} {h : Holdings} :
    ofRecords rs = some h ↔
      (∀ r ∈ rs, r.isResolved = true) ∧ h = ⟨rs.map (·.identity), rs.map (·.identity), []⟩ := by
  rw [ofRecords]
  by_cases hall : rs.all Reference.isResolved = true
  · have hresolved : ∀ r ∈ rs, r.isResolved = true := List.all_eq_true.1 hall
    rw [if_pos hall]
    exact ⟨fun he => ⟨hresolved, (Option.some.inj he).symm⟩, fun he => he.2 ▸ rfl⟩
  · have hnot : ¬∀ r ∈ rs, r.isResolved = true := mt List.all_eq_true.2 hall
    rw [if_neg hall]
    exact ⟨nofun, fun he => absurd he.1 hnot⟩

end Holdings

namespace Judge

/-- What a package holds by the graph, if it is in the graph. Without contributions it brings in its own modules. -/
def inGraph? (j : Judge) (label : String) : Option Holdings :=
  (j.graph.bind fun g => g.get? label).map fun p => match j.contributions with
    | some c => ⟨p.modules, c.modulesFor label, c.buildFilesFor label⟩
    | none => ⟨p.modules, p.modules, p.buildFiles⟩

/-- What a package holds for a judge: by the graph, or else by its references. -/
def holdings? (j : Judge) (first : Reference) (others : List Reference) : Option Holdings :=
  (j.inGraph? first.label).or (Holdings.ofRecords (first :: others))

theorem inGraph?_congr (j : Judge) {label label' : String} (h : packageKey label = packageKey label') :
    j.inGraph? label = j.inGraph? label' := by
  simp only [inGraph?, PackageGraph.get?, Contributions.modulesFor, Contributions.buildFilesFor, h]

theorem judgePackage_eq (j : Judge) (used : List String) (first : Reference) (others : List Reference) :
    j.judgePackage used first others = match j.holdings? first others with
      | some h => h.judgement used
      | none => .unresolved := by
  rw [judgePackage, holdings?, inGraph?]
  cases j.graph.bind fun g => g.get? first.label with
  | some p => cases j.contributions <;> rfl
  | none =>
    rw [Option.map_none, Option.none_or, Holdings.ofRecords]
    dsimp only
    split <;> rfl

def chain : Judge where
  graph := some (.ofPackages [⟨"A", "1", ["b"], ["/p/a.dll"], []⟩, ⟨"B", "1", [], ["/p/b.dll"], []⟩])
  contributions := some ⟨.ofList [("a", ["/p/a.dll", "/p/b.dll"]), ("b", ["/p/b.dll"])], .empty⟩
  implicit := []

end Judge
end ReferenceAudit
