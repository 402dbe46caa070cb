import ReferenceAudit.Fault
import ReferenceAudit.Reference
import ReferenceAudit.Text.Order

/-! # Graphs of packages with an index of dependents -/
namespace ReferenceAudit

structure Package where
  id : String
  version : String
  dependencies : List String
  modules : List String
  buildFiles : List String
  deriving DecidableEq

/-- Packages by key, and for each key the keys of the packages that depend on it. -/
structure PackageGraph where
  packages : OrderedMap Package
  dependents : OrderedMap (List String)
  deriving DecidableEq

namespace PackageGraph

def get? (g : PackageGraph) (id : String) : Option Package := g.packages.get? (packageKey id)

def dependentsOf (g : PackageGraph) (id : String) : List String := g.dependents.getD (packageKey id) []

def contains (g : PackageGraph) (id : String) : Bool := g.packages.contains (packageKey id)

def size (g : PackageGraph) : Nat := g.packages.entries.length

end PackageGraph

def Package.dependsOn (p : Package) (key : String) : Bool := p.dependencies.any fun d => packageKey d == key

namespace PackageGraph

/-- The keys that an index has to have: those of the packages and of all that they depend on. -/
def indexedKeys (g : PackageGraph) : List String :=
  g.packages.keys ++ g.packages.values.flatMap fun p => p.dependencies.map packageKey

def dependers (g : PackageGraph) (key : String) : List String :=
  (g.packages.entries.filter fun e => e.2.dependsOn key).map Prod.fst

def sameMembers (xs ys : List String) : Bool := xs.all ys.contains && ys.all xs.contains

def isConsistentAt (g : PackageGraph) (key : String) : Bool :=
  g.indexedKeys.contains key && match g.dependents.get? key with
    | some found => sameMembers found (g.dependers key)
    | none => false

def inconsistentKeys (g : PackageGraph) : List String :=
  Text.sortedSet ((g.dependents.keys ++ g.indexedKeys).filter fun key => !g.isConsistentAt key)

def verify (g : PackageGraph) : Except Fault Unit :=
  match g.inconsistentKeys with
  | [] => .ok ()
  | keys => .error (.indexInconsistent keys)

theorem sameMembers_iff {xs ys : List String} : sameMembers xs ys = true ↔ ∀ x, x ∈ xs ↔ x ∈ ys := by
  simp only [sameMembers, Bool.and_eq_true, List.all_eq_true, List.contains_iff_mem]
  exact ⟨fun h x => ⟨h.1 x, h.2 x⟩, fun h => ⟨fun x => (h x).1, fun x => (h x).2⟩⟩

theorem mem_inconsistentKeys {g : PackageGraph} {key : String} :
    key ∈ g.inconsistentKeys ↔
      (key ∈ g.dependents.keys ∨ key ∈ g.indexedKeys) ∧ g.isConsistentAt key = false := by
  simp [inconsistentKeys, or_and_right]

end PackageGraph
end ReferenceAudit
