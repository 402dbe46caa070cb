import ReferenceAudit.PackageGraph

/-! # What each package makes reachable

A package brings in its own modules and build files and those of all that it depends on.
-/
namespace ReferenceAudit

/-- Modules and build files by the key of the package that brings them in. -/
structure Contributions where
  modules : OrderedMap (List String)
  buildFiles : OrderedMap (List String)
  deriving DecidableEq

namespace Contributions

def empty : Contributions := ⟨OrderedMap.empty, OrderedMap.empty⟩

def modulesFor (c : Contributions) (id : String) : List String := c.modules.getD (packageKey id) []

def buildFilesFor (c : Contributions) (id : String) : List String := c.buildFiles.getD (packageKey id) []

def contains (c : Contributions) (id : String) : Bool :=
  c.modules.contains (packageKey id) || c.buildFiles.contains (packageKey id)

/-- The keys met on a walk along `next` from the pending ones, breadth first; each is
met once, as it leaves the unseen ones. -/
def walk (next : String → List String) (unseen pending : List String) : List String :=
  match pending with
  | [] => []
  | key :: pending =>
    if key ∈ unseen then key :: walk next (unseen.erase key) (pending ++ next key)
    else walk next unseen pending
termination_by (unseen.length, pending.length)
decreasing_by
  · apply Prod.Lex.left
    rename_i h
    have := List.length_pos_of_mem h
    rw [List.length_erase_of_mem h]; omega
  · apply Prod.Lex.right; simp

def candidates (g : PackageGraph) (key : String) : List String :=
  (key :: g.dependents.values.flatten).eraseDups

/-- The packages that depend on a package, directly or through others, and itself. -/
def allDependents (g : PackageGraph) (key : String) : List String :=
  walk (fun k => g.dependents.getD k []) (candidates g key) [key]

def union (xs ys : List String) : List String := ys.foldl (fun xs y => if y ∈ xs then xs else xs ++ [y]) xs

/-- One more dependent gets the items that it does not have yet. -/
def addItems (items : List String) (acc : OrderedMap (List String)) (key : String) : OrderedMap (List String) :=
  acc.insert key (union (acc.getD key []) items)

/-- The items of one package handed to all that depend on it; a package without any adds no entry. -/
def handOut (g : PackageGraph) (items : Package → List String) (acc : OrderedMap (List String))
    (e : String × Package) : OrderedMap (List String) :=
  if items e.2 = [] then acc else (allDependents g e.1).foldl (addItems (items e.2)) acc

def spread (g : PackageGraph) (items : Package → List String) : OrderedMap (List String) :=
  g.packages.entries.foldl (handOut g items) OrderedMap.empty

def ofGraph (g : PackageGraph) : Contributions := ⟨spread g (·.modules), spread g (·.buildFiles)⟩

end Contributions

/-- A target's graph and what its packages bring in. -/
structure Resolved where
  graph : PackageGraph
  contributions : Contributions
  deriving DecidableEq

def Resolved.ofGraph (g : PackageGraph) : Resolved := ⟨g, Contributions.ofGraph g⟩

end ReferenceAudit
