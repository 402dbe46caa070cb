import ReferenceAudit.Contributions
import ReferenceAudit.Manifest.Load
import ReferenceAudit.PackageGraph.Build

/-! # Manifests and targets kept between analyses

A manifest is kept under its path until the file's time changes; a resolved target is kept under the token
of its manifest. The tokens of manifests that are kept differ; one that is no longer kept may be given again.
-/
namespace ReferenceAudit

def resolveTarget (d : Disk) (m : Manifest) (selector : Selector) (ignored : List String) (naming : ModuleNaming) :
    Except Fault Resolved :=
  (PackageGraph.build d m selector ignored naming).map Resolved.ofGraph

/-- How tokens are given out: never one of those in use. -/
structure Allocation where
  next : List Nat → Nat
  isNew : ∀ used, next used ∉ used

def Allocation.successor : Allocation where
  next used := used.foldl max 0 + 1
  isNew used h := by
    have hle (xs : List Nat) (a : Nat) : a ≤ xs.foldl max a ∧ ∀ x ∈ xs, x ≤ xs.foldl max a := by
      induction xs generalizing a with
      | nil => simp
      | cons x xs ih =>
        obtain ⟨h1, h2⟩ := ih (max a x)
        refine ⟨by simp only [List.foldl_cons]; omega, ?_⟩
        intro y hy
        rcases List.mem_cons.1 hy with rfl | hy
        · simp only [List.foldl_cons]; omega
        · exact h2 y hy
    have := (hle used 0).2 _ h
    omega

/-- A manifest as it was read from a file of some time. -/
structure KeptManifest where
  time : Option Nat
  token : Nat
  manifest : Manifest

/-- What a resolved target hangs on; `ι` tells the namings of modules apart. -/
structure TargetKey (ι : Type) where
  token : Nat
  target : String
  ignored : List String
  naming : ι
  deriving DecidableEq

structure ManifestCache (ι : Type) where
  manifests : OrderedMap KeptManifest
  targets : List (TargetKey ι × Resolved)
  hits : Nat
  misses : Nat

namespace ManifestCache
variable {ι : Type}

def empty : ManifestCache ι := ⟨OrderedMap.empty, [], 0, 0⟩

/-- Drops everything that is kept; the counters stay. -/
def clear (c : ManifestCache ι) : ManifestCache ι := { c with manifests := OrderedMap.empty, targets := [] }

/-- The name under which a path's manifest is kept: the path resolved, if that can be done. -/
def pathKey (d : Disk) (path : Path) : Except Fault String :=
  (d.resolve path).map fun loc => Path.text ⟨.single, loc⟩

def tokens (c : ManifestCache ι) : List Nat := c.manifests.values.map (·.token)

def hit (c : ManifestCache ι) : ManifestCache ι := { c with hits := c.hits + 1 }

def miss (c : ManifestCache ι) : ManifestCache ι := { c with misses := c.misses + 1 }

/-- Drops a manifest and the targets resolved from it. -/
def evict (c : ManifestCache ι) (token : Nat) : ManifestCache ι :=
  { c with
    manifests := OrderedMap.ofList (c.manifests.entries.filter fun e => e.2.token != token)
    targets := c.targets.filter fun t => t.1.token != token }

def keep (c : ManifestCache ι) (key : String) (m : KeptManifest) : ManifestCache ι :=
  { c with manifests := c.manifests.insert key m }

def reload (alloc : Allocation) (d : Disk) (path : Path) (key : String) (c : ManifestCache ι) :
    Except Fault KeptManifest × ManifestCache ι :=
  let c := c.miss
  match Manifest.load d path with
  | .error fault => (.error fault, c)
  | .ok m =>
    let kept : KeptManifest := ⟨d.time? path.text, alloc.next c.tokens, m⟩
    (.ok kept, c.keep key kept)

/-- The manifest of a path: the one that is kept if the file's time is still the same. A path that cannot be
resolved is a fault before the file is asked for. -/
def manifest (alloc : Allocation) (d : Disk) (path : Path) (c : ManifestCache ι) :
    Except Fault KeptManifest × ManifestCache ι :=
  match pathKey d path with
  | .error fault => (.error fault, c)
  | .ok key => match c.manifests.get? key with
    | some kept =>
      if kept.time = d.time? path.text then (.ok kept, c.hit) else reload alloc d path key (c.evict kept.token)
    | none => reload alloc d path key c

variable [DecidableEq ι]

def target? (c : ManifestCache ι) (key : TargetKey ι) : Option Resolved := c.targets.lookup key

def keepTarget (c : ManifestCache ι) (key : TargetKey ι) (r : Resolved) : ManifestCache ι :=
  { c with targets := (key, r) :: c.targets }

/-- A target of a kept manifest: the one that is kept, else it is resolved. -/
def resolveKept (d : Disk) (namings : ι → ModuleNaming) (m : KeptManifest) (selector : Selector)
    (ignored : List String) (naming : ι) (c : ManifestCache ι) : Except Fault Resolved × ManifestCache ι :=
  let ignored := Text.sorted (ignored.map packageKey)
  let key : TargetKey ι := ⟨m.token, Text.fold selector.targetKey, ignored, naming⟩
  match c.target? key with
  | some r => (.ok r, c.hit)
  | none => match resolveTarget d m.manifest selector ignored (namings naming) with
    | .ok r => (.ok r, c.miss.keepTarget key r)
    | .error fault => (.error fault, c.miss)

def resolve (alloc : Allocation) (d : Disk) (namings : ι → ModuleNaming) (path : Path) (selector : Selector)
    (ignored : Except Fault (List String)) (naming : ι) (c : ManifestCache ι) :
    Except Fault Resolved × ManifestCache ι :=
  match c.manifest alloc d path with
  | (.error fault, c) => (.error fault, c)
  | (.ok m, c) => match ignored with
    | .error fault => (.error fault, c)
    | .ok ignored => c.resolveKept d namings m selector ignored naming

end ManifestCache
end ReferenceAudit
