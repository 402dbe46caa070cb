import ReferenceAudit.Proofs.CacheStates
import ReferenceAudit.Proofs.DependentIndex
import ReferenceAudit.Proofs.KeptManifests
import ReferenceAudit.Proofs.SavedReferences
import ReferenceAudit.Proofs.TypedConfigs
import ReferenceAudit.Proofs.Work

/-!
# An analysis has no unexpected fault

Every graph that is built has the index that it should have, so judging by it does not fail, and no outcome of an
analysis holds the diagnostic on an unexpected fault.
-/
namespace ReferenceAudit

theorem Category.ofKind_ne_unexpected (kind : Kind) : ofKind kind ≠ .unexpected := by
  cases kind <;> decide

theorem Diagnostic.category_ne_unexpected_of_mem_emit {ignore : Ignoring} {docEnabled : Bool} {vs : List Verdict}
    {x : Diagnostic} (h : x ∈ emit ignore docEnabled vs) : x.category ≠ .unexpected := by
  rcases List.mem_append.1 h with hdoc | hverdict
  · cases docEnabled with
    | true => exact absurd hdoc List.not_mem_nil
    | false =>
      rw [List.mem_singleton.1 hdoc]
      decide
  · obtain ⟨v, -, hv⟩ := List.mem_filterMap.1 hverdict
    obtain ⟨hof, -⟩ := Option.filter_eq_some_iff.1 hv
    rw [ofVerdict?] at hof
    split at hof
    · cases hof
      exact Category.ofKind_ne_unexpected v.reference.kind
    · cases hof

theorem Resolved.IsResolution.verify_eq_ok {ι : Type} {namings : ι → ModuleNaming} {r : Resolved}
    (h : r.IsResolution namings) : r.graph.verify = .ok () := by
  obtain ⟨d, m, selector, ignored, naming, hresolve⟩ := h
  rw [resolveTarget] at hresolve
  cases hbuild : PackageGraph.build d m selector ignored (namings naming) with
  | error fault => rw [hbuild] at hresolve; cases hresolve
  | ok g =>
    rw [hbuild] at hresolve
    cases hresolve
    exact PackageGraph.verify_of_build hbuild

namespace Analysis
variable {ι : Type}

theorem isResolution_of_resolveAfresh {namings : ι → ModuleNaming} {d : Disk} {path : Path} {selector : Selector}
    {ignored : Except Fault (List String)} {naming : ι} {r : Resolved}
    (h : resolveAfresh d path selector ignored (namings naming) = .ok r) : r.IsResolution namings := by
  rw [resolveAfresh] at h
  cases hload : Manifest.load d path with
  | error fault => rw [hload] at h; cases h
  | ok m =>
    rw [hload] at h
    cases ignored with
    | error fault => cases h
    | ok ignored => exact ⟨d, m, selector, ignored, naming, h⟩

theorem verdicts_eq_ok {policy : Policy} {resolved : Option Resolved} {names : List String}
    (hverify : ∀ r ∈ resolved, r.graph.verify = .ok ()) (himplicit : policy.implicit = .ok names)
    (rs : List Reference) (used : List String) :
    verdicts policy resolved rs used = .ok ((Judge.ofResolved resolved names).verdicts rs used) := by
  unfold verdicts
  rw [himplicit]
  cases resolved with
  | none => rfl
  | some r =>
    dsimp only
    rw [hverify r rfl]
    rfl

theorem conclude_diagnostics {policy : Policy} {r : Request} {dumped : List Path} {vs : List Verdict} {o : Outcome}
    (h : conclude policy r dumped (.ok vs) = .ok o) : ∀ x ∈ o.diagnostics, x.category ≠ .unexpected := by
  intro x hx
  rw [conclude] at h
  dsimp only at h
  split at h
  · cases hs : policy.suppression with
    | error fault => rw [hs] at h; cases h
    | ok suppression =>
      rw [hs] at h
      cases h
      exact Diagnostic.category_ne_unexpected_of_mem_emit hx
  · cases h
    cases hx

variable [DecidableEq ι]

theorem isResolution_of_resolve {env : Environment ι} {path : Path} {selector : Selector}
    {ignored : Except Fault (List String)} {w w' : Workspace ι} {x : Resolved}
    (hcache : ∀ c ∈ w.cache, ManifestCache.Reachable env.namings c)
    (h : runOn (resolve env path selector ignored) w = (.ok x, w')) : x.IsResolution env.namings := by
  rw [runOn_resolve] at h
  cases hc : w.cache with
  | none =>
    rw [hc] at h
    exact isResolution_of_resolveAfresh (congrArg Prod.fst h)
  | some c =>
    rw [hc] at h
    exact (hcache c hc).isResolution_resolve (congrArg Prod.fst h)

theorem isResolution_of_resolvePackages {env : Environment ι} {policy : Policy} {r : Request} {w w' : Workspace ι}
    {resolved : Option Resolved} (hcache : ∀ c ∈ w.cache, ManifestCache.Reachable env.namings c)
    (h : runOn (resolvePackages env policy r) w = (.ok resolved, w')) :
    ∀ x ∈ resolved, x.IsResolution env.namings := by
  intro x hx
  rcases resolvePackages_eq_ok h with ⟨-, rfl, -⟩ | ⟨path, selector, y, -, -, rfl, hresolve⟩
  · cases hx
  · cases hx
    exact isResolution_of_resolve hcache hresolve

/-- A cache that keeps nothing gives a target as it is read afresh. -/
theorem resolve_empty (alloc : Allocation) {d : Disk} {path : Path} {key : String}
    (hkey : ManifestCache.pathKey d path = .ok key) (namings : ι → ModuleNaming) (selector : Selector)
    (ignored : Except Fault (List String)) (naming : ι) :
    ((ManifestCache.empty : ManifestCache ι).resolve alloc d namings path selector ignored naming).1 =
      resolveAfresh d path selector ignored (namings naming) := by
  rw [ManifestCache.resolve, ManifestCache.manifest, hkey, ManifestCache.empty, resolveAfresh]
  dsimp only
  rw [OrderedMap.get?_empty]
  dsimp only
  rw [ManifestCache.reload]
  cases Manifest.load d path with
  | error fault => rfl
  | ok m => cases ignored with
    | error fault => rfl
    | ok ignored =>
      dsimp only [bind, Except.bind]
      rw [← resolveTarget_sorted d m selector ignored (namings naming)]
      simp only [ManifestCache.resolveKept, ManifestCache.target?, ManifestCache.keep, ManifestCache.miss,
        List.lookup_nil]
      cases resolveTarget d m selector (Text.sorted (ignored.map packageKey)) (namings naming) <;> rfl

theorem runOn_resolvePackages_empty {env : Environment ι} {policy : Policy} {r : Request} {path : String}
    {selector : Selector} {d : Disk} {x : Resolved} {key : String} (hm : r.manifest = some path)
    (ht : r.target = some selector) (hkey : ManifestCache.pathKey d (Path.ofString path) = .ok key)
    (h : resolveAfresh d (Path.ofString path) selector policy.ignoredBuildFiles (env.namings env.naming) = .ok x) :
    ∃ v, runOn (resolvePackages env policy r) ⟨d, some .empty⟩ = (.ok (some x), v) := by
  rw [resolvePackages, hm, ht]
  dsimp only
  rw [runOn_map, runOn_resolve]
  dsimp only
  rw [resolve_empty env.allocation hkey, h]
  exact ⟨_, rfl⟩

/-- **An analysis has no unexpected fault.** A graph that is built passes the check of its index; with a
configuration whose values have the right types, and without a cache or with any cache that calls lead to, no
outcome of an analysis holds the diagnostic on an unexpected fault. -/
theorem build_verifies_and_nothing_unexpected :
    (∀ d m selector ignored naming g, PackageGraph.build d m selector ignored naming = .ok g → g.verify = .ok ()) ∧
      ∀ (env : Environment ι) (config : Config) (r : Request) (w w' : Workspace ι) (o : Outcome), config.Typed →
        (∀ c ∈ w.cache, ManifestCache.Reachable env.namings c) →
        runOn (analyze env config.policy r) w = (.ok o, w') → ∀ x ∈ o.diagnostics, x.category ≠ .unexpected := by
  refine ⟨fun _ _ _ _ _ _ hbuild => PackageGraph.verify_of_build hbuild, ?_⟩
  intro env config r w w' o htyped hcache hrun
  obtain ⟨names, himplicit⟩ := htyped.implicit_eq
  cases hfailed : r.compilerFailed with
  | true =>
    rw [runOn_analyze_of_compilerFailed hfailed] at hrun
    cases hrun
    exact fun x hx => absurd hx List.not_mem_nil
  | false =>
    obtain ⟨references, used, resolved, v, dumped, -, -, hresolved, -, hconclude⟩ :=
      (analyze_eq_ok_iff hfailed).1 hrun
    have hverify : ∀ x ∈ resolved, x.graph.verify = .ok () :=
      fun x hx => (isResolution_of_resolvePackages hcache hresolved x hx).verify_eq_ok
    rw [verdicts_eq_ok hverify himplicit] at hconclude
    exact conclude_diagnostics hconclude

def loopText : String :=
  "\x7b\"targets\": \x7b\"T\": \x7b\"a/1\": \x7b\"dependencies\": \x7b\"A\": \"1\"\x7d\x7d\x7d\x7d, " ++
    "\"packageFolders\": \x7b\"/p\": \x7b\x7d\x7d\x7d"

def loopManifest : Manifest :=
  ⟨3, .ofList [("T", .ofList [("a/1", ⟨"package", none, .ofList [("A", "1")], [], []⟩)])], .empty, ["/p"]⟩

/-- A package that depends on itself under its name in another case. -/
def loopGraph : PackageGraph := .ofPackages [⟨"a", "1", ["A"], [], []⟩]

def loopReferences : String := "x.dll\tReference\tx\n"

def loopDisk : Disk :=
  (((Disk.empty ["w"]).addDirectory ["p", "a", "1"]).addFile ["w", "m"]
    (Text.Utf8.encode loopText)).addFile ["w", "r"]
    (Text.Utf8.encode loopReferences)

def loopNaming : ModuleNaming := .absolute ⟨.single, ["w"]⟩

def loopEnvironment : Environment Unit := ⟨fun _ => loopNaming, (), .successor⟩

def loopRequest : Request :=
  ⟨"x", Path.ofString "r", some [], none, some "m", some ⟨"t", none⟩, [], false, false⟩

private theorem build_loop : PackageGraph.build loopDisk loopManifest ⟨"t", none⟩ [] loopNaming =
    .ok loopGraph := by
  decide +kernel

theorem load_loop : Manifest.load loopDisk (Path.ofString "m") = .ok loopManifest := by
  have hread (path : Path) : Manifest.read path (Text.Utf8.encode loopText) = .ok loopManifest := by
    rw [Manifest.read_encode (by decide +kernel)]
    decide +kernel
  exact (Manifest.load_of_find? (t := 1) (by decide +kernel)).trans (hread _)

theorem pathKey_loop : ManifestCache.pathKey loopDisk (Path.ofString "m") = .ok "/w/m" := by decide +kernel

theorem loadReferences_loop :
    Store.loadReferences loopDisk (Path.ofString "r") = .ok [⟨"x.dll", .direct, "x"⟩] := by
  have hfind : loopDisk.find? (Path.ofString "r").text = some (.file (Text.Utf8.encode loopReferences) 2) := by
    decide +kernel
  exact Store.loadReferences_of_find? hfind (Store.readReferences_encode (by decide +kernel))

theorem resolveAfresh_loop : resolveAfresh loopDisk (Path.ofString "m") ⟨"t", none⟩ (.ok []) loopNaming =
    .ok (Resolved.ofGraph loopGraph) := by
  rw [resolveAfresh, load_loop]
  dsimp only [bind, Except.bind]
  rw [resolveTarget, build_loop]
  rfl

private theorem resolvePackages_loop : ∃ v, runOn
    (resolvePackages loopEnvironment Config.default.policy loopRequest)
    ⟨loopDisk, some .empty⟩ = (.ok (some (Resolved.ofGraph loopGraph)), v) :=
  runOn_resolvePackages_empty rfl rfl pathKey_loop resolveAfresh_loop

/-- An analysis by a graph with a loop, through a cache. -/
theorem loop_nothing_unexpected : loopGraph.verify = .ok () ∧
    ∃ o w', runOn (analyze loopEnvironment Config.default.policy loopRequest) ⟨loopDisk, some .empty⟩ =
      (.ok o, w') ∧
      ∀ x ∈ o.diagnostics, x.category ≠ .unexpected := by
  have hverify : loopGraph.verify = .ok () :=
    (@build_verifies_and_nothing_unexpected Unit _).1 _ _ _ _ _ _ build_loop
  have hcache : ∀ c ∈ some ManifestCache.empty, ManifestCache.Reachable loopEnvironment.namings c := by
    rintro c hc
    cases hc
    exact ManifestCache.reachable_empty
  have hgraph : ∀ r ∈ some (Resolved.ofGraph loopGraph), r.graph.verify = .ok () := by
    rintro r hr
    cases hr
    exact hverify
  have hconclude : ∃ o, conclude Config.default.policy loopRequest [] (verdicts Config.default.policy
      (some (Resolved.ofGraph loopGraph)) [⟨"x.dll", .direct, "x"⟩] []) = .ok o := by
    have himplicit : Config.default.policy.implicit = .ok [] := rfl
    rw [verdicts_eq_ok hgraph himplicit]
    exact ⟨_, rfl⟩
  obtain ⟨o, hconclude⟩ := hconclude
  obtain ⟨v, hresolved⟩ := resolvePackages_loop
  have hrun : runOn (analyze loopEnvironment Config.default.policy loopRequest) ⟨loopDisk, some .empty⟩ =
      (.ok o, v) :=
    (analyze_eq_ok_iff rfl).2 ⟨_, _, _, v, [], loadReferences_loop, rfl, hresolved, rfl, hconclude⟩
  exact ⟨hverify, o, v, hrun, build_verifies_and_nothing_unexpected.2 _ _ _ _ _ _ Config.typed_default hcache hrun⟩

end Analysis
end ReferenceAudit
