import ReferenceAudit.Proofs.KeptManifests
import ReferenceAudit.Proofs.Listings
import ReferenceAudit.Proofs.TypedConfigs
import ReferenceAudit.Proofs.Work

/-!
# What an analysis can fail by

A path is asked whether something is there, and then read as a file; so a directory is a fault of its own kind,
which is no fault of the input. Beside that only a JSON text beyond the limits of its reader is, and, for a
cache, a path that cannot be resolved. Main statement: where nothing of this obstructs it, an analysis fails by
its input only.
-/
namespace ReferenceAudit

theorem Disk.exists_file_of_isThere {d : Disk} {path : String} (hthere : d.isThere path = true)
    (hdir : d.isDirectory path = false) : ∃ bytes t, d.find? path = some (.file bytes t) := by
  obtain ⟨entry, hentry⟩ := Option.isSome_iff_exists.1 hthere
  cases entry with
  | directory => simp [Disk.isDirectory, hentry] at hdir
  | file bytes t => exact ⟨bytes, t, hentry⟩

namespace Store
variable {d : Disk} {path : Path} {fault : Fault}

theorem isInput_of_loadReferences (hdir : d.isDirectory path.text = false)
    (h : loadReferences d path = .error fault) :
    fault.isInput = true := by
  rw [loadReferences] at h
  split at h
  · rename_i hthere
    obtain ⟨bytes, t, hfile⟩ := Disk.exists_file_of_isThere hthere hdir
    rw [Disk.read_of_find? hfile] at h
    dsimp only [bind, Except.bind] at h
    cases hread : readReferences bytes with
    | error e =>
      rw [hread] at h
      cases h
      rfl
    | ok rs =>
      rw [hread] at h
      cases h
  · cases h
    rfl

theorem isInput_of_loadUsed (hdir : d.isDirectory path.text = false) (h : loadUsed d path = .error fault) :
    fault.isInput = true := by
  rw [loadUsed] at h
  split at h
  · rename_i hthere
    obtain ⟨bytes, t, hfile⟩ := Disk.exists_file_of_isThere hthere hdir
    rw [Disk.read_of_find? hfile] at h
    dsimp only [bind, Except.bind] at h
    split at h
    · cases h
    · cases h
      rfl
  · cases h
    rfl

end Store

namespace Manifest
variable {d : Disk} {path : Path} {fault : Fault}

/-- A manifest's text is one that the JSON reader can tell whether it is JSON: no numeral is too long for it, and
nothing goes too deep. -/
def WithinLimits (text : String) : Prop := ∀ fault, Json.parse text = .error fault → ∃ m, fault = .malformed m

theorem isInput_of_parse {text : String} (hlimits : WithinLimits text) (h : parse text = .error fault) :
    fault.isInput = true := by
  rw [parse] at h
  split at h
  · rename_i jsonFault hjson
    obtain ⟨m, rfl⟩ := hlimits jsonFault hjson
    cases h
    rfl
  · split at h
    · cases h
      rfl
    · cases h

/-- A place that holds a manifest, or no file that could be taken for one: neither a
directory nor a text beyond the limits. -/
structure Legible (d : Disk) (path : Path) : Prop where
  isFile : d.isDirectory path.text = false
  withinLimits : ∀ bytes t text, d.find? path.text = some (.file bytes t) →
    Text.Utf8.decode (Text.Utf8.withoutMark bytes) = .ok text → WithinLimits text

theorem legible_of_load {m : Manifest} (h : load d path = .ok m) : Legible d path := by
  obtain ⟨bytes, t, hfile⟩ := find?_of_load h
  constructor
  · simp [Disk.isDirectory, hfile]
  · intro bytes' t' text hfile' hdecode fault hjson
    rw [hfile] at hfile'
    cases hfile'
    rw [load_of_find? hfile, read, hdecode] at h
    dsimp only at h
    rw [parse, hjson] at h
    cases h

theorem Legible.isInput_of_load (hlegible : Legible d path) (h : load d path = .error fault) :
    fault.isInput = true := by
  by_cases hthere : d.isThere path.text = true
  · obtain ⟨bytes, t, hfile⟩ := Disk.exists_file_of_isThere hthere hlegible.isFile
    rw [load_of_find? hfile, read] at h
    split at h
    · cases h
      rfl
    · rename_i text hdecode
      exact isInput_of_parse (hlegible.withinLimits bytes t text hfile hdecode) h
  · rw [load, if_neg hthere] at h
    cases h
    rfl

end Manifest

/-- A naming that fails, if at all, by modules that cannot be read. -/
def ModuleNaming.FailsByInput (naming : ModuleNaming) : Prop :=
  ∀ path fault, naming path = .error fault → fault.isInput = true

namespace PackageGraph
variable {d : Disk} {m : Manifest} {ignored : List String} {naming : ModuleNaming} {fault : Fault}

theorem isInput_of_packageOf (hnaming : naming.FailsByInput) {e : String × TargetLibrary}
    (h : packageOf d m ignored naming e = .error fault) : fault.isInput = true := by
  rcases bind_eq_error.1 h with hdirectory | ⟨directory, -, hrest⟩
  · rw [directoryOf] at hdirectory
    split at hdirectory
    · cases hdirectory
    · cases hdirectory
      rfl
  · rcases bind_eq_error.1 hrest with hmodules | ⟨modules, -, hpure⟩
    · rw [compileModules] at hmodules
      generalize hnames : List.mapM (fun a => naming (Path.joinText directory a)) _ = names at hmodules
      cases names with
      | ok names => cases hmodules
      | error e' =>
        cases hmodules
        obtain ⟨asset, -, hasset⟩ := Lists.exists_of_mapM_eq_error hnames
        exact hnaming _ _ hasset
    · cases hpure

theorem isInput_of_build (hnaming : naming.FailsByInput) {selector : Selector}
    (h : build d m selector ignored naming = .error fault) : fault.isInput = true := by
  rw [build] at h
  split at h
  · cases h
    rfl
  · rename_i target _
    cases hpackages : (packageEntries target).mapM (packageOf d m ignored naming) with
    | ok ps =>
      rw [hpackages] at h
      cases h
    | error e =>
      rw [hpackages] at h
      cases h
      obtain ⟨entry, -, hentry⟩ := Lists.exists_of_mapM_eq_error hpackages
      exact isInput_of_packageOf hnaming hentry

end PackageGraph

theorem isInput_of_resolveTarget {d : Disk} {m : Manifest} {selector : Selector} {ignored : List String}
    {naming : ModuleNaming} (hnaming : naming.FailsByInput) {fault : Fault}
    (h : resolveTarget d m selector ignored naming = .error fault) : fault.isInput = true := by
  rw [resolveTarget] at h
  cases hbuild : PackageGraph.build d m selector ignored naming with
  | ok g =>
    rw [hbuild] at h
    cases h
  | error e =>
    rw [hbuild] at h
    cases h
    exact PackageGraph.isInput_of_build hnaming hbuild

theorem Analysis.isInput_of_resolveAfresh {d : Disk} {path : Path} (hlegible : Manifest.Legible d path)
    {naming : ModuleNaming} (hnaming : naming.FailsByInput) {selector : Selector} {ids : List String}
    {fault : Fault}
    (h : resolveAfresh d path selector (.ok ids) naming = .error fault) : fault.isInput = true := by
  rcases bind_eq_error.1 h with hload | ⟨m, -, hresolve⟩
  · exact hlegible.isInput_of_load hload
  · exact isInput_of_resolveTarget hnaming hresolve

namespace ManifestCache
variable {ι : Type} [DecidableEq ι] {c : ManifestCache ι} {d : Disk} {path : Path} {fault : Fault}

/-- Whatever a cache keeps, for a path that can be resolved it fails only as reading and resolving do. -/
theorem isInput_of_resolve (alloc : Allocation) {namings : ι → ModuleNaming} {naming : ι} {key : String}
    (hkey : pathKey d path = .ok key) (hnaming : (namings naming).FailsByInput)
    (hlegible : Manifest.Legible d path) {selector : Selector}
    {ids : List String} (h : (c.resolve alloc d namings path selector (.ok ids) naming).1 = .error fault) :
    fault.isInput = true := by
  rcases resolve_cases alloc d namings path selector (.ok ids) naming c with
    ⟨e, c', hmanifest, hout⟩ | ⟨k, c', -, ⟨e, hids, -⟩ | ⟨ids', -, hout⟩⟩
  · rw [hout] at h
    cases h
    rcases manifest_cases alloc hkey c with ⟨k, -, -, hhit⟩ | ⟨c₀, -, -, hreload⟩
    · rw [hhit] at hmanifest
      cases hmanifest
    · rcases reload_cases alloc d path key c₀ with ⟨e', hload, hfailed⟩ | ⟨m, -, hloaded⟩
      · rw [hreload, hfailed] at hmanifest
        cases hmanifest
        exact hlegible.isInput_of_load hload
      · rw [hreload, hloaded] at hmanifest
        cases hmanifest
  · cases hids
  · rw [hout] at h
    rcases resolveKept_cases d namings k selector ids' naming c' with
      ⟨r, -, hkept⟩ | ⟨-, ⟨e, hresolve, hkept⟩ | ⟨r, -, hkept⟩⟩ <;> rw [hkept] at h <;> cases h
    exact isInput_of_resolveTarget hnaming hresolve

end ManifestCache

namespace Analysis
variable {ι : Type}

/-- What a request names, and what its analysis writes, are files where anything is there at all; its manifest is
within the limits, and a cache can resolve the manifest's path. -/
structure Unobstructed (policy : Policy) (w : Workspace ι) (r : Request) : Prop where
  declared : w.disk.isDirectory r.declared.text = false
  report : r.used = none → ∀ path ∈ r.usedReport, w.disk.isDirectory path.text = false
  manifest : r.target.isSome → ∀ path ∈ r.manifest, Manifest.Legible w.disk (Path.ofString path)
  resolved : r.target.isSome → ∀ path ∈ r.manifest, w.cache.isSome →
    ∃ key, ManifestCache.pathKey w.disk (Path.ofString path) = .ok key
  listings : policy.dump = true → ∀ name ∈ [Store.usedFileName, Store.unusedFileName],
    w.disk.isDirectory (r.declared.parent.child name).text = false ∧
      w.disk.isLoop (r.declared.parent.child name).text = false

variable {policy : Policy} {r : Request} {fault : Fault}

theorem isInput_of_usedModules {d : Disk}
    (hreport : r.used = none → ∀ path ∈ r.usedReport, d.isDirectory path.text = false)
    (h : usedModules d r = .error fault) : fault.isInput = true := by
  rw [usedModules] at h
  split at h
  · cases h
  · rename_i path hused hpath
    exact Store.isInput_of_loadUsed (hreport hused path hpath) h
  · cases h
    rfl

theorem exists_conclude_eq_ok {s : Suppression} (hs : policy.suppression = .ok s) (r : Request) (dumped : List Path)
    (judged : Except Fault (List Verdict)) : ∃ o, conclude policy r dumped judged = .ok o := by
  cases judged with
  | error e => exact ⟨_, rfl⟩
  | ok vs =>
    rw [conclude]
    dsimp only
    split
    · rw [hs]
      exact ⟨_, rfl⟩
    · exact ⟨_, rfl⟩

theorem module_of_conclude {dumped : List Path} {judged : Except Fault (List Verdict)} {o : Outcome}
    (h : conclude policy r dumped judged = .ok o) : o.module = r.module := by
  cases judged with
  | error e =>
    cases h
    rfl
  | ok vs =>
    rw [conclude] at h
    dsimp only at h
    split at h
    · obtain ⟨s, -, hpure⟩ := bind_eq_ok.1 h
      cases hpure
      rfl
    · cases h
      rfl

theorem exists_runOn_runDump {w v : Workspace ι} (hp : ∀ part ∈ r.declared.parts, Path.IsComponent part)
    (h : Unobstructed policy w r) {references : List Reference}
    (hreferences : Store.loadReferences w.disk r.declared = .ok references) (hdisk : v.disk = w.disk)
    (used : List String) : ∃ dumped v', runOn (runDump policy r used) v = (.ok dumped, v') := by
  rw [runDump]
  cases hdump : policy.dump with
  | false => exact ⟨[], v, rfl⟩
  | true =>
    have hthere : w.disk.isThere r.declared.text = true := by
      by_contra hnot
      rw [Store.loadReferences, if_neg hnot] at hreferences
      cases hreferences
    obtain ⟨bytes, t, hfile⟩ := Disk.exists_file_of_isThere hthere h.declared
    obtain ⟨dumped, d', hrun⟩ := Store.exists_runOn_dump hp hfile (h.listings hdump) used r.offered
    refine ⟨dumped, { v with disk := d' }, ?_⟩
    rw [if_pos rfl, runOn_onDisk, hdisk, hrun]

variable [DecidableEq ι] {env : Environment ι} {w w' : Workspace ι}

theorem isInput_of_resolvePackages (hnaming : (env.namings env.naming).FailsByInput) {ids : List String}
    (hignored : policy.ignoredBuildFiles = .ok ids)
    (hclear : Unobstructed policy w r) (h : (runOn (resolvePackages env policy r) w).1 = .error fault) :
    fault.isInput = true := by
  rw [resolvePackages] at h
  split at h
  · cases h
  · cases h
    rfl
  · rename_i path selector hpath htarget
    have htargeted : r.target.isSome := by simp [htarget]
    have hlegible := hclear.manifest htargeted path hpath
    rw [runOn_map] at h
    cases hresolve : (runOn (resolve env (Path.ofString path) selector policy.ignoredBuildFiles) w).1 with
    | ok x =>
      rw [hresolve] at h
      cases h
    | error e =>
      rw [hresolve] at h
      cases h
      rw [runOn_resolve, hignored] at hresolve
      cases hcache : w.cache with
      | none =>
        rw [hcache] at hresolve
        exact isInput_of_resolveAfresh hlegible hnaming hresolve
      | some c =>
        obtain ⟨key, hkey⟩ := hclear.resolved htargeted path hpath (by simp [hcache])
        rw [hcache] at hresolve
        exact ManifestCache.isInput_of_resolve env.allocation hkey hnaming hlegible hresolve

theorem disk_of_resolvePackages {result : Except Fault (Option Resolved)}
    (h : runOn (resolvePackages env policy r) w = (result, w')) : w'.disk = w.disk := by
  rw [resolvePackages] at h
  split at h
  · cases h
    rfl
  · cases h
    rfl
  · rw [runOn_map, runOn_resolve] at h
    cases hcache : w.cache <;> rw [hcache] at h <;> exact (congrArg (·.2.disk) h).symm

theorem module_of_analyze {o : Outcome} (h : runOn (analyze env policy r) w = (.ok o, w')) :
    o.module = r.module := by
  cases hfailed : r.compilerFailed with
  | true =>
    rw [runOn_analyze_of_compilerFailed hfailed] at h
    cases h
    rfl
  | false =>
    obtain ⟨_, _, _, _, _, -, -, -, -, hconclude⟩ := (analyze_eq_ok_iff hfailed).1 h
    exact module_of_conclude hconclude

/-- An analysis that nothing obstructs fails by its input only. -/
theorem Unobstructed.isInput_of_analyze (h : r.compilerFailed = false → Unobstructed policy w r)
    (hp : ∀ part ∈ r.declared.parts, Path.IsComponent part) (hnaming : (env.namings env.naming).FailsByInput)
    {ids : List String} (hignored : policy.ignoredBuildFiles = .ok ids) {s : Suppression}
    (hs : policy.suppression = .ok s) (hrun : (runOn (analyze env policy r) w).1 = .error fault) :
    fault.isInput = true := by
  cases hfailed : r.compilerFailed with
  | true =>
    rw [runOn_analyze_of_compilerFailed hfailed] at hrun
    cases hrun
  | false =>
    have hclear := h hfailed
    rcases analyze_fault_cases hfailed hrun with
      hreferences | ⟨references, hreferences, hused | hresolved | ⟨used, resolved, v, hresolved, hrest⟩⟩
    · exact Store.isInput_of_loadReferences hclear.declared hreferences
    · exact isInput_of_usedModules hclear.report hused
    · exact isInput_of_resolvePackages hnaming hignored hclear hresolved
    · have hdisk := disk_of_resolvePackages hresolved
      rcases hrest with hdumped | ⟨dumped, hconclude⟩
      · obtain ⟨dumped, v', hdump⟩ := exists_runOn_runDump hp hclear hreferences hdisk used
        rw [hdump] at hdumped
        cases hdumped
      · obtain ⟨o, ho⟩ := exists_conclude_eq_ok hs r dumped (verdicts policy resolved references used)
        rw [ho] at hconclude
        cases hconclude

end Analysis
end ReferenceAudit
