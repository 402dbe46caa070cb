import ReferenceAudit.Proofs.CacheRuns
import ReferenceAudit.Proofs.ExpectedFaults

/-!
# Targets asked for again under another name

A cache keeps targets under their folded names, but a manifest is asked for the very name first. So a target
that is kept is given for every name that differs in case only, be it another target's very name or not. Main
statement: what the second of two such names gives, and when that is what its manifest has.
-/
namespace ReferenceAudit.ManifestCache
variable {ι : Type} {c c' : ManifestCache ι} {alloc : Allocation} {d : Disk} {path : Path} {k : KeptManifest}

variable [DecidableEq ι] {namings : ι → ModuleNaming} {s₁ s₂ : Selector} {ids : List String} {naming : ι}

theorem resolveKept_of_none {s : Selector} (h : c.target? (keyOf k s ids naming) = none) :
    c.resolveKept d namings k s ids naming = match resolveTarget d k.manifest s ids (namings naming) with
      | .ok r => (.ok r, c.miss.keepTarget (keyOf k s ids naming) r)
      | .error fault => (.error fault, c.miss) := by
  rw [keyOf] at h
  rw [resolveKept]
  simp only [h, resolveTarget_sorted]
  rfl

theorem manifests_resolveKept (s : Selector) :
    (c.resolveKept d namings k s ids naming).2.manifests = c.manifests := by
  rcases resolveKept_cases d namings k s ids naming c with
    ⟨r, -, hout⟩ | ⟨-, ⟨fault, -, hout⟩ | ⟨r, -, hout⟩⟩ <;> rw [hout] <;> rfl

/-- What was given for one name is given for every name that differs in case only;
only after a fault is the manifest asked. -/
theorem resolveKept_again (hkey : Text.fold s₁.targetKey = Text.fold s₂.targetKey)
    (htargets : c'.targets = (c.resolveKept d namings k s₁ ids naming).2.targets) :
    (c'.resolveKept d namings k s₂ ids naming).1 = match (c.resolveKept d namings k s₁ ids naming).1 with
      | .ok r => .ok r
      | .error _ => resolveTarget d k.manifest s₂ ids (namings naming) := by
  have hsame : keyOf k s₂ ids naming = keyOf k s₁ ids naming := by rw [keyOf, keyOf, hkey]
  cases htarget : c.target? (keyOf k s₁ ids naming) with
  | some r =>
    rw [resolveKept_of_some htarget] at htargets ⊢
    have hkept : c'.target? (keyOf k s₂ ids naming) = some r := by
      rw [hsame, target?, htargets]
      exact htarget
    rw [resolveKept_of_some hkept]
  | none =>
    rw [resolveKept_of_none htarget] at htargets ⊢
    cases hresolve : resolveTarget d k.manifest s₁ ids (namings naming) with
    | ok r =>
      rw [hresolve] at htargets
      have hkept : c'.target? (keyOf k s₂ ids naming) = some r := by
        rw [hsame, target?, htargets]
        exact List.lookup_cons_self
      rw [resolveKept_of_some hkept]
    | error fault =>
      rw [hresolve] at htargets
      have hnone : c'.target? (keyOf k s₂ ids naming) = none := by
        rw [hsame, target?, htargets]
        exact htarget
      rw [resolveKept_of_none hnone]
      cases resolveTarget d k.manifest s₂ ids (namings naming) <;> rfl

theorem resolve_again (hk : (c.manifest alloc d path).1 = .ok k)
    (hkey : Text.fold s₁.targetKey = Text.fold s₂.targetKey) :
    let first := c.resolve alloc d namings path s₁ (.ok ids) naming
    (first.2.resolve alloc d namings path s₂ (.ok ids) naming).1 = match first.1 with
      | .ok r => .ok r
      | .error _ => resolveTarget d k.manifest s₂ ids (namings naming) := by
  intro first
  obtain ⟨c', hmanifest⟩ : ∃ c', c.manifest alloc d path = (.ok k, c') := ⟨_, Prod.ext hk rfl⟩
  obtain ⟨key, hpath⟩ := exists_pathKey_of_manifest hmanifest
  obtain ⟨hget, htime⟩ := get?_of_manifest hpath hmanifest
  have hfirst : first = c'.resolveKept d namings k s₁ ids naming := resolve_of_manifest hmanifest s₁
  have hagain : first.2.manifest alloc d path = (.ok k, first.2.hit) := by
    refine manifest_of_get? hpath ?_ htime
    rw [hfirst, manifests_resolveKept]
    exact hget
  rw [resolve_of_manifest hagain, hfirst]
  exact resolveKept_again hkey rfl

/-- **Names that differ in case only.** The second of two such names gives what its manifest has for it exactly
if the first one gave just that or gave nothing. So it does wherever the manifest has one target for both, and
the first one was given as the manifest has it. -/
theorem second_lookup_eq_iff (alloc : Allocation) (namings : ι → ModuleNaming) (c : ManifestCache ι) (d : Disk)
    (path : Path) {k : KeptManifest} (hk : (c.manifest alloc d path).1 = .ok k) {s₁ s₂ : Selector}
    (hkey : Text.fold s₁.targetKey = Text.fold s₂.targetKey) (ids : List String) (naming : ι) :
    let first := c.resolve alloc d namings path s₁ (.ok ids) naming
    let second := first.2.resolve alloc d namings path s₂ (.ok ids) naming
    (second.1 = resolveTarget d k.manifest s₂ ids (namings naming) ↔
      ∀ r, first.1 = .ok r → resolveTarget d k.manifest s₂ ids (namings naming) = .ok r) ∧
    (first.1 = resolveTarget d k.manifest s₁ ids (namings naming) →
      k.manifest.findTarget? s₁.targetKey = k.manifest.findTarget? s₂.targetKey →
      second.1 = resolveTarget d k.manifest s₂ ids (namings naming)) := by
  intro first second
  have hsecond : second.1 = match first.1 with
      | .ok r => .ok r
      | .error _ => resolveTarget d k.manifest s₂ ids (namings naming) := resolve_again hk hkey
  have hiff : second.1 = resolveTarget d k.manifest s₂ ids (namings naming) ↔
      ∀ r, first.1 = .ok r → resolveTarget d k.manifest s₂ ids (namings naming) = .ok r := by
    rw [hsecond]
    cases hfirst : first.1 with
    | ok r => simp [eq_comm]
    | error fault => simp
  refine ⟨hiff, fun hright htarget => hiff.2 fun r hr => ?_⟩
  exact resolveTarget_of_findTarget? htarget (hright.symm.trans hr)

omit [DecidableEq ι] in
theorem exists_manifest_empty (alloc : Allocation) {key : String} (hkey : pathKey d path = .ok key) {m : Manifest}
    (h : Manifest.load d path = .ok m) :
    ∃ k, ((empty : ManifestCache ι).manifest alloc d path).1 = .ok k ∧ k.manifest = m := by
  have hload : ((empty : ManifestCache ι).manifest alloc d path).1.map (·.manifest) = Manifest.load d path := by
    refine map_manifest_eq_load hkey fun k hk => ?_
    cases hk
  rw [h] at hload
  exact map_eq_ok.1 hload

theorem resolve_empty_of_load (alloc : Allocation) (namings : ι → ModuleNaming) {key : String}
    (hkey : pathKey d path = .ok key) {m : Manifest} (h : Manifest.load d path = .ok m) (s : Selector)
    (ids : List String) (naming : ι) :
    ((empty : ManifestCache ι).resolve alloc d namings path s (.ok ids) naming).1 =
      resolveTarget d m s ids (namings naming) := by
  rw [Analysis.resolve_empty alloc hkey, Analysis.resolveAfresh, h]
  rfl

/-- A manifest with one target, asked for by a name that is not its very name, and then by that one. -/
theorem loop_second_lookup : ∃ k,
    ((empty : ManifestCache Unit).manifest .successor Analysis.loopDisk (Path.ofString "m")).1 = .ok k ∧
    Text.fold (Selector.targetKey ⟨"t", none⟩) = Text.fold (Selector.targetKey ⟨"T", none⟩) ∧
    let first := (empty : ManifestCache Unit).resolve .successor Analysis.loopDisk (fun _ => Analysis.loopNaming)
      (Path.ofString "m") ⟨"t", none⟩ (.ok []) ()
    (first.2.resolve .successor Analysis.loopDisk (fun _ => Analysis.loopNaming) (Path.ofString "m") ⟨"T", none⟩
      (.ok []) ()).1 = resolveTarget Analysis.loopDisk k.manifest ⟨"T", none⟩ [] Analysis.loopNaming := by
  obtain ⟨k, hk, hmanifest⟩ := exists_manifest_empty (ι := Unit) .successor Analysis.pathKey_loop Analysis.load_loop
  have hkey : Text.fold (Selector.targetKey ⟨"t", none⟩) = Text.fold (Selector.targetKey ⟨"T", none⟩) := by
    decide +kernel
  have htarget : k.manifest.findTarget? (Selector.targetKey ⟨"t", none⟩) =
      k.manifest.findTarget? (Selector.targetKey ⟨"T", none⟩) := by
    rw [hmanifest]
    decide +kernel
  have hright := resolve_empty_of_load .successor (fun _ : Unit => Analysis.loopNaming) Analysis.pathKey_loop
    Analysis.load_loop ⟨"t", none⟩ [] ()
  rw [← hmanifest] at hright
  exact ⟨k, hk, hkey, (second_lookup_eq_iff _ _ _ _ _ hk hkey _ _).2 hright htarget⟩

def twinText : String :=
  "\x7b\"targets\": \x7b\"T\": \x7b\"a/1\": \x7b\x7d\x7d, \"t\": \x7b\x7d\x7d, " ++
    "\"packageFolders\": \x7b\"/p\": \x7b\x7d\x7d\x7d"

def twinManifest : Manifest :=
  ⟨3, .ofList [("T", .ofList [("a/1", ⟨"package", none, .empty, [], []⟩)]), ("t", .empty)], .empty, ["/p"]⟩

def twinDisk : Disk := stockedDisk.addFile ["w", "m"] (Text.Utf8.encode twinText)

/-- The second target is given as the first one, with a package that it does not have. -/
theorem twin_second_lookup : Manifest.load twinDisk (Path.ofString "m") = .ok twinManifest ∧
    Text.fold (Selector.targetKey ⟨"T", none⟩) = Text.fold (Selector.targetKey ⟨"t", none⟩) ∧
    let first := (empty : ManifestCache Unit).resolve .successor twinDisk (fun _ => Analysis.loopNaming)
      (Path.ofString "m") ⟨"T", none⟩ (.ok []) ()
    (first.2.resolve .successor twinDisk (fun _ => Analysis.loopNaming) (Path.ofString "m") ⟨"t", none⟩
      (.ok []) ()).1 ≠ resolveTarget twinDisk twinManifest ⟨"t", none⟩ [] Analysis.loopNaming := by
  have hload : Manifest.load twinDisk (Path.ofString "m") = .ok twinManifest := by
    have hread (path : Path) : Manifest.read path (Text.Utf8.encode twinText) = .ok twinManifest := by
      rw [Manifest.read_encode (by decide +kernel)]
      decide +kernel
    exact (Manifest.load_of_find? (t := 1) (by decide +kernel)).trans (hread _)
  have hkey : Text.fold (Selector.targetKey ⟨"T", none⟩) = Text.fold (Selector.targetKey ⟨"t", none⟩) := by
    decide +kernel
  have hfull : resolveTarget twinDisk twinManifest ⟨"T", none⟩ [] Analysis.loopNaming =
      .ok (Resolved.ofGraph (.ofPackages [⟨"a", "1", [], [], []⟩])) := by
    have hbuild : PackageGraph.build twinDisk twinManifest ⟨"T", none⟩ [] Analysis.loopNaming =
        .ok (.ofPackages [⟨"a", "1", [], [], []⟩]) := by
      decide +kernel
    rw [resolveTarget, hbuild]
    rfl
  have hbare : resolveTarget twinDisk twinManifest ⟨"t", none⟩ [] Analysis.loopNaming =
      .ok (Resolved.ofGraph (.ofPackages [])) := rfl
  have hpath : pathKey twinDisk (Path.ofString "m") = .ok "/w/m" := by decide +kernel
  obtain ⟨k, hk, -⟩ := exists_manifest_empty (ι := Unit) .successor hpath hload
  refine ⟨hload, hkey, ?_⟩
  intro first
  rw [resolve_again hk hkey, resolve_empty_of_load _ _ hpath hload, hfull, hbare]
  intro hsame
  have hgraph := congrArg Resolved.graph (Except.ok.inj hsame)
  exact absurd hgraph (by decide +kernel)

end ReferenceAudit.ManifestCache
