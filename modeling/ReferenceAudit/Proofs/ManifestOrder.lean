import ReferenceAudit.Proofs.EquivalentGraphs

/-!
# The order of a manifest's packages does not count

Main statement: if no two packages of a target have one key, then from the same packages in another order, among
whatever else is no package, the same graph is built, or none is; and by it references get the same verdicts and
diagnostics.
-/
namespace ReferenceAudit

theorem OrderedMap.get?_ofList_of_perm {α : Type} {es es' : List (String × α)} (h : es.Perm es')
    (hn : (es.map Prod.fst).Nodup) (key : String) : (ofList es).get? key = (ofList es').get? key := by
  have hn' : (es'.map Prod.fst).Nodup := (h.map Prod.fst).nodup_iff.1 hn
  refine Option.ext fun value => ?_
  rw [get?_eq_some_iff, get?_eq_some_iff, entries_ofList hn, entries_ofList hn', h.mem_iff]

namespace PackageGraph

/-- Two graphs that are the same maps: of packages, and of sets of dependents. -/
structure SameMaps (g g' : PackageGraph) : Prop where
  packages : ∀ key, g.packages.get? key = g'.packages.get? key
  indexed : ∀ key, key ∈ g.dependents.keys ↔ key ∈ g'.dependents.keys
  dependents : ∀ key x, x ∈ g.dependents.getD key [] ↔ x ∈ g'.dependents.getD key []

/-- The key of the package that an entry of a target stands for. -/
def entryKey (e : String × TargetLibrary) : String := packageKey (idAndVersion e.1).1

/-- Two targets with the same packages, in whatever order, no two of which have one key. -/
structure SamePackages (target target' : OrderedMap TargetLibrary) : Prop where
  perm : (packageEntries target).Perm (packageEntries target')
  distinct : ((packageEntries target).map entryKey).Nodup

theorem SamePackages.symm {target target' : OrderedMap TargetLibrary} (h : SamePackages target target') :
    SamePackages target' target :=
  ⟨h.perm.symm, (h.perm.map entryKey).nodup_iff.1 h.distinct⟩

theorem equivalent_of_packages {g g' : PackageGraph} (h : ∀ key, g.packages.get? key = g'.packages.get? key) :
    g.Equivalent g' := by
  intro key
  rw [h key]
  cases g'.packages.get? key with
  | none => exact .none
  | some p => exact .some (.refl p)

theorem sameMaps_of_packages {g g' : PackageGraph} (hv : g.verify = .ok ()) (hv' : g'.verify = .ok ())
    (h : ∀ key, g.packages.get? key = g'.packages.get? key) : g.SameMaps g' := by
  have hequivalent := equivalent_of_packages h
  refine ⟨h, fun key => ?_, mem_dependents_congr hv hv' hequivalent⟩
  rw [(verify_eq_ok_iff.1 hv).1, (verify_eq_ok_iff.1 hv').1, mem_indexedKeys, mem_indexedKeys,
    OrderedMap.mem_keys_iff,
    OrderedMap.mem_keys_iff, h key]
  exact or_congr_right (exists_congr fun x => mem_dependers_congr hequivalent)

section
variable {d : Disk} {m m' : Manifest} {selector selector' : Selector} {ignored : List String}
    {naming : ModuleNaming}
  {target target' : OrderedMap TargetLibrary} {g g' : PackageGraph}

theorem packageKey_of_packageOf {e : String × TargetLibrary} {p : Package}
    (h : packageOf d m ignored naming e = .ok p) :
    packageKey p.id = entryKey e := by
  obtain ⟨directory, -, h⟩ := bind_eq_ok.1 h
  obtain ⟨modules, -, h⟩ := bind_eq_ok.1 h
  cases h
  rfl

theorem map_packageKey_of_mapM {es : List (String × TargetLibrary)} {ps : List Package}
    (h : es.mapM (packageOf d m ignored naming) = .ok ps) :
    ps.map (fun p => packageKey p.id) = es.map entryKey := by
  have hall := Lists.mapM_eq_ok_iff.1 h
  clear h
  induction hall with
  | nil => rfl
  | cons he _ ih => rw [List.map_cons, List.map_cons, packageKey_of_packageOf he, ih]

theorem packageOf_congr (hlibraries : m.libraries = m'.libraries) (hfolders : m.folders = m'.folders) :
    packageOf d m ignored naming = packageOf d m' ignored naming := by
  funext e
  simp only [packageOf, directoryOf, relativeDirectory, Manifest.findLibrary?, hlibraries, hfolders]

/-- Packages under distinct keys are found in whatever order they came. -/
theorem get?_packages_of_perm {ps ps' : List Package} (h : ps.Perm ps')
    (hn : (ps.map fun p => packageKey p.id).Nodup)
    (key : String) : (ofPackages ps).packages.get? key = (ofPackages ps').packages.get? key := by
  have hentries : (ps.map fun p => (packageKey p.id, p)).Perm (ps'.map fun p => (packageKey p.id, p)) := h.map _
  have hkeys : ((ps.map fun p => (packageKey p.id, p)).map Prod.fst).Nodup := by simpa [Function.comp_def] using hn
  rw [ofPackages, ofPackages]
  exact OrderedMap.get?_ofList_of_perm hentries hkeys key

/-- From the same packages in another order a graph is built with the same packages. -/
theorem exists_build_of_samePackages (hlibraries : m.libraries = m'.libraries) (hfolders : m.folders = m'.folders)
    (htarget : m.findTarget? selector.targetKey = some target)
    (htarget' : m'.findTarget? selector'.targetKey = some target') (h : SamePackages target target')
    (hb : build d m selector ignored naming = .ok g) :
    ∃ g', build d m' selector' ignored naming = .ok g' ∧ ∀ key, g.packages.get? key = g'.packages.get? key := by
  obtain ⟨_, ps, hfound, hps, rfl⟩ := build_eq_ok_iff.1 hb
  cases htarget.symm.trans hfound
  obtain ⟨ps', hps', hperm⟩ := Lists.exists_perm_of_mapM_eq_ok h.perm hps
  rw [packageOf_congr hlibraries hfolders] at hps'
  refine ⟨ofPackages ps', build_eq_ok_iff.2 ⟨target', ps', htarget', hps', rfl⟩, get?_packages_of_perm hperm ?_⟩
  rw [map_packageKey_of_mapM hps]
  exact h.distinct

end
end PackageGraph

/-! ## Verdicts and diagnostics -/

/-- The same verdict on one reference; the modules in use that it brings in can stand in another order. -/
structure Verdict.Equivalent (v v' : Verdict) : Prop where
  reference : v.reference = v'.reference
  classification : v.classification = v'.classification
  ownUsed : v.ownUsed = v'.ownUsed
  transitiveUsed : ∀ x, x ∈ v.transitiveUsed ↔ x ∈ v'.transitiveUsed

theorem Verdict.Equivalent.refl (v : Verdict) : v.Equivalent v := ⟨rfl, rfl, rfl, fun _ => Iff.rfl⟩

theorem Judgement.Equivalent.verdict? {x y : Judgement} (h : x.Equivalent y) (r : Reference) :
    Option.Rel Verdict.Equivalent (x.verdict? r) (y.verdict? r) := by
  cases h with
  | refl =>
    cases x.verdict? r with
    | none => exact .none
    | some v => exact .some (.refl v)
  | hasBuildFiles => exact .none
  | judged c own h => exact .some ⟨rfl, rfl, rfl, h⟩

namespace Diagnostic

theorem ofVerdict?_congr {v v' : Verdict} (hreference : v.reference = v'.reference)
    (hclassification : v.classification = v'.classification) : ofVerdict? v = ofVerdict? v' := by
  simp only [ofVerdict?, arguments, hreference, hclassification]

theorem ofVerdicts_congr {vs vs' : List Verdict} (h : List.Forall₂ Verdict.Equivalent vs vs') (ignore : Ignoring) :
    ofVerdicts ignore vs = ofVerdicts ignore vs' := by
  induction h with
  | nil => rfl
  | cons hv _ ih =>
    rw [ofVerdicts, ofVerdicts] at ih ⊢
    rw [List.filterMap_cons, List.filterMap_cons, ofVerdict?_congr hv.reference hv.classification, hv.reference, ih]

end Diagnostic

namespace Judge
open PackageGraph

/-- Manifests whose targets list the same packages in another order give the same graph, or none, and by it the same
verdicts and diagnostics. -/
theorem reordered_packages_judged_alike {m m' : Manifest} {selector selector' : Selector}
    {target target' : OrderedMap TargetLibrary} (hlibraries : m.libraries = m'.libraries)
    (hfolders : m.folders = m'.folders) (htarget : m.findTarget? selector.targetKey = some target)
    (htarget' : m'.findTarget? selector'.targetKey = some target') (h : SamePackages target target') (d : Disk)
    (ignored : List String) (naming : ModuleNaming) :
    ((∃ g, build d m selector ignored naming = .ok g) ↔ ∃ g', build d m' selector' ignored naming = .ok g') ∧
      ∀ g g', build d m selector ignored naming = .ok g → build d m' selector' ignored naming = .ok g' →
        g.SameMaps g' ∧
        (∀ id, (∀ x, x ∈ (Contributions.ofGraph g).modulesFor id ↔ x ∈ (Contributions.ofGraph g').modulesFor id) ∧
          ∀ x, x ∈ (Contributions.ofGraph g).buildFilesFor id ↔ x ∈ (Contributions.ofGraph g').buildFilesFor id) ∧
        ∀ implicit rs used,
          let vs := (ofResolved (some (.ofGraph g)) implicit).verdicts rs used
          let vs' := (ofResolved (some (.ofGraph g')) implicit).verdicts rs used
          List.Forall₂ Verdict.Equivalent vs vs' ∧
            ∀ ignore docEnabled, Diagnostic.emit ignore docEnabled vs = Diagnostic.emit ignore docEnabled vs' := by
  constructor
  · constructor
    · rintro ⟨g, hb⟩
      obtain ⟨g', hb', -⟩ := exists_build_of_samePackages hlibraries hfolders htarget htarget' h hb
      exact ⟨g', hb'⟩
    · rintro ⟨g', hb'⟩
      obtain ⟨g, hb, -⟩ := exists_build_of_samePackages hlibraries.symm hfolders.symm htarget' htarget h.symm hb'
      exact ⟨g, hb⟩
  · intro g g' hb hb'
    have hv := verify_of_build hb
    have hv' := verify_of_build hb'
    have hpackages : ∀ key, g.packages.get? key = g'.packages.get? key := by
      obtain ⟨g'', hb'', hpackages⟩ := exists_build_of_samePackages hlibraries hfolders htarget htarget' h hb
      cases hb'.symm.trans hb''
      exact hpackages
    have hequivalent := equivalent_of_packages hpackages
    refine ⟨sameMaps_of_packages hv hv' hpackages, fun id => ⟨?_, ?_⟩, fun implicit rs used => ?_⟩
    · exact Contributions.mem_modulesFor_congr hv hv' hequivalent id
    · exact Contributions.mem_buildFilesFor_congr hv hv' hequivalent id
    · have hsame : ∀ key, key ∈ implicit.map moduleKey ↔ key ∈ implicit.map moduleKey := fun _ => Iff.rfl
      have hagrees := agrees_of_equivalent hv hv' hequivalent hsame
      have hverdicts : List.Forall₂ Verdict.Equivalent ((ofResolved (some (.ofGraph g)) implicit).verdicts rs used)
          ((ofResolved (some (.ofGraph g')) implicit).verdicts rs used) :=
        Lists.forall₂_filterMap fun s _ => (hagrees.judge_equivalent _ s).verdict? s.first
      refine ⟨hverdicts, fun ignore docEnabled => ?_⟩
      rw [Diagnostic.emit, Diagnostic.emit, Diagnostic.ofVerdicts_congr hverdicts]

def turnedManifest : Manifest where
  version := 3
  targets := OrderedMap.ofList [("t", OrderedMap.ofList
    [("P/1", ⟨"project", none, OrderedMap.ofList [("A", "1")], ["p.dll"], []⟩),
      ("B/1", ⟨"package", none, OrderedMap.ofList [("a", "1")], ["b.dll", "_._"], []⟩),
      ("A/1", ⟨"package", none, OrderedMap.ofList [("b", "1"), ("c", "1")], ["a.dll"], []⟩)])]
  libraries := OrderedMap.empty
  folders := ["/p"]

/-- The graphs hold the packages in another order, and what they are judged to be is the same. -/
theorem turned_judged_alike :
    SamePackages (mutualManifest.targets.getD "n" .empty) (turnedManifest.targets.getD "t" .empty) ∧
      ∃ g g', build mutualDisk mutualManifest ⟨"N", none⟩ [] .ok = .ok g ∧
        build mutualDisk turnedManifest ⟨"t", none⟩ [] .ok = .ok g' ∧ g.packages.keys = ["a", "b"] ∧
        g'.packages.keys = ["b", "a"] ∧ g.SameMaps g' ∧
        List.Forall₂ Verdict.Equivalent
          ((ofResolved (some (.ofGraph g)) []).verdicts [⟨"", .package, "A"⟩] ["/p/b/1/B.dll"])
          ((ofResolved (some (.ofGraph g')) []).verdicts [⟨"", .package, "A"⟩] ["/p/b/1/B.dll"]) := by
  let a : Package := ⟨"A", "1", ["b", "c"], ["/p/a/1/a.dll"], []⟩
  let b : Package := ⟨"B", "1", ["a"], ["/p/b/1/b.dll"], []⟩
  have hb : build mutualDisk mutualManifest ⟨"N", none⟩ [] .ok = .ok (ofPackages [a, b]) := by decide +kernel
  have hb' : build mutualDisk turnedManifest ⟨"t", none⟩ [] .ok = .ok (ofPackages [b, a]) := by decide +kernel
  have hsame : SamePackages (mutualManifest.targets.getD "n" .empty) (turnedManifest.targets.getD "t" .empty) :=
    ⟨by decide +kernel, by decide +kernel⟩
  have hfound : mutualManifest.findTarget? (Selector.targetKey ⟨"N", none⟩) =
      some (mutualManifest.targets.getD "n" .empty) := by
    decide +kernel
  have hfound' : turnedManifest.findTarget? (Selector.targetKey ⟨"t", none⟩) =
      some (turnedManifest.targets.getD "t" .empty) := by
    decide +kernel
  have hlibraries : mutualManifest.libraries = turnedManifest.libraries := rfl
  have hfolders : mutualManifest.folders = turnedManifest.folders := rfl
  obtain ⟨-, hjudged⟩ := reordered_packages_judged_alike hlibraries hfolders hfound hfound' hsame mutualDisk [] .ok
  obtain ⟨hmaps, -, hverdicts⟩ := hjudged _ _ hb hb'
  exact ⟨hsame, _, _, hb, hb', by decide +kernel, by decide +kernel, hmaps, (hverdicts [] _ _).1⟩

end Judge
end ReferenceAudit
