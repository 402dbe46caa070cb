import ReferenceAudit.Proofs.Holdings
import ReferenceAudit.Proofs.PackageVerdicts

/-!
# Ignoring the build files of more packages

More names to ignore take the build files of the packages that they name, and nothing else: what is built is the
same graph without these files. Main statement: all verdicts stay as they are, and a package gets one that had
none if and only if nothing that it includes has build files any more, and something has modules.
-/
namespace ReferenceAudit

/-! ## Graphs with some packages changed -/

namespace OrderedMap
variable {α β : Type}

theorem entries_map (f : α → β) (m : OrderedMap α) : (m.map f).entries = m.entries.map fun e => (e.1, f e.2) := rfl

theorem entries_insert (m : OrderedMap α) (key : String) (value : α) :
    (m.insert key value).entries =
      if key ∈ m.keys then m.entries.map (replaced key value) else m.entries ++ [(key, value)] := by
  rw [insert]
  split <;> rfl

theorem entries_inj {m m' : OrderedMap α} : m.entries = m'.entries ↔ m = m' := by
  cases m
  cases m'
  rw [mk.injEq]

theorem map_insert (f : α → β) (m : OrderedMap α) (key : String) (value : α) :
    (m.insert key value).map f = (m.map f).insert key (f value) := by
  have hone (e : String × α) :
      ((replaced key value e).1, f (replaced key value e).2) = replaced key (f value) (e.1, f e.2) := by
    rw [replaced, replaced]
    split <;> rfl
  rw [← entries_inj, entries_insert, keys_map, entries_map, entries_map, entries_insert]
  split
  · simp only [List.map_map, Function.comp_def, hone]
  · rw [List.map_append]
    rfl

theorem map_ofList (f : α → β) (es : List (String × α)) :
    (ofList es).map f = ofList (es.map fun e => (e.1, f e.2)) := by
  have hfold (done : OrderedMap α) : (es.foldl (fun m e => m.insert e.1 e.2) done).map f =
      (es.map fun e => (e.1, f e.2)).foldl (fun m e => m.insert e.1 e.2) (done.map f) := by
    induction es generalizing done with
    | nil => rfl
    | cons e es ih => rw [List.map_cons, List.foldl_cons, List.foldl_cons, ih, map_insert]
  exact hfold empty

end OrderedMap

namespace PackageGraph
variable {f : Package → Package}

def mapPackages (f : Package → Package) (g : PackageGraph) : PackageGraph := ⟨g.packages.map f, g.dependents⟩

theorem indexOf_map (hdependencies : ∀ p, (f p).dependencies = p.dependencies) (packages : OrderedMap Package) :
    indexOf (packages.map f) = indexOf packages := by
  have hempty : ((packages.map f).map fun _ => ([] : List String)) = packages.map fun _ => [] := by
    simp [OrderedMap.map, Function.comp_def]
  rw [indexOf, hempty, OrderedMap.entries_map, List.foldl_map]
  simp only [hdependencies, indexOf]

theorem ofPackages_map (hid : ∀ p, (f p).id = p.id) (hdependencies : ∀ p, (f p).dependencies = p.dependencies)
    (ps : List Package) : ofPackages (ps.map f) = (ofPackages ps).mapPackages f := by
  have hpackages : OrderedMap.ofList ((ps.map f).map fun p => (packageKey p.id, p)) =
      (OrderedMap.ofList (ps.map fun p => (packageKey p.id, p))).map f := by
    rw [OrderedMap.map_ofList, List.map_map, List.map_map]
    simp only [Function.comp_def, hid]
  rw [ofPackages, hpackages, indexOf_map hdependencies]
  rfl

end PackageGraph

theorem Contributions.spread_mapPackages (f : Package → Package) (g : PackageGraph)
    (items : Package → List String) :
    spread (g.mapPackages f) items = spread g (items ∘ f) := by
  rw [spread, PackageGraph.mapPackages, OrderedMap.entries_map, List.foldl_map]
  rfl

/-! ## The build files of one package -/

namespace PackageGraph
variable {d : Disk} {m : Manifest} {selector : Selector} {ignored ignored' : List String} {naming : ModuleNaming}

/-- A package without its build files, if these are to be ignored. -/
def withoutIgnored (ignored : List String) (p : Package) : Package :=
  if isIgnored ignored p.id then { p with buildFiles := [] } else p

/-- A graph without the build files that are to be ignored. -/
abbrev ignoring (ignored : List String) (g : PackageGraph) : PackageGraph := g.mapPackages (withoutIgnored ignored)

section
variable (ignored : List String) (p : Package)

@[simp] theorem id_withoutIgnored : (withoutIgnored ignored p).id = p.id := by
  rw [withoutIgnored]
  split <;> rfl

@[simp] theorem dependencies_withoutIgnored : (withoutIgnored ignored p).dependencies = p.dependencies := by
  rw [withoutIgnored]
  split <;> rfl

@[simp] theorem modules_withoutIgnored : (withoutIgnored ignored p).modules = p.modules := by
  rw [withoutIgnored]
  split <;> rfl

theorem buildFiles_withoutIgnored :
    (withoutIgnored ignored p).buildFiles = if isIgnored ignored p.id then [] else p.buildFiles := by
  rw [withoutIgnored]
  split <;> rfl

end

section
variable (h : ∀ i ∈ ignored, ∃ i' ∈ ignored', packageKey i' = packageKey i)
include h

theorem isIgnored_of_more {id : String} (hid : isIgnored ignored id = true) : isIgnored ignored' id = true := by
  rw [isIgnored, List.contains_iff_mem, List.mem_map] at hid ⊢
  obtain ⟨i, hi, hkey⟩ := hid
  obtain ⟨i', hi', hsame⟩ := h i hi
  exact ⟨i', hi', hsame.trans hkey⟩

theorem buildFilesOf_of_more (id directory : String) (l : TargetLibrary) :
    buildFilesOf ignored' id directory l =
      if isIgnored ignored' id then [] else buildFilesOf ignored id directory l := by
  rw [buildFilesOf, buildFilesOf]
  by_cases hid : isIgnored ignored' id = true
  · rw [if_pos hid, if_pos hid]
  · rw [if_neg hid, if_neg hid, if_neg (mt (isIgnored_of_more h) hid)]

theorem packageOf_of_more (e : String × TargetLibrary) :
    packageOf d m ignored' naming e = (packageOf d m ignored naming e).map (withoutIgnored ignored') := by
  simp only [packageOf]
  cases directoryOf d m (idAndVersion e.1).1 (idAndVersion e.1).2 with
  | error fault => rfl
  | ok directory =>
    simp only [bind, Except.bind]
    cases compileModules naming directory e.2 with
    | error fault => rfl
    | ok modules =>
      simp only [pure, Except.pure, Except.map, withoutIgnored, buildFilesOf_of_more h]
      split <;> rfl

theorem build_of_more : build d m selector ignored' naming =
    (build d m selector ignored naming).map (ignoring ignored') := by
  have hpackages : packageOf d m ignored' naming =
      fun e => (packageOf d m ignored naming e).map (withoutIgnored ignored') :=
    funext fun e => packageOf_of_more h e
  rw [build, build]
  cases m.findTarget? selector.targetKey with
  | none => rfl
  | some target =>
    dsimp only
    rw [hpackages, Lists.mapM_map]
    cases (packageEntries target).mapM (packageOf d m ignored naming) with
    | error fault => rfl
    | ok ps =>
      have hids := id_withoutIgnored ignored'
      have hdependencies := dependencies_withoutIgnored ignored'
      exact congrArg Except.ok (ofPackages_map hids hdependencies ps)

end

/-! ## What packages include -/

theorem get?_mapPackages {f : Package → Package} (g : PackageGraph) (key : String) :
    (g.mapPackages f).packages.get? key = (g.packages.get? key).map f :=
  OrderedMap.get?_map f g.packages key

theorem keys_mapPackages (f : Package → Package) (g : PackageGraph) :
    (g.mapPackages f).packages.keys = g.packages.keys :=
  OrderedMap.keys_map f g.packages

theorem includes_mapPackages {f : Package → Package} (hdependencies : ∀ p, (f p).dependencies = p.dependencies)
    {g : PackageGraph} {key other : String} {p' : Package} :
    (g.mapPackages f).Includes key other p' ↔ ∃ p, g.Includes key other p ∧ f p = p' := by
  have hrequires : (g.mapPackages f).Requires = g.Requires := by
    funext a b
    simp only [Requires, get?_mapPackages, keys_mapPackages, Option.map_eq_some_iff, Package.dependsOn, eq_iff_iff]
    refine and_congr_right fun _ => ⟨?_, ?_⟩
    · rintro ⟨_, ⟨p, hp, rfl⟩, hany⟩
      exact ⟨p, hp, hdependencies p ▸ hany⟩
    · rintro ⟨p, hp, hany⟩
      exact ⟨f p, ⟨p, hp, rfl⟩, (hdependencies p).symm ▸ hany⟩
  simp only [Includes, BringsIn, hrequires, get?_mapPackages, Option.map_eq_some_iff, and_assoc, exists_and_left]

/-- A package of the first graph that includes modules, and build files there, but none in the second graph. -/
structure IsFreed (g g' : PackageGraph) (key : String) : Prop where
  present : key ∈ g.packages.keys
  before : ∃ other p, g.Includes key other p ∧ p.buildFiles ≠ []
  after : ∀ other p, g'.Includes key other p → p.buildFiles = []
  modules : ∃ other p, g.Includes key other p ∧ p.modules ≠ []

theorem isFreed_iff {g g' : PackageGraph} (hv : g.verify = .ok ()) (hv' : g'.verify = .ok ()) {key : String} :
    g.IsFreed g' key ↔ key ∈ g.packages.keys ∧ (Contributions.spread g (·.buildFiles)).getD key [] ≠ [] ∧
      (Contributions.spread g' (·.buildFiles)).getD key [] = [] ∧
      (Contributions.spread g (·.modules)).getD key [] ≠ [] := by
  simp only [ne_eq, Contributions.spread_eq_nil_iff hv, Contributions.spread_eq_nil_iff hv']
  push Not
  constructor
  · intro h
    exact ⟨h.present, h.before, h.after, h.modules⟩
  · rintro ⟨present, before, after, modules⟩
    exact ⟨present, before, after, modules⟩

end PackageGraph

/-! ## Verdicts -/

namespace Judge
open PackageGraph
variable {g : PackageGraph} {ignored : List String}

theorem spread_modules_withoutIgnored :
    Contributions.spread (g.ignoring ignored) (·.modules) = Contributions.spread g (·.modules) := by
  rw [Contributions.spread_mapPackages]
  simp only [Function.comp_def, modules_withoutIgnored]

theorem spread_buildFiles_withoutIgnored (hv : g.verify = .ok ())
    (hv' : (g.ignoring ignored).verify = .ok ()) {key : String}
    (h : (Contributions.spread g (·.buildFiles)).getD key [] = []) :
    (Contributions.spread (g.ignoring ignored) (·.buildFiles)).getD key [] = [] := by
  rw [Contributions.spread_eq_nil_iff hv] at h
  rw [Contributions.spread_eq_nil_iff hv']
  intro other p' hp'
  obtain ⟨p, hp, rfl⟩ := (includes_mapPackages (dependencies_withoutIgnored ignored)).1 hp'
  rw [buildFiles_withoutIgnored, h other p hp, ite_self]

/-- What modules come to, with the build files that there are and with those that are left. -/
theorem verdict?_judgeModules_of_fewer {used own transitive buildFiles left : List String}
    (h : buildFiles = [] → left = []) (r : Reference) :
    (judgeModules used own transitive buildFiles).verdict? r =
      if buildFiles ≠ [] ∧ left = [] ∧ transitive ≠ [] then none
      else (judgeModules used own transitive left).verdict? r := by
  by_cases hfiles : buildFiles = []
  · simp [hfiles, h hfiles]
  · rw [verdict?_judgeModules_eq_none_iff.2 (Or.inr hfiles)]
    split
    · rfl
    · rename_i hnot
      refine (verdict?_judgeModules_eq_none_iff.2 ?_).symm
      by_cases htransitive : transitive = []
      · exact Or.inl htransitive
      · exact Or.inr fun hleft => hnot ⟨hfiles, hleft, htransitive⟩

/-- By a graph, a package of it is judged by what its entries hold. -/
theorem verdictOn?_package {key : String} {p : Package} (hp : g.packages.get? key = some p)
    (implicit used : List String) {first : Reference} (others : List Reference)
    (hkey : packageKey first.label = key) :
    (ofResolved (some (.ofGraph g)) implicit).verdictOn? used (.package first others) =
      (judgeModules used p.modules ((Contributions.spread g (·.modules)).getD key [])
        ((Contributions.spread g (·.buildFiles)).getD key [])).verdict? first := by
  simp only [verdictOn?, judge, judgePackage, ofResolved, Resolved.ofGraph, Option.map_some, Option.bind_some,
    PackageGraph.get?, hkey, hp, Contributions.ofGraph, Contributions.modulesFor, Contributions.buildFilesFor,
    Subject.first]

/-- A subject gets the verdict that it gets with more build files ignored, if it is not freed by that. -/
theorem verdictOn?_withoutIgnored (hv : g.verify = .ok ())
    (hv' : (g.ignoring ignored).verify = .ok ()) {freed : Reference → Bool}
    (hfreed : ∀ r, freed r = true ↔
      r.kind = .package ∧ g.IsFreed (g.ignoring ignored) (packageKey r.label))
    (implicit used : List String) {rs : List Reference} {s : Subject} (hs : s ∈ Subject.ofReferences rs) :
    (ofResolved (some (.ofGraph g)) implicit).verdictOn? used s =
      if freed s.first then none
      else (ofResolved (some (.ofGraph (g.ignoring ignored))) implicit).verdictOn? used s := by
  rcases Subject.single_or_package_of_mem hs with ⟨r, -, hr, rfl⟩ | ⟨first, others, -, hfirst, rfl⟩
  · have hkept : ¬freed r = true := fun h => hr ((hfreed r).1 h).1
    rw [Subject.first, if_neg hkept]
    rfl
  · cases hp : g.packages.get? (packageKey first.label) with
    | none =>
      have hkept : ¬freed first = true := fun h =>
        OrderedMap.get?_eq_none_iff.1 hp ((hfreed first).1 h).2.present
      have hp' : (g.ignoring ignored).packages.get? (packageKey first.label) = none := by
        rw [get?_mapPackages, hp, Option.map_none]
      rw [Subject.first, if_neg hkept]
      simp only [verdictOn?, judge, judgePackage, ofResolved, Resolved.ofGraph, Option.map_some, Option.bind_some,
        PackageGraph.get?, hp, hp']
    | some p =>
      have hp' : (g.ignoring ignored).packages.get? (packageKey first.label) =
          some (withoutIgnored ignored p) := by
        rw [get?_mapPackages, hp, Option.map_some]
      have hkey : packageKey first.label ∈ g.packages.keys := OrderedMap.mem_keys_iff.2 ⟨p, hp⟩
      rw [verdictOn?_package hp implicit used others rfl, verdictOn?_package hp' implicit used others rfl,
        verdict?_judgeModules_of_fewer (spread_buildFiles_withoutIgnored hv hv'), modules_withoutIgnored,
        spread_modules_withoutIgnored, Subject.first]
      refine if_congr ?_ rfl rfl
      rw [hfreed, isFreed_iff hv hv']
      simp only [hfirst, hkey, true_and]

theorem verdicts_eq_filter {j j' : Judge} {rs : List Reference} {used : List String} {freed : Reference → Bool}
    (h : ∀ s ∈ Subject.ofReferences rs, j.verdictOn? (used.map moduleKey) s =
      if freed s.first then none else j'.verdictOn? (used.map moduleKey) s) :
    j.verdicts rs used = (j'.verdicts rs used).filter fun v => !freed v.reference := by
  rw [verdicts, verdicts, List.filter_filterMap]
  refine List.filterMap_congr fun s hs => ?_
  rw [h s hs]
  cases hv : j'.verdictOn? (used.map moduleKey) s with
  | none => simp
  | some v => cases hf : freed s.first <;> simp [Option.filter, reference_of_verdictOn? hv, hf]

/-- A package that is freed gets a verdict, at the first reference to it. -/
theorem verdict_of_isFreed (hv : g.verify = .ok ()) (hv' : (g.ignoring ignored).verify = .ok ())
    {key : String} (h : g.IsFreed (g.ignoring ignored) key) (implicit used : List String)
    {rs : List Reference} {r : Reference} (hr : rs.find? (Subject.refersTo key) = some r) :
    ∃ v, ((ofResolved (some (.ofGraph (g.ignoring ignored))) implicit).verdicts rs used).filter
      (fun v => Subject.refersTo key v.reference) = [v] ∧ v.reference = r := by
  obtain ⟨hkey, -, hfiles, hmodules⟩ := (isFreed_iff hv hv').1 h
  obtain ⟨p, hp⟩ := OrderedMap.mem_keys_iff.1 hkey
  have hp' : (g.ignoring ignored).packages.get? key = some (withoutIgnored ignored p) := by
    rw [get?_mapPackages, hp, Option.map_some]
  obtain ⟨others, hrecords⟩ : ∃ others, rs.filter (Subject.refersTo key) = r :: others := by
    rwa [← List.head?_filter, List.head?_eq_some_iff] at hr
  rw [filter_verdicts_package implicit used hp' hrecords, spread_modules_withoutIgnored, hfiles]
  have hjudged : (judgeModules (used.map moduleKey) (withoutIgnored ignored p).modules
      ((Contributions.spread g (·.modules)).getD key []) []).verdict? r ≠ none := by
    rw [Ne, verdict?_judgeModules_eq_none_iff, not_or]
    exact ⟨hmodules, fun hne => hne rfl⟩
  obtain ⟨v, hsome⟩ := Option.ne_none_iff_exists'.1 hjudged
  exact ⟨v, by rw [hsome, Option.toList_some], Judgement.reference_of_verdict? hsome⟩

/-- **Ignoring more build files only adds verdicts.** If some names to ignore are among
others, a graph is built with the one if and only if it is with the others. By these
graphs all verdicts that there were come again, and besides them there is one on each
package of the graph that included modules, and build files before but none any more. -/
theorem verdicts_of_more_ignored {ignored ignored' : List String}
    (h : ∀ i ∈ ignored, ∃ i' ∈ ignored', packageKey i' = packageKey i) (d : Disk) (m : Manifest)
    (selector : Selector) (naming : ModuleNaming) :
    ((∃ g, build d m selector ignored naming = .ok g) ↔ ∃ g', build d m selector ignored' naming = .ok g') ∧
    ∀ g g', build d m selector ignored naming = .ok g → build d m selector ignored' naming = .ok g' →
      ∀ implicit rs used,
        let vs := (ofResolved (some (.ofGraph g)) implicit).verdicts rs used
        let vs' := (ofResolved (some (.ofGraph g')) implicit).verdicts rs used
        vs.Sublist vs' ∧
        (∃ freed : Reference → Bool, (∀ r, freed r = true ↔ r.kind = .package ∧ g.IsFreed g' (packageKey r.label)) ∧
          vs = vs'.filter fun v => !freed v.reference) ∧
        ∀ key, g.IsFreed g' key → ∀ r, rs.find? (Subject.refersTo key) = some r →
          ∃ v, vs'.filter (fun v => Subject.refersTo key v.reference) = [v] ∧ v.reference = r := by
  have hmore : build d m selector ignored' naming =
      (build d m selector ignored naming).map (ignoring ignored') :=
    build_of_more h
  refine ⟨?_, fun g g' hg hg' implicit rs used => ?_⟩
  · rw [hmore]
    cases build d m selector ignored naming <;> simp [Except.map]
  · have hv := verify_of_build hg
    have hv' := verify_of_build hg'
    obtain rfl : g.ignoring ignored' = g' := by
      rw [hmore, hg] at hg'
      exact Except.ok.inj hg'
    obtain ⟨freed, hfreed⟩ : ∃ freed : Reference → Bool, ∀ r, freed r = true ↔
        r.kind = .package ∧ g.IsFreed (g.ignoring ignored') (packageKey r.label) := by
      classical exact ⟨_, fun r => decide_eq_true_iff⟩
    have hverdicts := verdicts_eq_filter fun s (hs : s ∈ Subject.ofReferences rs) =>
      verdictOn?_withoutIgnored hv hv' hfreed implicit (used.map moduleKey) hs
    refine ⟨?_, ⟨freed, hfreed, hverdicts⟩, fun key hkey r hr => verdict_of_isFreed hv hv' hkey implicit used hr⟩
    rw [hverdicts]
    exact List.filter_sublist

def toolManifest : Manifest where
  version := 3
  targets := OrderedMap.ofList [("n", OrderedMap.ofList
    [("A/1", ⟨"package", none, OrderedMap.ofList [("b", "1")], ["a.dll"], []⟩),
      ("B/1", ⟨"package", none, OrderedMap.empty, [], ["b.targets"]⟩)])]
  libraries := OrderedMap.empty
  folders := ["/p"]

/-- Without the build files of the one, the other gets a verdict. -/
theorem tool_frees_dependent :
    (∀ i ∈ ["x"], ∃ i' ∈ ["b", "X"], packageKey i' = packageKey i) ∧
      ∃ g g', build mutualDisk toolManifest ⟨"N", none⟩ ["x"] .ok = .ok g ∧
        build mutualDisk toolManifest ⟨"N", none⟩ ["b", "X"] .ok = .ok g' ∧ g.IsFreed g' "a" ∧ ¬g.IsFreed g' "b" ∧
        ((ofResolved (some (.ofGraph g)) []).verdicts [⟨"", .package, "B"⟩, ⟨"", .package, "A"⟩] []).filter
          (fun v => Subject.refersTo "a" v.reference) = [] ∧
        ∃ v, ((ofResolved (some (.ofGraph g')) []).verdicts [⟨"", .package, "B"⟩, ⟨"", .package, "A"⟩] []).filter
          (fun v => Subject.refersTo "a" v.reference) = [v] ∧ v.reference = ⟨"", .package, "A"⟩ := by
  let a : Package := ⟨"A", "1", ["b"], ["/p/a/1/a.dll"], []⟩
  let b : Package := ⟨"B", "1", [], [], ["/p/b/1/b.targets"]⟩
  let g := ofPackages [a, b]
  let g' := ofPackages [a, { b with buildFiles := [] }]
  have hmore : ∀ i ∈ ["x"], ∃ i' ∈ ["b", "X"], packageKey i' = packageKey i := by decide +kernel
  have hg : build mutualDisk toolManifest ⟨"N", none⟩ ["x"] .ok = .ok g := by decide +kernel
  have hg' : build mutualDisk toolManifest ⟨"N", none⟩ ["b", "X"] .ok = .ok g' := by decide +kernel
  have ha : g.packages.get? "a" = some a := by decide +kernel
  have hb : g.packages.get? "b" = some b := by decide +kernel
  have hnone : ∀ e ∈ g'.packages.entries, e.2.buildFiles = [] := by decide +kernel
  have htool : g.Includes "a" "b" b := ⟨.single ⟨by decide +kernel, a, ha, by decide +kernel⟩, hb⟩
  have hfreed : g.IsFreed g' "a" := by
    refine ⟨by decide +kernel, ⟨"b", b, htool, List.cons_ne_nil _ _⟩, fun other p hp => ?_,
      ⟨"a", a, ⟨.refl, ha⟩, ?_⟩⟩
    · exact hnone (other, p) (OrderedMap.get?_eq_some_iff.1 hp.2)
    · exact List.cons_ne_nil _ _
  -- the package with the build files has no modules
  have hbare : ¬g.IsFreed g' "b" := by
    intro h
    obtain ⟨other, p, ⟨hother, hp⟩, hmodules⟩ := h.modules
    rcases hother.cases_head with rfl | ⟨_, ⟨-, own, hown, hrequired⟩, -⟩
    · cases hb.symm.trans hp
      exact hmodules rfl
    · cases hb.symm.trans hown
      cases hrequired
  have hgo := package_verdicts_goByIncluded hg [] []
      [⟨"", .package, "B"⟩, ⟨"", .package, "A"⟩] ha (by decide +kernel)
  obtain ⟨-, hverdicts⟩ := verdicts_of_more_ignored hmore mutualDisk toolManifest ⟨"N", none⟩ .ok
  obtain ⟨-, -, hone⟩ := hverdicts g g' hg hg' [] [⟨"", .package, "B"⟩, ⟨"", .package, "A"⟩] []
  exact ⟨hmore, g, g', hg, hg', hfreed, hbare, hgo.none_iff.2 (.inr ⟨"b", b, htool, List.cons_ne_nil _ _⟩),
    hone "a" hfreed _ (by decide +kernel)⟩

end Judge
end ReferenceAudit
