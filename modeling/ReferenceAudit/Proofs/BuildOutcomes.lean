import ReferenceAudit.Proofs.ManifestOrder

/-!
# When a graph is built, and of what

A name stands for the entry that has it, or else for the first one that has it in another case. So a target is
found, and the library that says where in the package folders a package lies. Main statement: a graph is built
exactly if the target is found and each of its packages has a directory and modules that can all be named; else
the fault is that of the first package that lacks one of these. Of packages with one key the graph holds the
last.
-/
namespace ReferenceAudit

/-! ## Names in a map -/

namespace OrderedMap
variable {α : Type} {m : OrderedMap α} {name : String} {value : α}

/-- The value that a name stands for: the one under this very name, or else the first under a name that differs
from it in case only. -/
inductive Finds (m : OrderedMap α) (name : String) (value : α) : Prop
  | exactly (h : (name, value) ∈ m.entries)
  | recased (hno : name ∉ m.keys) {found : String}
      (h : Lists.IsFirst (fun e => Text.fold e.1 = Text.fold name) m.entries (found, value))

theorem find?_sameName_eq_some_iff : m.find? Manifest.sameName name = some value ↔ m.Finds name value := by
  rw [find?]
  cases hget : m.get? name with
  | some found =>
    have hentry : (name, found) ∈ m.entries := get?_eq_some_iff.1 hget
    have hkey : name ∈ m.keys := mem_keys_iff.2 ⟨found, hget⟩
    constructor
    · intro h
      cases h
      exact .exactly hentry
    · intro h
      cases h with
      | exactly h => rw [← hget, get?_eq_some_iff.2 h]
      | recased hno _ => exact absurd hkey hno
  | none =>
    have hno : name ∉ m.keys := get?_eq_none_iff.1 hget
    have hfirst (e : String × α) : m.entries.find? (fun e => Manifest.sameName e.1 name) = some e ↔
        Lists.IsFirst (fun e => Text.fold e.1 = Text.fold name) m.entries e := by
      simp only [Lists.find?_eq_some_iff_isFirst, Manifest.sameName, beq_iff_eq]
    simp only [Option.map_eq_some_iff, hfirst]
    constructor
    · rintro ⟨⟨found, _⟩, h, rfl⟩
      exact .recased hno h
    · intro h
      cases h with
      | exactly h => exact absurd (mem_keys_iff.2 ⟨value, get?_eq_some_iff.2 h⟩) hno
      | recased _ h => exact ⟨_, h, rfl⟩

end OrderedMap

namespace PackageGraph
variable {d : Disk} {m : Manifest} {selector : Selector} {ignored : List String} {naming : ModuleNaming}
  {name id version relative directory : String} {e : String × TargetLibrary} {p : Package} {fault : Fault}

/-! ## Where a package lies -/

def IsNamed (name id version : String) : Prop :=
  '/' ∉ id.toList ∧ (name = id ++ "/" ++ version ∨ (name = id ∧ version = ""))

/-- The path of a package in whatever folder has it: the one that the manifest lists,
if that is none or empty the standard one. -/
inductive HasPath (m : Manifest) (id version : String) : String → Prop
  | listed {library : Library} {path : String} (h : m.libraries.Finds (Manifest.libraryName id version) library)
      (hpath : library.path = some path) (hne : path ≠ "") : HasPath m id version path
  | standard (h : ∀ library, m.libraries.Finds (Manifest.libraryName id version) library →
      library.path = none ∨ library.path = some "") :
      HasPath m id version (Text.lower id ++ "/" ++ Text.lower version)

/-- The directory at the path of a package, in the first folder that has one there. -/
def LiesIn (d : Disk) (m : Manifest) (id version directory : String) : Prop :=
  ∃ relative folder, HasPath m id version relative ∧ directory = Path.joinText folder relative ∧
    Lists.IsFirst (fun folder => d.isDirectory (Path.joinText folder relative) = true) m.folders folder

theorem isNamed_iff : IsNamed name id version ↔ idAndVersion name = (id, version) := by
  have hbare {before : List Char} (h : '/' ∉ before) (rest : List Char) :
      (before ++ rest).takeWhile (· != '/') = before ++ rest.takeWhile (· != '/') :=
    List.takeWhile_append_of_pos fun c hc => bne_iff_ne.2 fun he => h (he ▸ hc)
  rw [IsNamed, idAndVersion, Prod.mk.injEq]
  constructor
  · rintro ⟨hid, rfl | ⟨rfl, rfl⟩⟩
    · have hname : (id ++ "/" ++ version).toList = id.toList ++ '/' :: version.toList := by simp
      simp [hname, hbare hid]
    · have hname := hbare hid []
      simp only [List.append_nil, List.takeWhile_nil] at hname
      simp [hname]
  · rintro ⟨rfl, rfl⟩
    by_cases hslash : '/' ∈ name.toList
    · obtain ⟨before, after, hname, hbefore⟩ := List.eq_append_cons_of_mem hslash
      refine ⟨by simp [hname, hbare hbefore, hbefore], Or.inl ?_⟩
      apply String.toList_injective
      simp [hname, hbare hbefore]
    · have hname := hbare hslash []
      simp only [List.append_nil, List.takeWhile_nil] at hname
      simp [hname, hslash]

theorem hasPath_iff : HasPath m id version relative ↔ relativeDirectory m id version = relative := by
  have hfound (library : Library) : m.libraries.Finds (Manifest.libraryName id version) library ↔
      m.findLibrary? id version = some library := OrderedMap.find?_sameName_eq_some_iff.symm
  rw [relativeDirectory]
  constructor
  · intro h
    cases h with
    | listed h hpath hne =>
      rw [(hfound _).1 h, Option.bind_some, hpath]
      split <;> simp_all
    | standard h =>
      split
      · rfl
      · rfl
      · rename_i hne hpath
        obtain ⟨library, hl, hlisted⟩ := Option.bind_eq_some_iff.1 hpath
        rcases h library ((hfound library).2 hl) with hnone | hempty <;> simp_all
  · rintro rfl
    have hunlisted {path? : Option String} (hpath : (m.findLibrary? id version).bind (·.path) = path?)
        (hno : path? = none ∨ path? = some "") :
          HasPath m id version (Text.lower id ++ "/" ++ Text.lower version) := by
      refine .standard fun library hl => ?_
      rw [(hfound library).1 hl, Option.bind_some] at hpath
      rwa [hpath]
    split
    · rename_i hpath
      exact hunlisted hpath (Or.inl rfl)
    · rename_i hpath
      exact hunlisted hpath (Or.inr rfl)
    · rename_i hne hpath
      obtain ⟨library, hl, hlisted⟩ := Option.bind_eq_some_iff.1 hpath
      exact .listed ((hfound library).2 hl) hlisted hne

theorem liesIn_iff : LiesIn d m id version directory ↔
    (m.folders.map fun folder => Path.joinText folder (relativeDirectory m id version)).find? d.isDirectory =
      some directory := by
  rw [List.find?_map, Option.map_eq_some_iff]
  simp only [LiesIn, hasPath_iff, exists_eq_left', exists_and_left, Lists.find?_eq_some_iff_isFirst,
    Function.comp_apply]
  exact exists_congr fun folder => by rw [and_comm, eq_comm]

theorem directoryOf_eq_ok_iff : directoryOf d m id version = .ok directory ↔ LiesIn d m id version directory := by
  rw [liesIn_iff, directoryOf]
  split
  · rename_i hfound
    rw [hfound, Except.ok.injEq, Option.some.injEq]
  · rename_i hnone
    simp only [hnone, reduceCtorEq]

theorem directoryOf_eq_error_iff : directoryOf d m id version = .error fault ↔
    (∀ directory, ¬LiesIn d m id version directory) ∧ fault = .packageMissing id version m.folders := by
  simp only [← directoryOf_eq_ok_iff]
  rw [directoryOf]
  split
  · simp
  · simp [eq_comm]

/-! ## The package of an entry -/

/-- The compiled modules of a library, those left out that only stand for an empty folder. -/
def compileAssets (l : TargetLibrary) : List String := l.compile.filter fun a => !Manifest.isPlaceholder a

/-- The names of a library's modules in a directory, asset by asset. -/
def AreNamed (naming : ModuleNaming) (directory : String) (l : TargetLibrary) (names : List String) : Prop :=
  List.Forall₂ (fun a x => naming (Path.joinText directory a) = .ok x) (compileAssets l) names

/-- A module that cannot be named, with all those before it named. -/
def IsFirstUnnamed (naming : ModuleNaming) (directory : String) (l : TargetLibrary) (asset : String) : Prop :=
  Lists.IsFirst (fun a => ∃ fault, naming (Path.joinText directory a) = .error fault) (compileAssets l) asset

/-- An entry of a target with a directory for its package and names for all its modules. -/
def IsComplete (d : Disk) (m : Manifest) (naming : ModuleNaming) (e : String × TargetLibrary) : Prop :=
  ∃ id version directory, IsNamed e.1 id version ∧ LiesIn d m id version directory ∧
    ∀ a ∈ compileAssets e.2, ∃ x, naming (Path.joinText directory a) = .ok x

/-- What keeps an entry from being a package: it has no directory, or there is a module without a name. -/
inductive Lacks (d : Disk) (m : Manifest) (naming : ModuleNaming) (e : String × TargetLibrary) : Fault → Prop
  | directory {id version : String} (hname : IsNamed e.1 id version)
      (h : ∀ directory, ¬LiesIn d m id version directory) :
      Lacks d m naming e (.packageMissing id version m.folders)
  | name {id version directory asset : String} {fault : Fault} (hname : IsNamed e.1 id version)
      (hdirectory : LiesIn d m id version directory) (hfirst : IsFirstUnnamed naming directory e.2 asset)
      (h : naming (Path.joinText directory asset) = .error fault) : Lacks d m naming e fault

/-- The package that an entry stands for: its modules each once, its build files unless they are to be ignored. -/
structure IsPackageOf (d : Disk) (m : Manifest) (ignored : List String) (naming : ModuleNaming)
    (e : String × TargetLibrary) (p : Package) : Prop where
  name : IsNamed e.1 p.id p.version
  dependencies : p.dependencies = e.2.dependencies.keys
  files : ∃ directory, LiesIn d m p.id p.version directory ∧
    (∃ names, AreNamed naming directory e.2 names ∧ p.modules = names.eraseDups) ∧
    p.buildFiles = if ∃ i ∈ ignored, packageKey i = packageKey p.id then []
      else (buildAssets e.2).map fun a => Path.normalText (Path.joinText directory a)

theorem compileModules_eq_ok_iff {l : TargetLibrary} {modules : List String} :
    compileModules naming directory l = .ok modules ↔
      ∃ names, AreNamed naming directory l names ∧ modules = names.eraseDups := by
  rw [compileModules, map_eq_ok]
  exact exists_congr fun names => and_congr Lists.mapM_eq_ok_iff eq_comm

theorem compileModules_eq_error_iff {l : TargetLibrary} : compileModules naming directory l = .error fault ↔
    ∃ asset, IsFirstUnnamed naming directory l asset ∧ naming (Path.joinText directory asset) = .error fault := by
  rw [compileModules, map_eq_error]
  exact Lists.mapM_eq_error_iff

theorem exists_compileModules_iff {l : TargetLibrary} :
    (∃ modules, compileModules naming directory l = .ok modules) ↔
    ∀ a ∈ compileAssets l, ∃ x, naming (Path.joinText directory a) = .ok x := by
  rw [← Lists.exists_forall₂_iff]
  constructor
  · rintro ⟨modules, h⟩
    obtain ⟨names, hnames, -⟩ := compileModules_eq_ok_iff.1 h
    exact ⟨names, hnames⟩
  · rintro ⟨names, hnames⟩
    exact ⟨_, compileModules_eq_ok_iff.2 ⟨names, hnames, rfl⟩⟩

theorem buildFilesOf_eq (ignored : List String) (id directory : String) (l : TargetLibrary) :
    buildFilesOf ignored id directory l = if ∃ i ∈ ignored, packageKey i = packageKey id then []
      else (buildAssets l).map fun a => Path.normalText (Path.joinText directory a) := by
  simp [buildFilesOf, isIgnored]

theorem packageOf_eq (ignored : List String) (h : IsNamed e.1 id version) : packageOf d m ignored naming e = do
    let directory ← directoryOf d m id version
    let modules ← compileModules naming directory e.2
    return ⟨id, version, e.2.dependencies.keys, modules, buildFilesOf ignored id directory e.2⟩ := by
  rw [packageOf, isNamed_iff.1 h]

theorem exists_isNamed (name : String) : ∃ id version, IsNamed name id version := ⟨_, _, isNamed_iff.2 rfl⟩

theorem packageOf_eq_ok_iff : packageOf d m ignored naming e = .ok p ↔ IsPackageOf d m ignored naming e p := by
  constructor
  · intro h
    obtain ⟨id, version, hname⟩ := exists_isNamed e.1
    rw [packageOf_eq ignored hname] at h
    obtain ⟨directory, hdirectory, h⟩ := bind_eq_ok.1 h
    obtain ⟨modules, hmodules, h⟩ := bind_eq_ok.1 h
    cases h
    exact ⟨hname, rfl, directory, directoryOf_eq_ok_iff.1 hdirectory, compileModules_eq_ok_iff.1 hmodules,
      buildFilesOf_eq ..⟩
  · rintro ⟨hname, hdependencies, directory, hdirectory, hmodules, hbuildFiles⟩
    rw [packageOf_eq ignored hname]
    refine bind_eq_ok.2 ⟨directory, directoryOf_eq_ok_iff.2 hdirectory, ?_⟩
    refine bind_eq_ok.2 ⟨p.modules, compileModules_eq_ok_iff.2 hmodules, ?_⟩
    rw [buildFilesOf_eq, ← hdependencies, ← hbuildFiles]
    rfl

theorem exists_packageOf_iff : (∃ p, packageOf d m ignored naming e = .ok p) ↔ IsComplete d m naming e := by
  constructor
  · rintro ⟨p, h⟩
    have hp := packageOf_eq_ok_iff.1 h
    obtain ⟨directory, hdirectory, hmodules, -⟩ := hp.files
    exact ⟨p.id, p.version, directory, hp.name, hdirectory,
      exists_compileModules_iff.1 ⟨_, compileModules_eq_ok_iff.2 hmodules⟩⟩
  · rintro ⟨id, version, directory, hname, hdirectory, hall⟩
    obtain ⟨modules, hmodules⟩ := exists_compileModules_iff.2 hall
    rw [packageOf_eq ignored hname]
    exact ⟨_, bind_eq_ok.2 ⟨directory, directoryOf_eq_ok_iff.2 hdirectory, bind_eq_ok.2 ⟨modules, hmodules, rfl⟩⟩⟩

theorem packageOf_eq_error_iff : packageOf d m ignored naming e = .error fault ↔ Lacks d m naming e fault := by
  constructor
  · intro h
    obtain ⟨id, version, hname⟩ := exists_isNamed e.1
    rw [packageOf_eq ignored hname] at h
    rcases bind_eq_error.1 h with hno | ⟨directory, hdirectory, h⟩
    · obtain ⟨hnowhere, rfl⟩ := directoryOf_eq_error_iff.1 hno
      exact .directory hname hnowhere
    · rcases bind_eq_error.1 h with hmodules | ⟨modules, -, h⟩
      · obtain ⟨asset, hfirst, hfault⟩ := compileModules_eq_error_iff.1 hmodules
        exact .name hname (directoryOf_eq_ok_iff.1 hdirectory) hfirst hfault
      · cases h
  · intro h
    cases h with
    | directory hname hno =>
      rw [packageOf_eq ignored hname]
      exact bind_eq_error.2 (Or.inl (directoryOf_eq_error_iff.2 ⟨hno, rfl⟩))
    | name hname hdirectory hfirst hfault =>
      rw [packageOf_eq ignored hname]
      refine bind_eq_error.2 (Or.inr ⟨_, directoryOf_eq_ok_iff.2 hdirectory, ?_⟩)
      exact bind_eq_error.2 (Or.inl (compileModules_eq_error_iff.2 ⟨_, hfirst, hfault⟩))

theorem exists_lacks_iff : (∃ fault, Lacks d m naming e fault) ↔ ¬IsComplete d m naming e := by
  have hfails (fault : Fault) : packageOf d m [] naming e = .error fault ↔ Lacks d m naming e fault :=
    packageOf_eq_error_iff
  have hgives : (∃ p, packageOf d m [] naming e = .ok p) ↔ IsComplete d m naming e := exists_packageOf_iff
  simp only [← hfails, ← hgives]
  cases packageOf d m [] naming e <;> simp

/-! ## The graph of a target -/

theorem findTarget?_eq_some_iff {key : String} {target : OrderedMap TargetLibrary} :
    m.findTarget? key = some target ↔ m.targets.Finds key target :=
  OrderedMap.find?_sameName_eq_some_iff

theorem mem_keys_ofPackages {es : List (String × TargetLibrary)} {ps : List Package}
    (h : es.mapM (packageOf d m ignored naming) = .ok ps) {key : String} :
    key ∈ (ofPackages ps).packages.keys ↔ ∃ e ∈ es, entryKey e = key := by
  rw [ofPackages, OrderedMap.mem_keys_ofList, List.map_map, Function.comp_def, map_packageKey_of_mapM h,
    List.mem_map]

theorem get?_ofPackages_iff {es : List (String × TargetLibrary)} {ps : List Package}
    (h : es.mapM (packageOf d m ignored naming) = .ok ps) {key : String} :
    (ofPackages ps).packages.get? key = some p ↔
      ∃ e, Lists.IsLast (fun e => entryKey e = key) es e ∧ IsPackageOf d m ignored naming e p := by
  have hkept : (ofPackages ps).packages.get? key = some p ↔ Lists.IsLast (fun q => packageKey q.id = key) ps p := by
    rw [ofPackages, OrderedMap.get?_ofList_iff, Lists.isLast_map_iff]
    constructor
    · rintro ⟨q, hlast, hq⟩
      cases hq
      exact hlast
    · intro hlast
      have hkey : packageKey p.id = key := hlast.of
      exact ⟨p, hlast, by rw [hkey]⟩
  have hkeys (e : String × TargetLibrary) (q : Package) (hq : packageOf d m ignored naming e = .ok q) :
      entryKey e = key ↔ packageKey q.id = key := by
    rw [packageKey_of_packageOf hq]
  have honly (e : String × TargetLibrary) (q q' : Package) (hq : packageOf d m ignored naming e = .ok q)
      (hq' : packageOf d m ignored naming e = .ok q') : q = q' :=
    Except.ok.inj (hq.symm.trans hq')
  simp only [← packageOf_eq_ok_iff]
  exact hkept.trans (Lists.isLast_forall₂_iff (Lists.mapM_eq_ok_iff.1 h) hkeys honly)

/-- **What comes of building a graph.** It is built if and only if the target is found
and its packages all are complete. If there is no such target, that is the fault; else
the fault is what the first package lacks that lacks something. A built graph has the
keys of the target's packages, and each of its packages is the last with its key. -/
theorem build_outcome (d : Disk) (m : Manifest) (selector : Selector) (ignored : List String)
    (naming : ModuleNaming) :
    ((∃ g, build d m selector ignored naming = .ok g) ↔
      ∃ target, m.targets.Finds selector.targetKey target ∧ ∀ e ∈ packageEntries target, IsComplete d m naming e) ∧
    (∀ fault, build d m selector ignored naming = .error fault ↔
      ((∀ target, ¬m.targets.Finds selector.targetKey target) ∧
        fault = .targetMissing selector.targetKey (Text.sorted m.targets.keys)) ∨
      ∃ target e, m.targets.Finds selector.targetKey target ∧
        Lists.IsFirst (fun e => ¬IsComplete d m naming e) (packageEntries target) e ∧ Lacks d m naming e fault) ∧
    ∀ g, build d m selector ignored naming = .ok g → ∃ target, m.targets.Finds selector.targetKey target ∧
      (∀ key, key ∈ g.packages.keys ↔ ∃ e ∈ packageEntries target, entryKey e = key) ∧
      ∀ key p, g.packages.get? key = some p ↔
        ∃ e, Lists.IsLast (fun e => entryKey e = key) (packageEntries target) e ∧
          IsPackageOf d m ignored naming e p := by
  refine ⟨?_, fun fault => ?_, fun g hg => ?_⟩
  · simp only [build_eq_ok_iff]
    constructor
    · rintro ⟨g, target, ps, htarget, hps, -⟩
      have hall := Lists.exists_forall₂_iff.1 ⟨ps, Lists.mapM_eq_ok_iff.1 hps⟩
      exact ⟨target, findTarget?_eq_some_iff.1 htarget, fun e he => exists_packageOf_iff.1 (hall e he)⟩
    · rintro ⟨target, htarget, hall⟩
      obtain ⟨ps, hps⟩ := Lists.exists_mapM_eq_ok fun e he => exists_packageOf_iff.2 (hall e he)
      exact ⟨_, target, ps, findTarget?_eq_some_iff.2 htarget, hps, rfl⟩
  · rw [build]
    cases htarget : m.findTarget? selector.targetKey with
    | none =>
      have hno (target : OrderedMap TargetLibrary) : ¬m.targets.Finds selector.targetKey target := by
        rw [← findTarget?_eq_some_iff, htarget]
        exact Option.some_ne_none target ∘ Eq.symm
      simp [hno, eq_comm]
    | some target =>
      have honly (other : OrderedMap TargetLibrary) :
          m.targets.Finds selector.targetKey other ↔ other = target := by
        rw [← findTarget?_eq_some_iff, htarget, Option.some.injEq, eq_comm]
      simp only [map_eq_error, Lists.mapM_eq_error_iff, packageOf_eq_error_iff, exists_lacks_iff, honly]
      simp
  · obtain ⟨target, ps, htarget, hps, rfl⟩ := build_eq_ok_iff.1 hg
    exact ⟨target, findTarget?_eq_some_iff.1 htarget, fun key => mem_keys_ofPackages hps,
      fun key p => get?_ofPackages_iff hps⟩

/-- Two packages with one key, behind a project; the manifest lists a path for the
second, and for the first none. -/
def crowdedManifest : Manifest where
  version := 3
  targets := OrderedMap.ofList [("n", OrderedMap.empty), ("Net", OrderedMap.ofList
    [("P/1", ⟨"project", none, OrderedMap.empty, ["p.dll"], []⟩),
      ("A/1", ⟨"package", none, OrderedMap.empty, ["a.dll"], []⟩),
      ("a/2", ⟨"Package", none, OrderedMap.ofList [("B", "1")], ["b.dll", "lib/_._", "c.dll", "b.dll"],
        ["a.props", "_._"]⟩)]), ("NET", OrderedMap.empty)]
  libraries := OrderedMap.ofList [("A/1", ⟨"package", some ""⟩), ("A/2", ⟨"package", some "x/y"⟩)]
  folders := ["/p", "/q"]

def crowdedDisk : Disk :=
  (((Disk.empty ["w"]).addDirectory ["q", "a", "1"]).addDirectory ["q", "x", "y"]).addDirectory ["p", "x", "y"]

/-- The second package is the one under the key; on an empty disk the first is missed. -/
theorem crowded_outcomes :
    (∃ g p e, build crowdedDisk crowdedManifest ⟨"nET", none⟩ ["B"] .ok = .ok g ∧ g.packages.keys = ["a"] ∧
      g.packages.get? "a" = some p ∧ p.modules = ["/p/x/y/b.dll", "/p/x/y/c.dll"] ∧
      p.buildFiles = ["/p/x/y/a.props"] ∧ e.1 = "a/2" ∧ IsPackageOf crowdedDisk crowdedManifest ["B"] .ok e p) ∧
    ∃ fault e, build (Disk.empty ["w"]) crowdedManifest ⟨"nET", none⟩ ["B"] .ok = .error fault ∧ e.1 = "A/1" ∧
      Lacks (Disk.empty ["w"]) crowdedManifest .ok e fault := by
  let p : Package := ⟨"a", "2", ["B"], ["/p/x/y/b.dll", "/p/x/y/c.dll"], ["/p/x/y/a.props"]⟩
  have hbuilt : build crowdedDisk crowdedManifest ⟨"nET", none⟩ ["B"] .ok = .ok (ofPackages [p]) := by
    decide +kernel
  have hfails : build (Disk.empty ["w"]) crowdedManifest ⟨"nET", none⟩ ["B"] .ok =
      .error (.packageMissing "A" "1" ["/p", "/q"]) := by
    decide +kernel
  obtain ⟨-, -, hgraph⟩ := build_outcome crowdedDisk crowdedManifest ⟨"nET", none⟩ ["B"] .ok
  obtain ⟨-, hfault, -⟩ := build_outcome (Disk.empty ["w"]) crowdedManifest ⟨"nET", none⟩ ["B"] .ok
  constructor
  · obtain ⟨target, -, -, hpackage⟩ := hgraph _ hbuilt
    have hp : (ofPackages [p]).packages.get? "a" = some p := by decide +kernel
    obtain ⟨e, -, he⟩ := (hpackage "a" p).1 hp
    have hname : e.1 = "a/2" := he.name.2.resolve_right fun h => absurd h.2 (by decide)
    exact ⟨_, p, e, hbuilt, by decide +kernel, hp, rfl, rfl, hname, he⟩
  · obtain ⟨hno, -⟩ | ⟨target, e, -, -, hlacks⟩ := (hfault _).1 hfails
    · have htarget : ∃ target, crowdedManifest.findTarget? "nET" = some target :=
        Option.isSome_iff_exists.1 (by decide +kernel)
      obtain ⟨target, htarget⟩ := htarget
      exact absurd (findTarget?_eq_some_iff.1 htarget) (hno target)
    · refine ⟨_, e, hfails, ?_, hlacks⟩
      cases hlacks with
      | directory hname => exact hname.2.resolve_right fun h => absurd h.2 (by decide)
      | name _ _ _ h => cases h

end PackageGraph
end ReferenceAudit
