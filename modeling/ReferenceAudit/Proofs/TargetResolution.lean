import Mathlib.Data.List.Find
import Mathlib.Data.List.Nodup
import ReferenceAudit.ManifestCache
import ReferenceAudit.Proofs.Folding

/-!
# What a resolved target depends on

Of the disk it depends on the directories only in which packages are looked for. If no two target names differ
in case only, the folded name of the target and the folded and sorted ids that are ignored decide the rest.
-/
namespace ReferenceAudit

private theorem mapM_congr_of_mem {α β ε : Type} {f g : α → Except ε β} {xs : List α} (h : ∀ x ∈ xs, f x = g x) :
    xs.mapM f = xs.mapM g := by
  induction xs with
  | nil => rfl
  | cons x xs ih =>
    rw [List.mapM_cons, List.mapM_cons, h x List.mem_cons_self, ih fun y hy => h y (List.mem_cons_of_mem _ hy)]

namespace Manifest

/-- No two targets have names that differ in case only. -/
def HasDistinctTargets (m : Manifest) : Prop := (m.targets.keys.map Text.fold).Nodup

instance (m : Manifest) : Decidable m.HasDistinctTargets := inferInstanceAs (Decidable (List.Nodup _))

/-- The directories in which packages are looked for. -/
def packagePlaces (m : Manifest) : List String :=
  m.targets.values.flatMap fun target => (PackageGraph.packageEntries target).flatMap fun e =>
    let (id, version) := PackageGraph.idAndVersion e.1
    m.folders.map fun folder => Path.joinText folder (PackageGraph.relativeDirectory m id version)

theorem findTarget?_eq {m : Manifest} (hm : m.HasDistinctTargets) (key : String) :
    m.findTarget? key = (m.targets.entries.find? fun e => sameName e.1 key).map Prod.snd := by
  rw [findTarget?, OrderedMap.find?]
  cases hget : m.targets.get? key with
  | none => rfl
  | some target =>
    have hmem : (key, target) ∈ m.targets.entries := OrderedMap.get?_eq_some_iff.1 hget
    have hsame : sameName key key = true := by simp [sameName]
    obtain ⟨e, he⟩ : ∃ e, m.targets.entries.find? (fun e => sameName e.1 key) = some e :=
      Option.isSome_iff_exists.1 (List.find?_isSome.2 ⟨_, hmem, hsame⟩)
    have hfound : sameName e.1 key = true := by simpa using List.find?_some he
    have hfold : Text.fold e.1 = Text.fold key := eq_of_beq hfound
    have hn : (m.targets.entries.map fun e => Text.fold e.1).Nodup := by
      simpa [HasDistinctTargets, OrderedMap.keys, Function.comp_def] using hm
    have heq : e = (key, target) := List.inj_on_of_nodup_map hn (List.mem_of_find?_eq_some he) hmem hfold
    rw [he, heq]
    rfl

theorem findTarget?_congr {m : Manifest} (hm : m.HasDistinctTargets) {key key' : String}
    (hkey : Text.fold key = Text.fold key') : m.findTarget? key = m.findTarget? key' := by
  rw [findTarget?_eq hm, findTarget?_eq hm]
  unfold sameName
  rw [hkey]

theorem mem_values_of_findTarget? {m : Manifest} {key : String} {target : OrderedMap TargetLibrary}
    (h : m.findTarget? key = some target) : target ∈ m.targets.values := by
  rw [findTarget?, OrderedMap.find?] at h
  split at h
  · rename_i hget
    cases h
    exact List.mem_map.2 ⟨_, OrderedMap.get?_eq_some_iff.1 hget, rfl⟩
  · obtain ⟨e, he, rfl⟩ := Option.map_eq_some_iff.1 h
    exact List.mem_map.2 ⟨e, List.mem_of_find?_eq_some he, rfl⟩

end Manifest

namespace PackageGraph

theorem directoryOf_congr {d d' : Disk} {m : Manifest} {id version : String}
    (h : ∀ folder ∈ m.folders, d.isDirectory (Path.joinText folder (relativeDirectory m id version)) =
      d'.isDirectory (Path.joinText folder (relativeDirectory m id version))) :
    directoryOf d m id version = directoryOf d' m id version := by
  unfold directoryOf
  have hfind : (m.folders.map fun folder => Path.joinText folder
      (relativeDirectory m id version)).find? d.isDirectory =
      (m.folders.map fun folder => Path.joinText folder (relativeDirectory m id version)).find? d'.isDirectory := by
    refine List.find?_congr fun place hplace => ?_
    obtain ⟨folder, hfolder, rfl⟩ := List.mem_map.1 hplace
    exact h folder hfolder
  simp only [hfind]

theorem build_congr {d d' : Disk} {m : Manifest}
    (h : ∀ place ∈ m.packagePlaces, d.isDirectory place = d'.isDirectory place) (selector : Selector)
    (ignored : List String) (naming : ModuleNaming) :
    build d m selector ignored naming = build d' m selector ignored naming := by
  unfold build
  cases htarget : m.findTarget? selector.targetKey with
  | none => rfl
  | some target =>
    have hpackages : (packageEntries target).mapM (packageOf d m ignored naming) =
        (packageEntries target).mapM (packageOf d' m ignored naming) := by
      refine mapM_congr_of_mem fun e he => ?_
      have hdirectory : directoryOf d m (idAndVersion e.1).1 (idAndVersion e.1).2 =
          directoryOf d' m (idAndVersion e.1).1 (idAndVersion e.1).2 := by
        refine directoryOf_congr fun folder hfolder => h _ ?_
        have hvalue : target ∈ m.targets.values := Manifest.mem_values_of_findTarget? htarget
        exact List.mem_flatMap.2 ⟨target, hvalue, List.mem_flatMap.2 ⟨e, he, List.mem_map.2 ⟨folder, hfolder, rfl⟩⟩⟩
      unfold packageOf
      simp only [hdirectory]
    simp only [hpackages]

theorem build_congr_ignored {ignored ignored' : List String}
    (h : ∀ id, isIgnored ignored id = isIgnored ignored' id)
    (d : Disk) (m : Manifest) (selector : Selector) (naming : ModuleNaming) :
    build d m selector ignored naming = build d m selector ignored' naming := by
  have hpackage : packageOf d m ignored naming = packageOf d m ignored' naming := by
    funext e
    unfold packageOf buildFilesOf
    simp only [h]
  unfold build
  rw [hpackage]

/-- The folded ids decide which packages are ignored, in whatever order they come. -/
theorem isIgnored_eq_of_sorted {ignored ignored' : List String}
    (h : Text.sorted (ignored.map packageKey) = Text.sorted (ignored'.map packageKey)) (id : String) :
    isIgnored ignored id = isIgnored ignored' id := by
  have hmem : packageKey id ∈ ignored.map packageKey ↔ packageKey id ∈ ignored'.map packageKey := by
    rw [← Text.mem_sorted, h, Text.mem_sorted]
  unfold isIgnored
  rw [Bool.eq_iff_iff, List.contains_iff_mem, List.contains_iff_mem, hmem]

theorem isIgnored_sorted (ignored : List String) (id : String) :
    isIgnored (Text.sorted (ignored.map packageKey)) id = isIgnored ignored id := by
  unfold isIgnored
  rw [Bool.eq_iff_iff, List.contains_iff_mem, List.contains_iff_mem]
  simp [List.mem_map]

theorem build_of_findTarget? {m : Manifest} {selector selector' : Selector}
    (h : m.findTarget? selector.targetKey = m.findTarget? selector'.targetKey) {d : Disk} {ignored : List String}
    {naming : ModuleNaming} {g : PackageGraph} (hbuild : build d m selector ignored naming = .ok g) :
    build d m selector' ignored naming = .ok g := by
  unfold build at *
  rw [← h]
  cases htarget : m.findTarget? selector.targetKey with
  | none => simp [htarget] at hbuild
  | some target => simpa [htarget] using hbuild

end PackageGraph

theorem resolveTarget_congr {d d' : Disk} {m : Manifest}
    (h : ∀ place ∈ m.packagePlaces, d.isDirectory place = d'.isDirectory place) (selector : Selector)
    (ignored : List String) (naming : ModuleNaming) :
    resolveTarget d m selector ignored naming = resolveTarget d' m selector ignored naming := by
  unfold resolveTarget
  rw [PackageGraph.build_congr h]

theorem resolveTarget_sorted (d : Disk) (m : Manifest) (selector : Selector) (ignored : List String)
    (naming : ModuleNaming) :
    resolveTarget d m selector (Text.sorted (ignored.map packageKey)) naming =
      resolveTarget d m selector ignored naming := by
  unfold resolveTarget
  rw [PackageGraph.build_congr_ignored (PackageGraph.isIgnored_sorted ignored)]

theorem resolveTarget_of_findTarget? {d : Disk} {m : Manifest} {selector selector' : Selector}
    (h : m.findTarget? selector.targetKey = m.findTarget? selector'.targetKey) {ignored : List String}
    {naming : ModuleNaming} {r : Resolved} (hr : resolveTarget d m selector ignored naming = .ok r) :
    resolveTarget d m selector' ignored naming = .ok r := by
  unfold resolveTarget at *
  cases hbuild : PackageGraph.build d m selector ignored naming with
  | error fault => rw [hbuild] at hr; cases hr
  | ok g =>
    rw [hbuild] at hr
    rw [PackageGraph.build_of_findTarget? h hbuild]
    exact hr

/-- A target that resolves does so by any name that differs in case only, and with
the ignored ids in any order and case. -/
theorem resolveTarget_eq_ok_of_key {d : Disk} {m : Manifest} (hm : m.HasDistinctTargets)
    {selector selector' : Selector} (hkey : Text.fold selector.targetKey = Text.fold selector'.targetKey)
    {ignored ignored' : List String}
    (hignored : Text.sorted (ignored.map packageKey) = Text.sorted (ignored'.map packageKey))
    {naming : ModuleNaming} {r : Resolved} (h : resolveTarget d m selector ignored naming = .ok r) :
    resolveTarget d m selector' ignored' naming = .ok r := by
  unfold resolveTarget at h
  rw [PackageGraph.build_congr_ignored (PackageGraph.isIgnored_eq_of_sorted hignored)] at h
  exact resolveTarget_of_findTarget? (Manifest.findTarget?_congr hm hkey) h

end ReferenceAudit
