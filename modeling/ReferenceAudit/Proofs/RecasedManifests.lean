import ReferenceAudit.Proofs.RecasedReferences
import ReferenceAudit.Proofs.TargetResolution

/-!
# Manifests whose dependencies are written in other case

The names of dependencies are only ever compared as keys, so the packages of the graph stay under their keys and
depend on the same ones. Main statement: whatever is written in other case, be it references, used modules,
implicit references, dependencies or the packages whose build files are ignored, references are classified
alike.
-/
namespace ReferenceAudit

namespace OrderedMap
variable {α β : Type} {R : α → β → Prop}

/-- The same keys in the same order, with values that are compared one by one. -/
def EntriesAlike (R : α → β → Prop) (es : List (String × α)) (es' : List (String × β)) : Prop :=
  List.Forall₂ (fun e e' => e.1 = e'.1 ∧ R e.2 e'.2) es es'

theorem EntriesAlike.lookup {es : List (String × α)} {es' : List (String × β)} (h : EntriesAlike R es es')
    (key : String) : Option.Rel R (es.lookup key) (es'.lookup key) := by
  induction h with
  | nil => exact .none
  | cons he _ ih =>
    obtain ⟨hkey, hvalue⟩ := he
    rw [List.lookup_cons, List.lookup_cons, ← hkey]
    split
    · exact .some hvalue
    · exact ih

theorem EntriesAlike.find?_entries {es : List (String × α)} {es' : List (String × β)} (h : EntriesAlike R es es')
    (named : String → Bool) :
    Option.Rel R ((es.find? fun e => named e.1).map Prod.snd) ((es'.find? fun e => named e.1).map Prod.snd) := by
  induction h with
  | nil => exact .none
  | cons he _ ih =>
    obtain ⟨hkey, hvalue⟩ := he
    rw [List.find?_cons, List.find?_cons, ← hkey]
    split
    · exact .some hvalue
    · exact ih

theorem EntriesAlike.find? {m : OrderedMap α} {m' : OrderedMap β} (h : EntriesAlike R m.entries m'.entries)
    (same : String → String → Bool) (key : String) : Option.Rel R (m.find? same key) (m'.find? same key) := by
  have hget := h.lookup key
  rw [OrderedMap.find?, OrderedMap.find?, OrderedMap.get?, OrderedMap.get?]
  generalize m.entries.lookup key = found at hget ⊢
  generalize m'.entries.lookup key = found' at hget ⊢
  cases hget with
  | some hvalue => exact .some hvalue
  | none => exact h.find?_entries fun name => same name key

theorem EntriesAlike.get?_ofList {es : List (String × α)} {es' : List (String × β)} (h : EntriesAlike R es es')
    (key : String) : Option.Rel R ((ofList es).get? key) ((ofList es').get? key) := by
  induction h with
  | nil => exact .none
  | cons he _ ih =>
    obtain ⟨hkey, hvalue⟩ := he
    rw [get?_ofList_cons, get?_ofList_cons, ← hkey]
    generalize (ofList _).get? key = found at ih ⊢
    generalize (ofList _).get? key = found' at ih ⊢
    cases ih with
    | some hlater => exact .some hlater
    | none =>
      split
      · exact .some hvalue
      · exact .none

end OrderedMap

/-- The same library, its dependencies written in other case. -/
structure TargetLibrary.SameButCase (l l' : TargetLibrary) : Prop where
  dependencies : Text.SameFolded l.dependencies.keys l'.dependencies.keys
  others : l' = { l with dependencies := l'.dependencies }

/-- The same libraries under the same names, their dependencies written in other case. -/
def OrderedMap.SameButCase (target target' : OrderedMap TargetLibrary) : Prop :=
  EntriesAlike TargetLibrary.SameButCase target.entries target'.entries

/-- The same manifest, the dependencies in its targets written in other case. -/
structure Manifest.SameButCase (m m' : Manifest) : Prop where
  targets : OrderedMap.EntriesAlike OrderedMap.SameButCase m.targets.entries m'.targets.entries
  others : m' = { m with targets := m'.targets }

theorem Manifest.SameButCase.findTarget? {m m' : Manifest} (h : m.SameButCase m') (key : String) :
    Option.Rel OrderedMap.SameButCase (m.findTarget? key) (m'.findTarget? key) :=
  h.targets.find? Manifest.sameName key

namespace PackageGraph
variable {d : Disk} {m m' : Manifest} {selector : Selector} {ignored ignored' : List String} {naming : ModuleNaming}

theorem packageOf_dependencies (d : Disk) (m : Manifest) (ignored : List String) (naming : ModuleNaming)
    (name : String) (l : TargetLibrary) (dependencies : OrderedMap String) :
    packageOf d m ignored naming (name, { l with dependencies := dependencies }) =
      (packageOf d m ignored naming (name, l)).map fun p => { p with dependencies := dependencies.keys } := by
  simp only [packageOf]
  cases directoryOf d m (idAndVersion name).1 (idAndVersion name).2 with
  | error fault => rfl
  | ok directory =>
    have hmodules : compileModules naming directory { l with dependencies := dependencies } =
        compileModules naming directory l := rfl
    simp only [bind, Except.bind, hmodules]
    cases compileModules naming directory l <;> rfl

/-- The same package, but for the case of what it depends on. -/
def SamePackage (p p' : Package) : Prop := packageKey p.id = packageKey p'.id ∧ p.Equivalent p'

theorem exists_packageOf_of_sameButCase {name : String} {l l' : TargetLibrary} (h : l.SameButCase l') {p : Package}
    (hp : packageOf d m ignored naming (name, l) = .ok p) :
    ∃ p', packageOf d m ignored naming (name, l') = .ok p' ∧ SamePackage p p' := by
  have hdependencies : p.dependencies = l.dependencies.keys := by
    obtain ⟨directory, -, hp⟩ := bind_eq_ok.1 hp
    obtain ⟨modules, -, hp⟩ := bind_eq_ok.1 hp
    cases hp
    rfl
  refine ⟨{ p with dependencies := l'.dependencies.keys }, ?_, rfl, rfl, rfl, fun key => ?_⟩
  · rw [h.others, packageOf_dependencies, hp]
    rfl
  · have hmem := h.dependencies key
    rw [Package.dependsOn, Package.dependsOn, Bool.eq_iff_iff, hdependencies]
    simpa [List.mem_map, packageKey] using hmem

theorem exists_packagesOf_of_sameButCase {es es' : List (String × TargetLibrary)}
    (h : OrderedMap.EntriesAlike TargetLibrary.SameButCase es es') {ps : List Package}
    (hps : es.mapM (packageOf d m ignored naming) = .ok ps) :
    ∃ ps', es'.mapM (packageOf d m ignored naming) = .ok ps' ∧ List.Forall₂ SamePackage ps ps' := by
  refine Lists.exists_mapM_of_forall₂ h (fun e e' p he hp => ?_) hps
  obtain ⟨name, l⟩ := e
  obtain ⟨_, l'⟩ := e'
  obtain ⟨rfl, hl⟩ := he
  exact exists_packageOf_of_sameButCase hl hp

theorem packageEntries_sameButCase {target target' : OrderedMap TargetLibrary} (h : target.SameButCase target') :
    OrderedMap.EntriesAlike TargetLibrary.SameButCase (packageEntries target) (packageEntries target') :=
  Lists.forall₂_filter h fun _ _ he => by rw [he.2.others]

theorem equivalent_ofPackages {ps ps' : List Package} (h : List.Forall₂ SamePackage ps ps') :
    (ofPackages ps).Equivalent (ofPackages ps') := by
  have hkeyed : OrderedMap.EntriesAlike Package.Equivalent (ps.map fun p => (packageKey p.id, p))
      (ps'.map fun p => (packageKey p.id, p)) := by
    rw [OrderedMap.EntriesAlike, List.forall₂_map_left_iff, List.forall₂_map_right_iff]
    exact h
  exact hkeyed.get?_ofList

theorem exists_build_of_sameButCase (h : m.SameButCase m') (hignored : Text.SameFolded ignored ignored')
    {g : PackageGraph} (hb : build d m selector ignored naming = .ok g) :
    ∃ g', build d m' selector ignored' naming = .ok g' ∧ g.Equivalent g' := by
  have hignores (id : String) : isIgnored ignored id = isIgnored ignored' id := by
    rw [isIgnored, isIgnored, Bool.eq_iff_iff, List.contains_iff_mem, List.contains_iff_mem]
    exact hignored (packageKey id)
  obtain ⟨target, ps, hfound, hps, rfl⟩ := build_eq_ok_iff.1 hb
  have hplace : packageOf d m ignored naming = packageOf d m' ignored naming := by
    rw [h.others]
    rfl
  rw [hplace] at hps
  have htarget := h.findTarget? selector.targetKey
  rw [hfound] at htarget
  cases hfound' : m'.findTarget? selector.targetKey with
  | none =>
    rw [hfound'] at htarget
    cases htarget
  | some target' =>
    rw [hfound'] at htarget
    cases htarget with
    | some hentries =>
      obtain ⟨ps', hps', hpackages⟩ := exists_packagesOf_of_sameButCase (packageEntries_sameButCase hentries) hps
      have hb' : build d m' selector ignored naming = .ok (ofPackages ps') :=
        build_eq_ok_iff.2 ⟨target', ps', hfound', hps', rfl⟩
      exact ⟨_, (build_congr_ignored hignores d m' selector naming).symm.trans hb', equivalent_ofPackages hpackages⟩

end PackageGraph

namespace Judge

/-- Without a manifest, and by whatever graph a manifest gives, with its contributions or without, what is
written in other case is judged alike. -/
theorem recased_judged_alike {rs rs' : List Reference} {used used' implicit implicit' : List String}
    (hrs : List.Forall₂ Reference.SameButCase rs rs') (hused : Text.SameFolded used used')
    (himplicit : Text.SameFolded implicit implicit') :
    AlikeVerdicts rs rs' ((ofResolved none implicit).verdicts rs used)
    ((ofResolved none implicit').verdicts rs' used') ∧
      ∀ {m m' : Manifest} {ignored ignored' : List String}, m.SameButCase m' → Text.SameFolded ignored ignored' →
        ∀ (d : Disk) (selector : Selector) (naming : ModuleNaming) (g : PackageGraph),
          PackageGraph.build d m selector ignored naming = .ok g →
          ∃ g', PackageGraph.build d m' selector ignored' naming = .ok g' ∧
            AlikeVerdicts rs rs' ((ofResolved (some (.ofGraph g)) implicit).verdicts rs used)
              ((ofResolved (some (.ofGraph g')) implicit').verdicts rs' used') ∧
            AlikeVerdicts rs rs' ((ofGraphAlone g implicit).verdicts rs used)
              ((ofGraphAlone g' implicit').verdicts rs' used') := by
  refine ⟨(agrees_of_none himplicit).alikeVerdicts hrs hused, ?_⟩
  intro m m' ignored ignored' hm hignored d selector naming g hb
  obtain ⟨g', hb', hg⟩ := PackageGraph.exists_build_of_sameButCase hm hignored hb
  have hagrees := agrees_of_equivalent (PackageGraph.verify_of_build hb)
      (PackageGraph.verify_of_build hb') hg himplicit
  exact ⟨g', hb', hagrees.alikeVerdicts hrs hused, (agrees_of_packages hg himplicit).alikeVerdicts hrs hused⟩

def recasedManifest : Manifest where
  version := 3
  targets := OrderedMap.ofList [("n", OrderedMap.ofList
    [("A/1", ⟨"package", none, OrderedMap.ofList [("B", "1"), ("C", "2")], ["a.dll"], []⟩),
      ("B/1", ⟨"package", none, OrderedMap.ofList [("A", "1")], ["b.dll", "_._"], []⟩)])]
  libraries := OrderedMap.empty
  folders := ["/p"]

/-- Written in other case, texts can get longer; what the platform provides is still left out. -/
theorem recased_mutual_judged_alike :
    let rs : List Reference := [⟨"", .package, "A"⟩, ⟨"/l/ß", .direct, "Maß"⟩, ⟨"/l/c", .direct, "c"⟩]
    let rs' : List Reference := [⟨"", .package, "a"⟩, ⟨"/L/SS", .direct, "MASS"⟩, ⟨"/L/c", .direct, "C"⟩]
    mutualManifest.SameButCase recasedManifest ∧
      ∃ g g', PackageGraph.build mutualDisk mutualManifest ⟨"N", none⟩ ["Weiß"] .ok = .ok g ∧
        PackageGraph.build mutualDisk recasedManifest ⟨"N", none⟩ ["WEISS"] .ok = .ok g' ∧
        AlikeVerdicts rs rs' ((ofResolved (some (.ofGraph g)) ["C"]).verdicts rs ["/l/ß"])
          ((ofResolved (some (.ofGraph g')) ["c"]).verdicts rs' ["/L/ss"]) ∧
        ((ofGraphAlone g' ["c"]).verdicts rs' ["/L/ss"]).map (·.classification) =
          [.removable, .used] := by
  intro rs rs'
  have hm : mutualManifest.SameButCase recasedManifest := by
    refine ⟨.cons ⟨rfl, .cons ⟨rfl, ?_, rfl⟩ (.cons ⟨rfl, ?_, rfl⟩ .nil)⟩ .nil, rfl⟩ <;>
      exact Text.sameFolded_of_map_eq (by decide +kernel)
  let a : Package := ⟨"A", "1", ["b", "c"], ["/p/a/1/a.dll"], []⟩
  let b : Package := ⟨"B", "1", ["a"], ["/p/b/1/b.dll"], []⟩
  have hb : PackageGraph.build mutualDisk mutualManifest ⟨"N", none⟩ ["Weiß"] .ok = .ok (.ofPackages [a, b]) := by
    decide +kernel
  have hrs : List.Forall₂ Reference.SameButCase rs rs' :=
    .cons ⟨by decide +kernel, rfl, by decide +kernel⟩ (.cons ⟨by decide +kernel, rfl, by decide +kernel⟩
      (.cons ⟨by decide +kernel, rfl, by decide +kernel⟩ .nil))
  have hused : Text.SameFolded ["/l/ß"] ["/L/ss"] :=
    Text.sameFolded_of_map_eq (by decide +kernel)
  have himplicit : Text.SameFolded ["C"] ["c"] := Text.sameFolded_of_map_eq (by decide +kernel)
  have hignored : Text.SameFolded ["Weiß"] ["WEISS"] := Text.sameFolded_of_map_eq (by decide +kernel)
  obtain ⟨-, hgraphs⟩ := recased_judged_alike hrs hused himplicit
  obtain ⟨g', hb', halike, halone⟩ := hgraphs hm hignored mutualDisk ⟨"N", none⟩ .ok _ hb
  refine ⟨hm, _, g', hb, hb', halike, ?_⟩
  rw [← halone.classifications]
  decide +kernel

end Judge
end ReferenceAudit
