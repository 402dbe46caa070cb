import ReferenceAudit.Proofs.CollectedPackages
import ReferenceAudit.Proofs.Holdings
import ReferenceAudit.Proofs.Locations
import ReferenceAudit.Proofs.PackageVerdicts

/-!
# Packages are collected as they are judged

A package is collected where it would be judged, and the references to it then stand for all that it brings in.
Main statement: judged with the packages or by the references alone, collected packages get verdicts on the same
references, and the same of these are removable.
-/
namespace ReferenceAudit

/-! ## The modules of a built graph -/

namespace PackageGraph

variable {d : Disk} {m : Manifest} {selector : Selector} {ignored : List String} {naming : ModuleNaming}
    {g : PackageGraph}

theorem exists_naming_of_mem_compileModules {directory x : String} {l : TargetLibrary} {modules : List String}
    (h : compileModules naming directory l = .ok modules) (hx : x ∈ modules) : ∃ path, naming path = .ok x := by
  rw [compileModules] at h
  cases hnamed : (l.compile.filter fun a => !Manifest.isPlaceholder a).mapM fun a =>
      naming (Path.joinText directory a) with
  | error fault =>
    rw [hnamed] at h
    cases h
  | ok named =>
    rw [hnamed] at h
    cases h
    obtain ⟨a, -, ha⟩ := Lists.exists_mem_of_mem_mapM hnamed (List.mem_eraseDups.1 hx)
    exact ⟨_, ha⟩

theorem exists_naming_of_mem_modules (hb : build d m selector ignored naming = .ok g) {key x : String} {p : Package}
    (hp : g.packages.get? key = some p) (hx : x ∈ p.modules) : ∃ path, naming path = .ok x := by
  obtain ⟨target, ps, -, hps, rfl⟩ := build_eq_ok_iff.1 hb
  obtain ⟨p', hp', he⟩ := List.mem_map.1 (OrderedMap.mem_of_get?_ofList hp)
  cases he
  obtain ⟨e, -, he⟩ := Lists.exists_mem_of_mem_mapM hps hp'
  obtain ⟨directory, -, he⟩ := bind_eq_ok.1 he
  obtain ⟨modules, hmodules, he⟩ := bind_eq_ok.1 he
  cases he
  exact exists_naming_of_mem_compileModules hmodules hx

end PackageGraph

theorem Path.absolute_ne_empty {here : Path} (h : here.root ≠ .relative) (s : String) : absolute here s ≠ "" := by
  have hroot : (here.append (ofString s)).root ≠ .relative :=
    bne_iff_ne.1 (isAbsolute_append (bne_iff_ne.2 h) (ofString s))
  exact text_ne_empty (p := (here.append (ofString s)).normal) hroot

theorem ModuleNaming.absolute_ne_empty {here : Path} (h : here.root ≠ .relative) (path : String) :
    ModuleNaming.absolute here path ≠ .ok "" := fun he => Path.absolute_ne_empty h path (Except.ok.inj he)

namespace Contributions

variable {c : Contributions} {g : PackageGraph} {id id' x : String}

theorem modulesFor_congr (h : packageKey id = packageKey id') : c.modulesFor id = c.modulesFor id' := by
  rw [modulesFor, modulesFor, h]

theorem mem_modulesFor_iff (hv : g.verify = .ok ()) :
    x ∈ (ofGraph g).modulesFor id ↔ ∃ other p, g.Includes (packageKey id) other p ∧ x ∈ p.modules :=
  mem_spread_iff hv

theorem buildFilesFor_eq_nil_iff (hv : g.verify = .ok ()) :
    (ofGraph g).buildFilesFor id = [] ↔ ∀ other p, g.Includes (packageKey id) other p → p.buildFiles = [] :=
  spread_eq_nil_iff hv

theorem exists_package_of_modulesFor (hv : g.verify = .ok ()) (h : (ofGraph g).modulesFor id ≠ []) :
    ∃ own, g.get? id = some own := by
  have hreceived : received g (·.modules) (packageKey id) ≠ [] := fun he => h <| by
    have hspread := (spread_holds g (·.modules)).getD (packageKey id)
    rw [he] at hspread
    exact hspread
  exact OrderedMap.mem_keys_iff.1 (mem_keys_of_received hv hreceived)

theorem ne_empty_of_mem_modulesFor {d : Disk} {m : Manifest} {selector : Selector} {ignored : List String}
    {naming : ModuleNaming} (hb : PackageGraph.build d m selector ignored naming = .ok g)
    (hn : ∀ path, naming path ≠ .ok "") (hx : x ∈ (ofGraph g).modulesFor id) : x ≠ "" := by
  rintro rfl
  obtain ⟨other, p, hp, hx⟩ := (mem_modulesFor_iff (PackageGraph.verify_of_build hb)).1 hx
  obtain ⟨path, hpath⟩ := PackageGraph.exists_naming_of_mem_modules hb hp.2 hx
  exact hn path hpath

theorem kind_of_mem_records {ids : List String} {r : Reference} (h : r ∈ ids.flatMap c.records) :
    r.kind = .package := by
  obtain ⟨id, -, hr⟩ := List.mem_flatMap.1 h
  exact (mem_records_iff.1 hr).2.2.1

theorem group_spec {ids : List String} {first : Reference} {others : List Reference}
    (hrs : (ids.flatMap c.records).filter (Subject.refersTo (packageKey first.label)) = first :: others) :
    c.buildFilesFor first.label = [] ∧
      ∀ x, x ∈ (first :: others).map (·.identity) ↔ x ∈ c.modulesFor first.label := by
  have hmem (r : Reference) : r ∈ first :: others ↔
      (∃ id ∈ ids, r ∈ c.records id) ∧ Subject.refersTo (packageKey first.label) r = true := by
    rw [← hrs, List.mem_filter, List.mem_flatMap]
  obtain ⟨⟨id, hid, hfirst⟩, -⟩ := (hmem first).1 List.mem_cons_self
  obtain ⟨hbuild, -, -, hlabel⟩ := mem_records_iff.1 hfirst
  subst hlabel
  refine ⟨hbuild, fun x => ⟨fun hx => ?_, fun hx => ?_⟩⟩
  · obtain ⟨r, hr, rfl⟩ := List.mem_map.1 hx
    obtain ⟨⟨id', -, hr⟩, hrefers⟩ := (hmem r).1 hr
    obtain ⟨-, hm, -, rfl⟩ := mem_records_iff.1 hr
    exact modulesFor_congr (Subject.refersTo_iff.1 hrefers).2 ▸ hm
  · refine List.mem_map.2 ⟨⟨x, .package, first.label⟩, (hmem _).2 ⟨⟨first.label, hid, ?_⟩, ?_⟩, rfl⟩
    · exact mem_records_iff.2 ⟨hbuild, hx, rfl, rfl⟩
    · exact Subject.refersTo_iff.2 ⟨rfl, rfl⟩

end Contributions

namespace Judge

theorem classify_self_ne_caveat (xs : List String) : classify xs xs ≠ .removableWithCaveat := by
  rw [classify]
  split <;> simp_all

/-- A package that brings modules in and comes without build files gets a verdict. -/
theorem verdictOn?_of_holdings {j : Judge} {first : Reference} {others : List Reference}
    {own transitive : List String} (hh : j.holdings? first others = some ⟨own, transitive, []⟩)
    (h : transitive ≠ []) (used : List String) :
    j.verdictOn? used (.package first others) =
      some ⟨first, classify (usedAmong used own) (usedAmong used transitive),
      usedAmong used own, usedAmong used transitive⟩ := by
  rw [verdictOn?, judge, judgePackage_eq, hh]
  simp [Holdings.judgement, judgeModules, h, Judgement.verdict?, Subject.first]

/-- Verdicts on references to packages, once with the packages and once by the references alone: on the same first
references, one for each key, with the same of them removable, and in the second run nothing left in doubt. -/
structure Alike (rs : List Reference) (vs ws : List Verdict) : Prop where
  references : vs.map (·.reference) = ws.map (·.reference)
  keys : ws.map (fun w => packageKey w.reference.label) = (rs.map fun r => packageKey r.label).eraseDups
  removable : List.Forall₂ (fun v w => v.classification = .removable ↔ w.classification = .removable) vs ws
  noCaveat : ∀ w ∈ ws, w.classification ≠ .removableWithCaveat

section
variable {d : Disk} {m : Manifest} {selector : Selector} {ignored : List String} {naming : ModuleNaming}
    {g : PackageGraph}

/-- A package of the graph is collected where it would be judged. -/
theorem records_ne_nil_iff (implicit used : List String) {id : String} (hid : g.contains id = true)
    {rs : List Reference} (hr : ∃ r ∈ rs, Subject.refersTo (packageKey id) r = true) :
    (Contributions.ofGraph g).records id ≠ [] ↔
      ∃ v ∈ (ofResolved (some (.ofGraph g)) implicit).verdicts rs used,
        Subject.refersTo (packageKey id) v.reference = true := by
  obtain ⟨own, hown⟩ := OrderedMap.mem_keys_iff.1 (List.contains_iff_mem.1 hid)
  obtain ⟨first, others, hrs⟩ : ∃ first others, rs.filter (Subject.refersTo (packageKey id)) = first :: others := by
    obtain ⟨r, hr, hkey⟩ := hr
    exact List.exists_cons_of_ne_nil (List.ne_nil_of_mem (List.mem_filter.2 ⟨hr, hkey⟩))
  have hnone := filter_verdicts_package implicit used hown hrs
  have hverdict : (∃ v ∈ (ofResolved (some (.ofGraph g)) implicit).verdicts rs used,
      Subject.refersTo (packageKey id) v.reference = true) ↔
        ((ofResolved (some (.ofGraph g)) implicit).verdicts rs used).filter
          (fun v => Subject.refersTo (packageKey id) v.reference) ≠ [] := by
    simp [List.filter_eq_nil_iff]
  rw [hverdict, hnone, ne_eq, ne_eq, not_iff_not, Option.toList_eq_nil_iff, verdict?_judgeModules_eq_none_iff]
  exact Contributions.records_eq_nil_iff

/-- With the packages and without them, a collected package gets a verdict. -/
theorem verdictsOn_collected (hb : PackageGraph.build d m selector ignored naming = .ok g)
    (hn : ∀ path, naming path ≠ .ok "") (implicit implicit' used : List String) {ids : List String} {s : Subject}
    (hs : s ∈ Subject.ofReferences (ids.flatMap (Contributions.ofGraph g).records)) :
    ∃ v w, (ofResolved (some (.ofGraph g)) implicit).verdictOn? (used.map moduleKey) s = some v ∧
      (ofResolved none implicit').verdictOn? (used.map moduleKey) s = some w ∧
      (v.classification = .removable ↔ w.classification = .removable) ∧
        w.classification ≠ .removableWithCaveat := by
  obtain ⟨first, others, hrs, rfl⟩ : ∃ first others, (ids.flatMap (Contributions.ofGraph g).records).filter
      (Subject.refersTo (packageKey first.label)) = first :: others ∧ s = .package first others := by
    rcases Subject.single_or_package_of_mem hs with ⟨r, hr, hne, -⟩ | ⟨first, others, hrs, -, rfl⟩
    · exact absurd (Contributions.kind_of_mem_records hr) hne
    · exact ⟨first, others, hrs, rfl⟩
  obtain ⟨hbuild, hmodules⟩ := Contributions.group_spec hrs
  have hne : (Contributions.ofGraph g).modulesFor first.label ≠ [] :=
    List.ne_nil_of_mem ((hmodules first.identity).1 (List.mem_map_of_mem List.mem_cons_self))
  have hresolved : ∀ r ∈ first :: others, r.isResolved = true := by
    intro r hr
    have hx : r.identity ≠ "" :=
      Contributions.ne_empty_of_mem_modulesFor hb hn ((hmodules r.identity).1 (List.mem_map_of_mem hr))
    simpa [Reference.isResolved] using hx
  obtain ⟨own, hown⟩ := Contributions.exists_package_of_modulesFor (PackageGraph.verify_of_build hb) hne
  have hgraph : (ofResolved (some (.ofGraph g)) implicit).holdings? first others =
      some ⟨own.modules, (Contributions.ofGraph g).modulesFor first.label, []⟩ := by
    simp [holdings?, inGraph?, ofResolved, Resolved.ofGraph, hown, hbuild]
  have hrecords : (ofResolved none implicit').holdings? first others =
      some ⟨(first :: others).map (·.identity), (first :: others).map (·.identity), []⟩ :=
    Holdings.ofRecords_eq_some_iff.2 ⟨hresolved, rfl⟩
  refine ⟨_, _, verdictOn?_of_holdings hgraph hne _, verdictOn?_of_holdings hrecords (by simp) _, ?_,
    classify_self_ne_caveat _⟩
  -- the modules that the package brings in and those of its references are the same
  rw [classify_eq_removable_iff, classify_eq_removable_iff]
  simp only [hmodules]

theorem map_packageKey_of_references {rs : List Reference} (hp : ∀ r ∈ rs, r.kind = .package) {vs : List Verdict}
    (h : vs.map (·.reference) = (Subject.ofReferences rs).map Subject.first) :
    vs.map (fun v => packageKey v.reference.label) = (rs.map fun r => packageKey r.label).eraseDups := by
  calc vs.map (fun v => packageKey v.reference.label)
      = (vs.map (·.reference)).map fun r => packageKey r.label := by
        rw [List.map_map]
        rfl
    _ = (Subject.ofReferences rs).map fun s => packageKey s.first.label := by
        rw [h, List.map_map]
        rfl
    _ = (rs.map fun r => packageKey r.label).eraseDups := Subject.map_packageKey_ofReferences hp

theorem alike_collected (hb : PackageGraph.build d m selector ignored naming = .ok g)
    (hn : ∀ path, naming path ≠ .ok "") (implicit implicit' used ids : List String) :
    let rs := ids.flatMap (Contributions.ofGraph g).records
    Alike rs ((ofResolved (some (.ofGraph g)) implicit).verdicts rs used)
      ((ofResolved none implicit').verdicts rs used) := by
  intro rs
  have hboth (s : Subject) (hs : s ∈ Subject.ofReferences rs) :=
    verdictsOn_collected hb hn implicit implicit' used hs
  have hgraph : ((ofResolved (some (.ofGraph g)) implicit).verdicts rs used).map (·.reference) =
      (Subject.ofReferences rs).map Subject.first := by
    apply map_reference_verdicts
    intro s hs
    obtain ⟨v, -, hv, -⟩ := hboth s hs
    exact ⟨v, hv⟩
  have hrecords : ((ofResolved none implicit').verdicts rs used).map (·.reference) =
      (Subject.ofReferences rs).map Subject.first := by
    apply map_reference_verdicts
    intro s hs
    obtain ⟨-, w, -, hw, -⟩ := hboth s hs
    exact ⟨w, hw⟩
  refine ⟨hgraph.trans hrecords.symm, ?_, ?_, ?_⟩
  · exact map_packageKey_of_references (fun _ => Contributions.kind_of_mem_records) hrecords
  · apply Lists.forall₂_filterMap
    intro s hs
    obtain ⟨v, w, hv, hw, hiff, -⟩ := hboth s hs
    rw [hv, hw]
    exact .some hiff
  · intro w hw
    obtain ⟨s, hs, hsw⟩ := List.mem_filterMap.1 hw
    obtain ⟨v, w', -, hw', -, hne⟩ := hboth s hs
    cases hsw.symm.trans hw'
    exact hne

def mutualItems : List Item :=
  [⟨.text "A", []⟩, ⟨.text "b", [("TreatAsUsed", .text "true")]⟩, ⟨.text "a", [("NoWarn", .text "RT0001")]⟩]

end
end Judge
end ReferenceAudit
