import ReferenceAudit.Proofs.Contributions
import ReferenceAudit.Proofs.Subjects

/-!
# The verdict on a package is decided by what it requires

Main statement: by a built graph and its contributions, the records of a package of the graph get their verdict
from the modules and build files of the packages reached along dependency edges, the package itself included.
-/
namespace ReferenceAudit
open Relation

/-- A package of the graph that the package with the first key requires, directly or through others, or is. -/
def PackageGraph.Includes (g : PackageGraph) (key other : String) (p : Package) : Prop :=
  g.BringsIn key other ∧ g.packages.get? other = some p

/-- Modules compare without regard to case. -/
def IsUsed (used : List String) (m : String) : Prop := ∃ u ∈ used, moduleKey u = moduleKey m

namespace Judge

theorem mem_usedAmong_iff {used xs : List String} {m : String} :
    m ∈ usedAmong (used.map moduleKey) xs ↔ m ∈ xs ∧ IsUsed used m := by
  simp [usedAmong, IsUsed]

theorem usedAmong_eq_nil_iff {used xs : List String} :
    usedAmong (used.map moduleKey) xs = [] ↔ ∀ m ∈ xs, ¬IsUsed used m := by
  simp only [List.eq_nil_iff_forall_not_mem, mem_usedAmong_iff, not_and]

theorem verdict?_judgeModules_eq_none_iff {used own transitive buildFiles : List String} {r : Reference} :
    (judgeModules used own transitive buildFiles).verdict? r = none ↔ transitive = [] ∨ buildFiles ≠ [] := by
  rw [judgeModules]
  by_cases ht : transitive = []
  · simp [ht, Judgement.verdict?]
  · by_cases hb : buildFiles = []
    · simp [ht, hb, Judgement.verdict?]
    · simp [ht, hb, Judgement.verdict?]

theorem classification_judgeModules {used own transitive buildFiles : List String} {r : Reference} {v : Verdict}
    (h : (judgeModules used own transitive buildFiles).verdict? r = some v) :
    v.classification = classify (usedAmong used own) (usedAmong used transitive) := by
  rw [judgeModules] at h
  split at h
  · cases h
  · split at h
    · cases h
    · cases h
      rfl

/-! The three classes, where a package's own modules are among those that it brings in. -/
section
variable {used own transitive : List String} (hsub : ∀ m ∈ own, m ∈ transitive)
include hsub

theorem ownUsed_eq_nil (h : usedAmong (used.map moduleKey) transitive = []) :
    usedAmong (used.map moduleKey) own = [] := by
  rw [usedAmong_eq_nil_iff] at h ⊢
  exact fun m hm => h m (hsub m hm)

theorem classify_eq_used_iff :
    classify (usedAmong (used.map moduleKey) own) (usedAmong (used.map moduleKey) transitive) = .used ↔
      ∃ m ∈ own, IsUsed used m := by
  have hown : (∃ m ∈ own, IsUsed used m) ↔ usedAmong (used.map moduleKey) own ≠ [] := by
    simp [usedAmong_eq_nil_iff]
  rw [hown, classify]
  by_cases ht : usedAmong (used.map moduleKey) transitive = []
  · simp [ht, ownUsed_eq_nil hsub ht]
  · by_cases ho : usedAmong (used.map moduleKey) own = [] <;> simp [ht, ho]

omit hsub in
theorem classify_eq_caveat_iff :
    classify (usedAmong (used.map moduleKey) own) (usedAmong (used.map moduleKey) transitive) =
        .removableWithCaveat ↔
      (∀ m ∈ own, ¬IsUsed used m) ∧ ∃ m ∈ transitive, IsUsed used m := by
  have htrans : (∃ m ∈ transitive, IsUsed used m) ↔ usedAmong (used.map moduleKey) transitive ≠ [] := by
    simp [usedAmong_eq_nil_iff]
  rw [htrans, ← usedAmong_eq_nil_iff, classify]
  by_cases ht : usedAmong (used.map moduleKey) transitive = []
  · simp [ht]
  · by_cases ho : usedAmong (used.map moduleKey) own = [] <;> simp [ht, ho]

omit hsub in
theorem classify_eq_removable_iff :
    classify (usedAmong (used.map moduleKey) own) (usedAmong (used.map moduleKey) transitive) = .removable ↔
      ∀ m ∈ transitive, ¬IsUsed used m := by
  rw [← usedAmong_eq_nil_iff, classify]
  by_cases ht : usedAmong (used.map moduleKey) transitive = []
  · simp [ht]
  · by_cases ho : usedAmong (used.map moduleKey) own = [] <;> simp [ht, ho]

end
end Judge

theorem Contributions.mem_spread_iff {g : PackageGraph} (h : g.verify = .ok ()) {items : Package → List String}
    {key x : String} :
    x ∈ (spread g items).getD key [] ↔ ∃ other p, g.Includes key other p ∧ x ∈ items p := by
  rw [(spread_holds g items).getD, List.mem_eraseDups, mem_received_iff_bringsIn h]
  simp only [PackageGraph.Includes, and_assoc, and_left_comm]

theorem Contributions.spread_eq_nil_iff {g : PackageGraph} (h : g.verify = .ok ()) {items : Package → List String}
    {key : String} : (spread g items).getD key [] = [] ↔ ∀ other p, g.Includes key other p → items p = [] := by
  simp only [List.eq_nil_iff_forall_not_mem, mem_spread_iff h]
  constructor
  · exact fun hn other p hp x hx => hn x ⟨other, p, hp, hx⟩
  · rintro hn x ⟨other, p, hp, hx⟩
    exact hn other p hp x hx

namespace Judge

/-- The verdicts with the key of a package of the graph: the one that its entries give to the first record. -/
theorem filter_verdicts_package {g : PackageGraph} (implicit used : List String) {rs : List Reference}
    {key : String} {own : Package} (hk : g.packages.get? key = some own) {first : Reference}
    {others : List Reference}
    (hg : rs.filter (Subject.refersTo key) = first :: others) :
    ((ofResolved (some (.ofGraph g)) implicit).verdicts rs used).filter
      (fun v => Subject.refersTo key v.reference) =
      ((judgeModules (used.map moduleKey) own.modules ((Contributions.spread g (·.modules)).getD key [])
        ((Contributions.spread g (·.buildFiles)).getD key [])).verdict? first).toList := by
  have hlabel : packageKey first.label = key := by
    have hf : first ∈ rs.filter (Subject.refersTo key) := hg ▸ List.mem_cons_self
    have hr := (List.mem_filter.1 hf).2
    simp only [Subject.refersTo, Bool.and_eq_true, beq_iff_eq] at hr
    exact hr.2
  rw [filter_verdicts, hg, Subject.ofRecords]
  simp only [List.filterMap_cons, List.filterMap_nil, verdictOn?, judge, judgePackage, ofResolved, Resolved.ofGraph,
    Option.map_some, Option.bind_some, PackageGraph.get?, hlabel, hk, Contributions.ofGraph,
    Contributions.modulesFor, Contributions.buildFilesFor, Subject.first]
  split <;> rename_i hv <;> rw [hv] <;> rfl

/-- How the verdicts with a package's key go by the packages that it includes: none if these have no modules or
any build files, else one at the first record, by the modules that are used. -/
structure GoByIncluded (g : PackageGraph) (used : List String) (key : String) (own : Package)
    (first : Option Reference) (vs : List Verdict) : Prop where
  none_iff : vs = [] ↔
    (∀ other p, g.Includes key other p → p.modules = []) ∨ ∃ other p, g.Includes key other p ∧ p.buildFiles ≠ []
  single : vs ≠ [] → ∃ v, vs = [v] ∧ first = some v.reference
  used_iff : ∀ v ∈ vs, v.classification = .used ↔ ∃ x ∈ own.modules, IsUsed used x
  caveat_iff : ∀ v ∈ vs, v.classification = .removableWithCaveat ↔
    (∀ x ∈ own.modules, ¬IsUsed used x) ∧
      ∃ other p, other ≠ key ∧ g.Includes key other p ∧ ∃ x ∈ p.modules, IsUsed used x
  removable_iff : ∀ v ∈ vs, v.classification = .removable ↔
    ∀ other p, g.Includes key other p → ∀ x ∈ p.modules, ¬IsUsed used x

/-- By a built graph and its contributions, a package of the graph is judged by all that it requires. -/
theorem package_verdicts_goByIncluded {d : Disk} {m : Manifest} {selector : Selector} {ignored : List String}
    {naming : ModuleNaming} {g : PackageGraph} (hb : PackageGraph.build d m selector ignored naming = .ok g)
    (implicit used : List String) (rs : List Reference) {key : String} {own : Package}
    (hk : g.packages.get? key = some own) (hr : ∃ r ∈ rs, Subject.refersTo key r = true) :
    GoByIncluded g used key own (rs.find? (Subject.refersTo key))
      (((ofResolved (some (.ofGraph g)) implicit).verdicts rs used).filter
        fun v => Subject.refersTo key v.reference) := by
  have hv : g.verify = .ok () := PackageGraph.verify_of_build hb
  obtain ⟨first, others, hg⟩ : ∃ first others, rs.filter (Subject.refersTo key) = first :: others := by
    obtain ⟨r, hr, hkey⟩ := hr
    exact List.exists_cons_of_ne_nil (List.ne_nil_of_mem (List.mem_filter.2 ⟨hr, hkey⟩))
  have hfind : rs.find? (Subject.refersTo key) = some first := by
    rw [← List.head?_filter, hg, List.head?_cons]
  have hsub : ∀ x ∈ own.modules, x ∈ (Contributions.spread g (·.modules)).getD key [] :=
    fun x hx => (Contributions.mem_spread_iff hv).2 ⟨key, own, ⟨.refl, hk⟩, hx⟩
  rw [filter_verdicts_package implicit used hk hg]
  refine ⟨?_, ?_, ?_, ?_, ?_⟩
  · rw [Option.toList_eq_nil_iff, verdict?_judgeModules_eq_none_iff, Contributions.spread_eq_nil_iff hv, ne_eq,
      Contributions.spread_eq_nil_iff hv]
    push Not
    rfl
  · intro hne
    obtain ⟨v, hsome⟩ := Option.ne_none_iff_exists'.1 (mt Option.toList_eq_nil_iff.2 hne)
    exact ⟨v, by rw [hsome, Option.toList_some], by rw [hfind, Judgement.reference_of_verdict? hsome]⟩
  · intro v hmem
    rw [classification_judgeModules (Option.mem_toList.1 hmem), classify_eq_used_iff hsub]
  · intro v hmem
    rw [classification_judgeModules (Option.mem_toList.1 hmem), classify_eq_caveat_iff]
    simp only [Contributions.mem_spread_iff hv]
    refine and_congr_right fun hno => ⟨?_, ?_⟩
    · rintro ⟨x, ⟨other, p, hp, hx⟩, hu⟩
      refine ⟨other, p, ?_, hp, x, hx, hu⟩
      -- the package itself has no used module
      rintro rfl
      exact hno x (Option.some.inj (hk.symm.trans hp.2) ▸ hx) hu
    · rintro ⟨other, p, -, hp, x, hx, hu⟩
      exact ⟨x, ⟨other, p, hp, hx⟩, hu⟩
  · intro v hmem
    rw [classification_judgeModules (Option.mem_toList.1 hmem), classify_eq_removable_iff]
    simp only [Contributions.mem_spread_iff hv]
    constructor
    · exact fun hn other p hp x hx => hn x ⟨other, p, hp, hx⟩
    · rintro hn x ⟨other, p, hp, hx⟩
      exact hn other p hp x hx

/-- A target of two packages that require each other, one of them in other case, and one a missing package. -/
def mutualManifest : Manifest where
  version := 3
  targets := OrderedMap.ofList [("n", OrderedMap.ofList
    [("A/1", ⟨"package", none, OrderedMap.ofList [("b", "1"), ("c", "1")], ["a.dll"], []⟩),
      ("B/1", ⟨"package", none, OrderedMap.ofList [("a", "1")], ["b.dll", "_._"], []⟩)])]
  libraries := OrderedMap.empty
  folders := ["/p"]

def mutualDisk : Disk := ((Disk.empty ["w"]).addDirectory ["p", "a", "1"]).addDirectory ["p", "b", "1"]

/-- Of two packages that require each other, the one whose modules are not used is needed for the other only. -/
theorem mutual_removable_with_caveat :
    ∃ g own, PackageGraph.build mutualDisk mutualManifest ⟨"N", none⟩ [] .ok = .ok g ∧
      g.packages.get? "a" = some own ∧
      ∃ v, (((ofResolved (some (.ofGraph g)) []).verdicts [⟨"", .package, "A"⟩] ["/p/b/1/B.dll"]).filter
        fun v => Subject.refersTo "a" v.reference) = [v] ∧ v.classification = .removableWithCaveat := by
  let a : Package := ⟨"A", "1", ["b", "c"], ["/p/a/1/a.dll"], []⟩
  let b : Package := ⟨"B", "1", ["a"], ["/p/b/1/b.dll"], []⟩
  let g := PackageGraph.ofPackages [a, b]
  have hg : PackageGraph.build mutualDisk mutualManifest ⟨"N", none⟩ [] .ok = .ok g := by decide +kernel
  have ha : g.packages.get? "a" = some a := by decide +kernel
  have hb : g.packages.get? "b" = some b := by decide +kernel
  have hfiles : ∀ e ∈ g.packages.entries, e.2.buildFiles = [] := by decide +kernel
  have hunused : ¬IsUsed ["/p/b/1/B.dll"] "/p/a/1/a.dll" := by
    simp only [IsUsed]
    decide +kernel
  have hused : IsUsed ["/p/b/1/B.dll"] "/p/b/1/b.dll" := by
    simp only [IsUsed]
    decide +kernel
  have hedge : g.Requires "a" "b" := ⟨by decide +kernel, a, ha, by decide +kernel⟩
  have hgo := package_verdicts_goByIncluded hg [] ["/p/b/1/B.dll"] [⟨"", .package, "A"⟩] ha (by decide +kernel)
  obtain ⟨v, hv, -⟩ := hgo.single fun hnil => by
    rcases hgo.none_iff.1 hnil with hno | ⟨other, p, hp, hne⟩
    · exact absurd (hno "a" a ⟨.refl, ha⟩) (by decide)
    · exact hne (hfiles (other, p) (OrderedMap.get?_eq_some_iff.1 hp.2))
  refine ⟨g, a, hg, ha, v, hv, (hgo.caveat_iff v (hv ▸ List.mem_singleton_self v)).2 ⟨?_, ?_⟩⟩
  · simpa [a] using hunused
  · exact ⟨"b", b, by decide, ⟨.single hedge, hb⟩, "/p/b/1/b.dll", by decide, hused⟩

end Judge
end ReferenceAudit
