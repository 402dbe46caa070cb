import ReferenceAudit.Proofs.Holdings
import ReferenceAudit.Proofs.PackageVerdicts

/-!
# Graphs that judge alike

Two graphs whose packages hold the same modules and build files, and depend on the same keys, under the same
keys. If the index of each is consistent it is the same index, so the same modules come to each package, if in
another order. Main statement: what a subject is judged to be by the one graph it is judged to be by the other.
-/
namespace ReferenceAudit
open Relation

/-- Two packages that hold the same and depend on the same keys. -/
structure Package.Equivalent (p p' : Package) : Prop where
  modules : p.modules = p'.modules
  buildFiles : p.buildFiles = p'.buildFiles
  dependsOn : ∀ key, p.dependsOn key = p'.dependsOn key

theorem Package.Equivalent.refl (p : Package) : p.Equivalent p := ⟨rfl, rfl, fun _ => rfl⟩

namespace PackageGraph
variable {g g' : PackageGraph}

/-- Two graphs with equivalent packages under the same keys. -/
def Equivalent (g g' : PackageGraph) : Prop :=
  ∀ key, Option.Rel Package.Equivalent (g.packages.get? key) (g'.packages.get? key)

theorem Equivalent.map {α β : Type} {R : α → β → Prop} {f : Package → α} {f' : Package → β} (h : g.Equivalent g')
    (key : String) (hf : ∀ p p', Package.Equivalent p p' → R (f p) (f' p')) :
    Option.Rel R ((g.packages.get? key).map f) ((g'.packages.get? key).map f') := by
  have hkey := h key
  generalize g.packages.get? key = found at hkey ⊢
  generalize g'.packages.get? key = found' at hkey ⊢
  cases hkey with
  | none => exact .none
  | some hp => exact .some (hf _ _ hp)

theorem Equivalent.exists_congr (h : g.Equivalent g') (key : String) {P : Package → Prop}
    (hP : ∀ p p', Package.Equivalent p p' → (P p ↔ P p')) :
    (∃ p, g.packages.get? key = some p ∧ P p) ↔ ∃ p, g'.packages.get? key = some p ∧ P p := by
  have hkey := h key
  generalize g.packages.get? key = found at hkey ⊢
  generalize g'.packages.get? key = found' at hkey ⊢
  cases hkey with
  | none => rfl
  | some hp => simpa using hP _ _ hp

theorem mem_dependers_congr (h : g.Equivalent g') {key x : String} :
    x ∈ g.dependers key ↔ x ∈ g'.dependers key := by
  rw [mem_dependers, mem_dependers]
  exact h.exists_congr x fun p p' hp => by rw [hp.dependsOn key]

theorem mem_dependents_congr (hv : g.verify = .ok ()) (hv' : g'.verify = .ok ()) (h : g.Equivalent g')
    (key x : String) :
    x ∈ g.dependents.getD key [] ↔ x ∈ g'.dependents.getD key [] := by
  rw [(verify_eq_ok_iff.1 hv).2, (verify_eq_ok_iff.1 hv').2, mem_dependers_congr h]

theorem supplies_congr (hv : g.verify = .ok ()) (hv' : g'.verify = .ok ()) (h : g.Equivalent g') (a b : String) :
    g.Supplies a b ↔ g'.Supplies a b := by
  have hstep : (fun a b => b ∈ g.dependents.getD a []) = fun a b => b ∈ g'.dependents.getD a [] := by
    funext a b
    exact propext (mem_dependents_congr hv hv' h a b)
  rw [Supplies, Supplies, hstep]

end PackageGraph

namespace Contributions
variable {g g' : PackageGraph}

/-- The same items come to each key, whatever kind of item it is that equivalent packages share. -/
theorem mem_spread_congr (hv : g.verify = .ok ()) (hv' : g'.verify = .ok ()) (h : g.Equivalent g')
    {items : Package → List String} (hitems : ∀ p p', Package.Equivalent p p' → items p = items p')
    (key x : String) :
    x ∈ (spread g items).getD key [] ↔ x ∈ (spread g' items).getD key [] := by
  rw [(spread_holds g items).getD, (spread_holds g' items).getD, List.mem_eraseDups, List.mem_eraseDups,
    mem_received_iff, mem_received_iff]
  refine exists_congr fun k => ?_
  rw [PackageGraph.supplies_congr hv hv' h]
  exact h.exists_congr k fun p p' hp => by rw [hitems p p' hp]

theorem mem_modulesFor_congr (hv : g.verify = .ok ()) (hv' : g'.verify = .ok ()) (h : g.Equivalent g')
    (id x : String) :
    x ∈ (ofGraph g).modulesFor id ↔ x ∈ (ofGraph g').modulesFor id :=
  mem_spread_congr hv hv' h (fun _ _ hp => hp.modules) (packageKey id) x

theorem mem_buildFilesFor_congr (hv : g.verify = .ok ()) (hv' : g'.verify = .ok ()) (h : g.Equivalent g')
    (id x : String) : x ∈ (ofGraph g).buildFilesFor id ↔ x ∈ (ofGraph g').buildFilesFor id :=
  mem_spread_congr hv hv' h (fun _ _ hp => hp.buildFiles) (packageKey id) x

end Contributions

/-! ## Judgements on what packages hold -/

/-- The same own modules, and the same that are brought in, in whatever order. -/
structure Holdings.Equivalent (x x' : Holdings) : Prop where
  own : x.own = x'.own
  transitive : ∀ m, m ∈ x.transitive ↔ m ∈ x'.transitive
  buildFiles : x.buildFiles = [] ↔ x'.buildFiles = []

/-- Judgements that give the same verdicts but for the order of the modules in use that are brought in. -/
inductive Judgement.Equivalent : Judgement → Judgement → Prop
  | refl (x : Judgement) : Equivalent x x
  | hasBuildFiles (count count' : Nat) : Equivalent (.hasBuildFiles count) (.hasBuildFiles count')
  | judged (c : Classification) (own : List String) {transitive transitive' : List String}
      (h : ∀ m, m ∈ transitive ↔ m ∈ transitive') :
      Equivalent (.judged c own transitive) (.judged c own transitive')

namespace Judge

theorem usedAmong_congr {keys keys' : List String} (h : ∀ key, key ∈ keys ↔ key ∈ keys') (xs : List String) :
    usedAmong keys xs = usedAmong keys' xs := by
  refine List.filter_congr fun m _ => ?_
  rw [Bool.eq_iff_iff, List.contains_iff_mem, List.contains_iff_mem, h]

theorem classify_congr (own : List String) {transitive transitive' : List String}
    (h : ∀ m, m ∈ transitive ↔ m ∈ transitive') : classify own transitive = classify own transitive' := by
  simp only [classify, Lists.eq_nil_congr h]

theorem judgement_equivalent {x x' : Holdings} (h : x.Equivalent x') {keys keys' : List String}
    (hkeys : ∀ key, key ∈ keys ↔ key ∈ keys') : (x.judgement keys).Equivalent (x'.judgement keys') := by
  have hused : ∀ m, m ∈ usedAmong keys' x.transitive ↔ m ∈ usedAmong keys' x'.transitive := by
    intro m
    rw [usedAmong, usedAmong, List.mem_filter, List.mem_filter, h.transitive]
  simp only [Holdings.judgement, judgeModules, usedAmong_congr hkeys, ← h.own, classify_congr _ hused]
  by_cases ht : x.transitive = []
  · rw [if_pos ht, if_pos ((Lists.eq_nil_congr h.transitive).1 ht)]
    exact .refl _
  · rw [if_neg ht, if_neg (mt (Lists.eq_nil_congr h.transitive).2 ht)]
    by_cases hb : x.buildFiles = []
    · rw [if_neg (not_not.2 hb), if_neg (not_not.2 (h.buildFiles.1 hb))]
      exact .judged _ _ hused
    · rw [if_pos hb, if_pos (mt h.buildFiles.2 hb)]
      exact .hasBuildFiles _ _

/-- Two judges that take the same for implicit and find packages that hold equivalent things. -/
structure Agrees (j j' : Judge) : Prop where
  implicit : ∀ key, key ∈ j.implicit ↔ key ∈ j'.implicit
  inGraph? : ∀ label label', packageKey label = packageKey label' →
    Option.Rel Holdings.Equivalent (j.inGraph? label) (j'.inGraph? label')

theorem agrees_of_none {implicit implicit' : List String}
    (h : ∀ key, key ∈ implicit.map moduleKey ↔ key ∈ implicit'.map moduleKey) :
    Agrees (ofResolved none implicit) (ofResolved none implicit') :=
  ⟨h, fun _ _ _ => .none⟩

theorem agrees_of_equivalent {g g' : PackageGraph} (hv : g.verify = .ok ()) (hv' : g'.verify = .ok ())
    (hg : g.Equivalent g') {implicit implicit' : List String}
    (h : ∀ key, key ∈ implicit.map moduleKey ↔ key ∈ implicit'.map moduleKey) :
    Agrees (ofResolved (some (.ofGraph g)) implicit) (ofResolved (some (.ofGraph g')) implicit') := by
  refine ⟨h, fun label label' hlabel => ?_⟩
  rw [inGraph?_congr _ hlabel]
  have hmodules := Contributions.mem_modulesFor_congr hv hv' hg label'
  have hbuildFiles := Lists.eq_nil_congr (Contributions.mem_buildFilesFor_congr hv hv' hg label')
  exact hg.map (packageKey label') fun p p' hp => ⟨hp.modules, hmodules, hbuildFiles⟩

/-- What is judged by the packages of a graph, none of which brings in what others hold. -/
def ofGraphAlone (g : PackageGraph) (implicit : List String) : Judge := ⟨some g, none, implicit.map moduleKey⟩

/-- Equivalent graphs find equivalent packages without contributions too, whatever their indices are. -/
theorem agrees_of_packages {g g' : PackageGraph} (hg : g.Equivalent g') {implicit implicit' : List String}
    (h : ∀ key, key ∈ implicit.map moduleKey ↔ key ∈ implicit'.map moduleKey) :
    Agrees (ofGraphAlone g implicit) (ofGraphAlone g' implicit') := by
  refine ⟨h, fun label label' hlabel => ?_⟩
  rw [inGraph?_congr _ hlabel]
  refine hg.map (packageKey label') fun p p' hp => ⟨hp.modules, fun m => ?_, Eq.congr_left hp.buildFiles⟩
  exact iff_of_eq (congrArg (m ∈ ·) hp.modules)

theorem Agrees.isImplicit_eq {j j' : Judge} (h : j.Agrees j') {r r' : Reference}
    (hidentity : moduleKey r.identity = moduleKey r'.identity) (hlabel : moduleKey r.label = moduleKey r'.label)
    (hresolved : r.isResolved = r'.isResolved) : j.isImplicit r = j'.isImplicit r' := by
  have hcontains (key : String) : j.implicit.contains key = j'.implicit.contains key := by
    rw [Bool.eq_iff_iff, List.contains_iff_mem, List.contains_iff_mem, h.implicit]
  rw [isImplicit, isImplicit, hidentity, hlabel, hresolved, hcontains, hcontains]

theorem Agrees.judge_equivalent {j j' : Judge} (h : j.Agrees j') (keys : List String) (s : Subject) :
    (j.judge keys s).Equivalent (j'.judge keys s) := by
  cases s with
  | single r =>
    have hsingle : j.judgeSingle keys r = j'.judgeSingle keys r := by
      rw [judgeSingle, judgeSingle, h.isImplicit_eq rfl rfl rfl]
    simp only [judge, hsingle]
    exact .refl _
  | package first others =>
    simp only [judge, judgePackage_eq, holdings?]
    have hfound := h.inGraph? first.label first.label rfl
    generalize j.inGraph? first.label = found at hfound ⊢
    generalize j'.inGraph? first.label = found' at hfound ⊢
    cases hfound with
    | none => exact .refl _
    | some hx => exact judgement_equivalent hx fun _ => Iff.rfl

end Judge
end ReferenceAudit
