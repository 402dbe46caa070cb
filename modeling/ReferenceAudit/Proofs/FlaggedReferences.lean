import ReferenceAudit.Proofs.PackageVerdicts
import ReferenceAudit.Proofs.PathsBelow
import ReferenceAudit.Proofs.TypedItems

/-!
# Which references are flagged

A reference is passed over for what its item says, or for the place where it is found, or because its module is
used or comes with the platform. Main statement: the diagnostics on references are those on the items of texts
for which none of this holds, in the order of the items.
-/
namespace ReferenceAudit

/-! ## Diagnostics on references -/

namespace Diagnostic

/-- The diagnostic that a reference can be removed. -/
def removable (label : String) : Diagnostic :=
  ⟨.reference, "Reference " ++ label ++ " can be removed", label, some .removable⟩

theorem filter_reference_emit (docEnabled : Bool) (vs : List Verdict) :
    (emit (fun _ _ => false) docEnabled vs).filter (fun x => x.category == .reference) =
      (vs.filter fun v => v.reference.kind == .direct).filterMap ofVerdict? := by
  have hkind (kind : Kind) : (Category.ofKind kind == .reference) = (kind == .direct) := by
    cases kind <;> decide
  have hdoc : (if docEnabled then [] else [docGeneration]).filter (fun x => x.category == .reference) = [] := by
    cases docEnabled <;> decide
  rw [emit, List.filter_append, hdoc, List.nil_append, ofVerdicts, List.filter_filterMap, List.filterMap_filter]
  refine List.filterMap_congr fun v _ => ?_
  cases hv : ofVerdict? v with
  | none => simp
  | some x => simp [Option.filter, category_of_ofVerdict? hv, hkind]

end Diagnostic

namespace Judge

/-- A reference to an assembly can be removed if it is found, is not used, and does not come with the platform. -/
structure IsRemovable (implicit used : List String) (r : Reference) : Prop where
  resolved : r.identity ≠ ""
  unused : ¬IsUsed used r.identity
  labelOwn : ∀ x ∈ implicit, moduleKey x ≠ moduleKey r.label
  identityOwn : ∀ x ∈ implicit, moduleKey x ≠ moduleKey r.identity

/-- The diagnostic on a reference that is judged alone. -/
def diagnosticOn? (j : Judge) (used : List String) (r : Reference) : Option Diagnostic :=
  ((j.judgeSingle (used.map moduleKey) r).verdict? r).bind Diagnostic.ofVerdict?

variable {graph : Option PackageGraph} {contributions : Option Contributions} {implicit used : List String}

theorem isImplicit_iff {r : Reference} : (⟨graph, contributions, implicit.map moduleKey⟩ :
    Judge).isImplicit r = true ↔
    (∃ x ∈ implicit, moduleKey x = moduleKey r.label) ∨
      (r.identity ≠ "" ∧ ∃ x ∈ implicit, moduleKey x = moduleKey r.identity) := by
  simp [isImplicit, Reference.isResolved]

theorem contains_iff_isUsed {m : String} : (used.map moduleKey).contains (moduleKey m) = true ↔ IsUsed used m := by
  simp [IsUsed]

theorem diagnosticOn?_eq_some {r : Reference} (hr : r.kind = .direct) (h : IsRemovable implicit used r) :
    diagnosticOn? ⟨graph, contributions, implicit.map moduleKey⟩ used r = some (.removable r.label) := by
  have himplicit : ¬(⟨graph, contributions, implicit.map moduleKey⟩ : Judge).isImplicit r = true := by
    rw [isImplicit_iff]
    rintro (⟨x, hx, hkey⟩ | ⟨-, x, hx, hkey⟩)
    · exact h.labelOwn x hx hkey
    · exact h.identityOwn x hx hkey
  have hresolved : r.isResolved = true := bne_iff_ne.2 h.resolved
  rw [diagnosticOn?, judgeSingle, if_neg himplicit, if_pos hresolved, if_neg (mt contains_iff_isUsed.1 h.unused)]
  simp [Judgement.verdict?, Diagnostic.ofVerdict?, Classification.isRemovable, Diagnostic.removable, hr,
    Category.ofKind, Diagnostic.arguments, Diagnostic.say, Category.message?, Category.parts, Category.Part.fill?,
    String.join]

theorem diagnosticOn?_eq_none {r : Reference} (h : ¬IsRemovable implicit used r) :
    diagnosticOn? ⟨graph, contributions, implicit.map moduleKey⟩ used r = none := by
  rw [diagnosticOn?, judgeSingle]
  split
  · rfl
  · rename_i himplicit
    rw [isImplicit_iff, not_or] at himplicit
    obtain ⟨hlabel, hidentity⟩ := himplicit
    split
    · rename_i hresolved
      have hne : r.identity ≠ "" := bne_iff_ne.1 hresolved
      split
      · rfl
      · rename_i hunused
        refine absurd ⟨hne, mt contains_iff_isUsed.2 hunused, fun x hx hkey => ?_, fun x hx hkey => ?_⟩ h
        · exact hlabel ⟨x, hx, hkey⟩
        · exact hidentity ⟨hne, x, hx, hkey⟩
    · rfl

theorem verdicts_of_direct {rs : List Reference} (h : ∀ r ∈ rs, r.kind = .direct) (j : Judge) (used : List String) :
    j.verdicts rs used = rs.filterMap fun r => (j.judgeSingle (used.map moduleKey) r).verdict? r := by
  have hsubjects (seen : List String) : Subject.collect seen rs = rs.map Subject.single := by
    induction rs with
    | nil => rfl
    | cons r rs ih =>
      have hr : ¬r.kind = .package := by
        rw [h r List.mem_cons_self]
        decide
      rw [Subject.collect, if_neg hr, ih fun q hq => h q (List.mem_cons_of_mem _ hq), List.map_cons]
  rw [verdicts, Subject.ofReferences, hsubjects, List.filterMap_map]
  rfl

theorem filter_reference_emit_verdicts (j : Judge) (rs : List Reference) (used : List String) (docEnabled : Bool) :
    (Diagnostic.emit (fun _ _ => false) docEnabled (j.verdicts rs used)).filter
      (fun x => x.category == .reference) =
      (rs.filter fun r => r.kind == .direct).filterMap (j.diagnosticOn? used) := by
  have hkeep : Subject.KeepsTogether fun r => r.kind == .direct := by
    intro r r' hr hr' _
    simp only [hr, hr']
  have hdirect : ∀ r ∈ rs.filter fun r => r.kind == .direct, r.kind = .direct :=
    fun r hr => beq_iff_eq.1 (List.mem_filter.1 hr).2
  rw [Diagnostic.filter_reference_emit, ← verdicts_filter hkeep, verdicts_of_direct hdirect,
    List.filterMap_filterMap]
  rfl

end Judge

/-! ## Items that are flagged -/

namespace Items

/-- The path at which a reference is found: that of its hint's file, else of the file that its spec names, else
what is written of the only resolved item for its spec. -/
inductive IsFoundAt (d : Disk) (resolved : List Item) (i : Item) : String → Prop
  | hint (h : d.isFile (i.said "HintPath") = true) :
      IsFoundAt d resolved i (Path.absolute d.here (i.said "HintPath"))
  | spec (hno : d.isFile (i.said "HintPath") = false) (h : d.isFile (i.label .direct) = true) :
      IsFoundAt d resolved i (Path.absolute d.here (i.label .direct))
  | resolved {r : Item} (hno : d.isFile (i.said "HintPath") = false) (hno' : d.isFile (i.label .direct) = false)
      (h : resolved.filter (isWrittenAs (i.label .direct)) = [r]) : IsFoundAt d resolved i (r.label .direct)

/-- An item that says nothing against its being declared: it is not implicit, no assembly of the framework, of
no package, and not suppressed. -/
structure IsEligible (items : Items) (i : Item) : Prop where
  explicit : isTrue (i.said "IsImplicitlyDefined") = false
  assembly : ∀ v ∈ items.frameworkAssemblies, Text.fold v.shown ≠ Text.fold (i.label .direct)
  ofNoPackage : i.said "NuGetPackageId" = ""
  unsilenced : noWarnNames (i.said "NoWarn") Category.reference.id = false
  unheld : isTrue (i.said "TreatAsUsed") = false

def IsBelowRoot (items : Items) (d : Disk) (path : String) : Prop :=
  ∃ root, items.packageRoot = .text root ∧ root ≠ "" ∧ d.IsBelow root path

/-- A reference that is declared, is found, is not used, and does not come with the platform. -/
structure IsFlagged (items : Items) (d : Disk) (implicit used : List String) (i : Item) : Prop where
  eligible : items.IsEligible i
  found : ∃ path, IsFoundAt d items.resolved i path ∧ path ≠ "" ∧ ¬items.IsBelowRoot d path ∧ ¬IsUsed used path ∧
    ∀ x ∈ implicit, moduleKey x ≠ moduleKey path
  label : ∀ x ∈ implicit, moduleKey x ≠ moduleKey (i.label .direct)

section
variable {d : Disk} {resolved : List Item} {i : Item}

theorem isFoundAt_iff (hi : i.Typed) (h : ∀ i ∈ resolved, i.Typed) {resolution : Resolution}
    (hresolution : resolve d resolved i (i.label .direct) = .ok resolution) {path : String} :
    IsFoundAt d resolved i path ↔ resolution.path? = some (.text path) := by
  rw [resolve_eq hi h, Except.ok.injEq] at hresolution
  subst hresolution
  constructor
  · intro hpath
    cases hpath with
    | hint h => rw [if_pos h, Resolution.path?]
    | spec hno h => rw [if_neg (by simp [hno]), if_pos h, Resolution.path?]
    | resolved hno hno' h => rw [if_neg (by simp [hno]), if_neg (by simp [hno']), h, Resolution.path?]
  · intro hpath
    by_cases hhint : d.isFile (i.said "HintPath") = true
    · rw [if_pos hhint] at hpath
      cases hpath
      exact .hint hhint
    · rw [if_neg hhint] at hpath
      rw [Bool.not_eq_true] at hhint
      by_cases hspec : d.isFile (i.label .direct) = true
      · rw [if_pos hspec] at hpath
        cases hpath
        exact .spec hhint hspec
      · rw [if_neg hspec] at hpath
        rw [Bool.not_eq_true] at hspec
        split at hpath
        · cases hpath
        · rename_i r hfilter
          cases hpath
          exact .resolved hhint hspec hfilter
        · cases hpath

end

/-- Whether a path is below the package root, as it is found out. -/
theorem exists_rootText {items : Items} (ht : items.Typed) (d : Disk) :
    ∃ root, rootText d items.packageRoot = .ok root ∧
    ∀ path, ∃ under, underRoot? d root (.text path) = .ok under ∧ (under = none ↔ ¬items.IsBelowRoot d path) := by
  have hnowhere (hno : ∀ root, items.packageRoot = .text root → root = "") (path : String) :
      ∃ under, underRoot? d none (.text path) = .ok under ∧ (under = none ↔ ¬items.IsBelowRoot d path) := by
    refine ⟨none, rfl, iff_of_true rfl ?_⟩
    rintro ⟨root, hroot, hne, -⟩
    exact hne (hno root hroot)
  rcases ht.packageRoot with hnull | ⟨root, hroot⟩
  · exact ⟨none, by rw [hnull]; rfl, hnowhere fun root hroot => by cases hnull.symm.trans hroot⟩
  · by_cases hempty : root = ""
    · refine ⟨none, by rw [hroot, hempty]; rfl, hnowhere fun other hother => ?_⟩
      cases hroot.symm.trans hother
      exact hempty
    · have htruthy : (Setting.text root).isTruthy = true := bne_iff_ne.2 hempty
      refine ⟨_, by rw [hroot, rootText, if_pos htruthy]; rfl, fun path => ⟨_, rfl, ?_⟩⟩
      have hbelow : items.IsBelowRoot d path ↔ d.IsBelow root path := by
        constructor
        · rintro ⟨other, hother, -, hbelow⟩
          cases hroot.symm.trans hother
          exact hbelow
        · exact fun hbelow => ⟨root, hroot, hempty, hbelow⟩
      rw [hbelow, Disk.IsBelow, ← List.isPrefixOf_iff_prefix]
      split <;> simp_all

theorem scope_eq {items : Items} (ht : items.Typed) {d : Disk} {root : Option String}
    (hroot : rootText d items.packageRoot = .ok root) :
    items.scope d = .ok ⟨items.frameworkAssemblies.map fun v => Text.fold v.shown, root⟩ := by
  have hassemblies : (items.frameworkAssemblies.mapM fun v => do return Text.fold (← v.textFor "casefold")) =
      .ok (items.frameworkAssemblies.map fun v => Text.fold v.shown) := by
    rw [Lists.mapM_eq_ok_iff, List.forall₂_map_right_iff, List.forall₂_same]
    intro v hv
    obtain ⟨s, rfl⟩ := ht.frameworkAssemblies v hv
    rfl
  rw [scope, hassemblies, hroot]
  rfl

/-! ## What comes of an item -/

/-- What a reference of texts declares: nothing, if it says something against that or is found below the package
root, or else one reference to what it is found at. -/
inductive Outcome (items : Items) (d : Disk) (i : Item) : List Reference → Prop
  | passedOver (h : ¬items.IsEligible i) : Outcome items d i []
  | below {path : String} (hfound : IsFoundAt d items.resolved i path) (h : items.IsBelowRoot d path) :
      Outcome items d i []
  | declared {path : String} (heligible : items.IsEligible i) (hfound : IsFoundAt d items.resolved i path)
      (h : ¬items.IsBelowRoot d path) : Outcome items d i [⟨path, .direct, i.label .direct⟩]
  | unresolved (heligible : items.IsEligible i) (h : ∀ path, ¬IsFoundAt d items.resolved i path) :
      Outcome items d i [⟨"", .direct, i.label .direct⟩]

theorem admits_iff_isEligible {items : Items} {i : Item} (hi : i.Typed) (root : Option String) :
    Admits ⟨items.frameworkAssemblies.map fun v => Text.fold v.shown, root⟩ i ↔ items.IsEligible i := by
  constructor
  · intro h
    have hsuppressed := h.unsuppressed
    rw [hi.isSuppressed_eq, Except.ok.injEq, Bool.or_eq_false_iff] at hsuppressed
    exact ⟨h.explicit, fun v hv hsame => h.assembly (List.mem_map.2 ⟨v, hv, hsame⟩), h.ofNoPackage, hsuppressed.1,
      hsuppressed.2⟩
  · intro h
    refine ⟨h.explicit, fun hmem => ?_, h.ofNoPackage, ?_⟩
    · obtain ⟨v, hv, hsame⟩ := List.mem_map.1 hmem
      exact h.assembly v hv hsame
    · rw [hi.isSuppressed_eq, h.unsilenced, h.unheld]
      rfl

section
variable {items : Items} (ht : items.Typed) {d : Disk} {i : Item} (hi : i.Typed)
include ht hi

theorem exists_outcome {s : Scope} (hs : items.scope d = .ok s) :
    ∃ rs, Declares (decideReference d s items.resolved i) rs ∧ items.Outcome d i rs := by
  obtain ⟨root, hroot, hunder⟩ := exists_rootText ht d
  cases (scope_eq ht hroot).symm.trans hs
  by_cases heligible : items.IsEligible i
  · have hadmits := (admits_iff_isEligible hi root).2 heligible
    obtain ⟨resolution, hresolution, htext⟩ := exists_resolve hi ht.resolved d (i.label .direct)
    have hfound {path : String} : IsFoundAt d items.resolved i path ↔ resolution.path? = some (.text path) :=
      isFoundAt_iff hi ht.resolved hresolution
    cases hpath : resolution.path? with
    | none =>
      refine ⟨_, declares_of_unfound hi hadmits hresolution hpath, .unresolved heligible fun path => ?_⟩
      rw [hfound, hpath]
      exact Option.some_ne_none _ ∘ Eq.symm
    | some v =>
      obtain ⟨path, rfl⟩ := htext v hpath
      obtain ⟨under, hu, hbelow⟩ := hunder path
      refine ⟨_, declares_of_found hi hadmits hresolution hpath hu, ?_⟩
      by_cases hnone : under = none
      · rw [if_pos hnone]
        exact .declared heligible (hfound.2 hpath) (hbelow.1 hnone)
      · rw [if_neg hnone]
        exact .below (hfound.2 hpath) (not_not.1 (mt hbelow.2 hnone))
  · exact ⟨[], declares_of_not_admits hi (mt (admits_iff_isEligible hi root).1 heligible), .passedOver heligible⟩

end

section
variable {items : Items} {d : Disk} {i : Item}

theorem IsFoundAt.unique {resolved : List Item} {path path' : String} (h : IsFoundAt d resolved i path)
    (h' : IsFoundAt d resolved i path') : path = path' := by
  cases h with
  | hint h => cases h' with
    | hint _ => rfl
    | spec hno _ => simp [h] at hno
    | resolved hno _ _ => simp [h] at hno
  | spec hno h => cases h' with
    | hint h' => simp [h'] at hno
    | spec _ _ => rfl
    | resolved _ hno' _ => simp [h] at hno'
  | resolved hno hno' h => cases h' with
    | hint h' => simp [h'] at hno
    | spec _ h' => simp [h'] at hno'
    | resolved _ _ h' =>
      cases h.symm.trans h'
      rfl

theorem Outcome.kind {rs : List Reference} (h : items.Outcome d i rs) : ∀ r ∈ rs, r.kind = .direct := by
  cases h <;> simp

/-- What an item declares gives a diagnostic where the item is flagged. -/
theorem Outcome.diagnostics {rs : List Reference} (h : items.Outcome d i rs) (graph : Option PackageGraph)
    (contributions : Option Contributions) {implicit used : List String} {flagged : Bool}
    (hflagged : flagged = true ↔ items.IsFlagged d implicit used i) :
    rs.filterMap (Judge.diagnosticOn? ⟨graph, contributions, implicit.map moduleKey⟩ used) =
      if flagged then [.removable (i.label .direct)] else [] := by
  have hpassed (hno : ¬items.IsFlagged d implicit used i) :
      [] = if flagged then [Diagnostic.removable (i.label .direct)] else [] := by
    rw [if_neg (mt hflagged.1 hno)]
  cases h with
  | passedOver h => exact hpassed fun hf => h hf.eligible
  | below hfound h =>
    refine hpassed fun hf => ?_
    obtain ⟨path, hpath, -, habove, -⟩ := hf.found
    exact habove (hfound.unique hpath ▸ h)
  | unresolved heligible h =>
    have hremovable : ¬Judge.IsRemovable implicit used ⟨"", .direct, i.label .direct⟩ := fun hr => hr.resolved rfl
    rw [List.filterMap_cons_none (Judge.diagnosticOn?_eq_none hremovable)]
    refine hpassed fun hf => ?_
    obtain ⟨path, hpath, -⟩ := hf.found
    exact h path hpath
  | @declared path heligible hfound h =>
    have hiff : items.IsFlagged d implicit used i ↔
        Judge.IsRemovable implicit used ⟨path, .direct, i.label .direct⟩ := by
      constructor
      · intro hf
        obtain ⟨other, hother, hne, -, hunused, hown⟩ := hf.found
        obtain rfl := hfound.unique hother
        exact ⟨hne, hunused, hf.label, hown⟩
      · exact fun hr => ⟨heligible, ⟨path, hfound, hr.resolved, h, hr.unused, hr.identityOwn⟩, hr.labelOwn⟩
    by_cases hf : flagged = true
    · rw [if_pos hf, List.filterMap_cons_some (Judge.diagnosticOn?_eq_some rfl (hiff.1 (hflagged.1 hf)))]
      rfl
    · rw [if_neg hf, List.filterMap_cons_none (Judge.diagnosticOn?_eq_none (mt hiff.2 (mt hflagged.2 hf)))]
      rfl

/-- References of texts all have an outcome, one item after the other. -/
theorem exists_outcomes (ht : items.Typed) {s : Scope} (hs : items.scope d = .ok s) {is : List Item}
    (his : ∀ i ∈ is, i.Typed) :
    ∃ rs, DeclareAll (decideReference d s items.resolved) is rs ∧ (∀ r ∈ rs, r.kind = .direct) ∧
      ∀ graph contributions implicit used (flagged : Item → Bool),
        (∀ i, flagged i = true ↔ items.IsFlagged d implicit used i) →
          rs.filterMap (Judge.diagnosticOn? ⟨graph, contributions, implicit.map moduleKey⟩ used) =
            (is.filter flagged).map fun i => .removable (i.label .direct) := by
  induction is with
  | nil => exact ⟨[], .nil _, by simp, fun _ _ _ _ _ _ => rfl⟩
  | cons i is ih =>
    obtain ⟨rs, hdeclares, houtcome⟩ := exists_outcome ht (his i List.mem_cons_self) hs
    obtain ⟨rs', hall, hkinds, htold⟩ := ih fun j hj => his j (List.mem_cons_of_mem _ hj)
    refine ⟨rs ++ rs', .cons hdeclares hall, fun r hr => ?_,
      fun graph contributions implicit used flagged hflagged => ?_⟩
    · rcases List.mem_append.1 hr with hr | hr
      · exact houtcome.kind r hr
      · exact hkinds r hr
    · rw [List.filterMap_append, houtcome.diagnostics graph contributions (hflagged i), htold _ _ _ _ _ hflagged,
        List.filter_cons]
      split <;> rfl

theorem exists_declareAll_ofKind (hr : ∀ i ∈ items.resolved, i.Typed) (s : Scope) (c : Contributions) (kind : Kind)
    {is : List Item} (his : ∀ i ∈ is, i.Typed) :
    ∃ rs, DeclareAll (decide d s items.resolved c kind) is rs ∧ ∀ r ∈ rs, r.kind = kind := by
  induction is with
  | nil => exact ⟨[], .nil _, by simp⟩
  | cons i is ih =>
    have hi := his i List.mem_cons_self
    obtain ⟨rs, hdeclares, -, hrs⟩ := declares_decide (d := d) (s := s) (c := c) kind hi hr (hi.isSuppressed_eq _)
    obtain ⟨rs', hall, hrs'⟩ := ih fun j hj => his j (List.mem_cons_of_mem _ hj)
    refine ⟨rs ++ rs', .cons hdeclares hall, fun r hr => ?_⟩
    rcases List.mem_append.1 hr with hr | hr
    · exact (hrs r hr).1
    · exact hrs' r hr

/-- The references to assemblies among all that are collected are the outcomes of their items. -/
theorem exists_collect_outcomes (ht : items.Typed) (d : Disk) (c : Contributions) :
    ∃ rs : List Reference, items.collect d c = .ok (rs.map Declaration.ofReference) ∧
      ∀ graph contributions implicit used (flagged : Item → Bool),
        (∀ i, flagged i = true ↔ items.IsFlagged d implicit used i) →
          (rs.filter fun r => r.kind == .direct).filterMap
              (Judge.diagnosticOn? ⟨graph, contributions, implicit.map moduleKey⟩ used) =
            (items.references.filter flagged).map fun i => .removable (i.label .direct) := by
  obtain ⟨s, hs⟩ := ht.scope d
  obtain ⟨direct, hdirect, hkinds, htold⟩ := exists_outcomes ht hs ht.references
  obtain ⟨projects, hprojects, hproject⟩ := exists_declareAll_ofKind ht.resolved s c .project (d := d) ht.projects
  obtain ⟨packages, hpackages, hpackage⟩ := exists_declareAll_ofKind ht.resolved s c .package (d := d) ht.packages
  let rs (kind : Kind) := if kind = .direct then direct else if kind = .project then projects else packages
  have hall (kind : Kind) : DeclareAll (decide d s items.resolved c kind) (items.ofKind kind) (rs kind) := by
    cases kind with
    | direct => exact hdirect
    | project => exact hprojects
    | package => exact hpackages
  refine ⟨direct ++ projects ++ packages, collect_eq_ok hs hall, ?_⟩
  intro graph contributions implicit used flagged hflagged
  have hkept : (direct ++ projects ++ packages).filter (fun r => r.kind == .direct) = direct := by
    rw [List.filter_append, List.filter_append, List.filter_eq_self.2 fun r hr => beq_iff_eq.2 (hkinds r hr),
      List.filter_eq_nil_iff.2 fun r hr => by simp [hproject r hr],
      List.filter_eq_nil_iff.2 fun r hr => by simp [hpackage r hr], List.append_nil, List.append_nil]
  rw [hkept]
  exact htold graph contributions implicit used flagged hflagged

/-- **Which references are flagged.** Items of texts are always collected. Whatever graph there is to judge by,
the diagnostics on references are those on the items that are flagged, in their order. An item without a file is
flagged for no used modules, if not just one resolved item is for it. What counts as below the package root are
the paths that, from the root of the disk, have all its components before others. -/
theorem references_flagged (ht : items.Typed) (d : Disk) (c : Contributions) :
    (∃ rs : List Reference, items.collect d c = .ok (rs.map Declaration.ofReference) ∧
      ∀ graph contributions implicit used docEnabled,
        ∃ flagged : Item → Bool, (∀ i, flagged i = true ↔ items.IsFlagged d implicit used i) ∧
          (Diagnostic.emit (fun _ _ => false) docEnabled
              ((⟨graph, contributions, implicit.map moduleKey⟩ : Judge).verdicts rs used)).filter
              (fun x => x.category == .reference) =
            (items.references.filter flagged).map fun i => .removable (i.label .direct)) ∧
    (∀ i, d.isFile (i.said "HintPath") = false → d.isFile (i.label .direct) = false →
      (items.resolved.filter (isWrittenAs (i.label .direct))).length ≠ 1 →
        ∀ implicit used, ¬items.IsFlagged d implicit used i) ∧
    ∀ root path, d.IsRooted root → d.IsRooted path → d.lexical root ≠ [] →
      (d.IsBelow root path ↔ (d.lexical root).map Text.fold <+: (d.lexical path).map Text.fold ∧
        (d.lexical root).map Text.fold ≠ (d.lexical path).map Text.fold) := by
  refine ⟨?_, fun i hhint hspec hmany implicit used hflagged => ?_, fun root path => Disk.isBelow_iff⟩
  · obtain ⟨rs, hrs, htold⟩ := exists_collect_outcomes ht d c
    refine ⟨rs, hrs, fun graph contributions implicit used docEnabled => ?_⟩
    obtain ⟨flagged, hflagged⟩ : ∃ flagged : Item → Bool, ∀ i, flagged i = true ↔
      items.IsFlagged d implicit used i := by
      classical exact ⟨_, fun i => decide_eq_true_iff⟩
    refine ⟨flagged, hflagged, ?_⟩
    rw [Judge.filter_reference_emit_verdicts]
    exact htold graph contributions implicit used flagged hflagged
  · obtain ⟨path, hfound, -⟩ := hflagged.found
    cases hfound with
    | hint h => simp [h] at hhint
    | spec _ h => simp [h] at hspec
    | resolved _ _ h => simp [h] at hmany

end

def resolvedTwice : Items where
  references := [written "Lib" [("NoWarn", "RT0002")], written "Twice" []]
  resolved := [written "/l/t1.dll" [("OriginalItemSpec", "twice")],
    written "/l/lib.dll" [("OriginalItemSpec", "LIB")],
    written "/l/t2.dll" [("OriginalItemSpec", "TWICE")]]
  projects := []
  packages := []
  frameworkAssemblies := [.text "System"]
  packageRoot := .text "/l/Lib"

/-- Only the first is flagged. What it resolves to starts with the text of the package root, but is not below it. -/
theorem resolvedTwice_flagged_once :
    resolvedTwice.Typed ∧ ∃ rs : List Reference,
      resolvedTwice.collect (Disk.empty ["w"]) .empty = .ok (rs.map Declaration.ofReference) ∧
      (Diagnostic.emit (fun _ _ => false) false
        ((⟨none, none, ["System.Core"].map moduleKey⟩ : Judge).verdicts rs ["/l/T1.dll"])).filter
          (fun x => x.category == .reference) = [.removable "Lib"] := by
  have ht : resolvedTwice.Typed := by
    refine ⟨?_, ?_, ?_, ?_, fun v hv => ⟨_, List.mem_singleton.1 hv⟩, Or.inr ⟨_, rfl⟩⟩ <;>
      simp [resolvedTwice, typed_written]
  obtain ⟨⟨rs, hrs, htold⟩, hnever, -⟩ := references_flagged ht (Disk.empty ["w"]) .empty
  obtain ⟨flagged, hflagged, hds⟩ := htold none none ["System.Core"] ["/l/T1.dll"] false
  have hlib : flagged (written "Lib" [("NoWarn", "RT0002")]) = true := by
    have heligible : resolvedTwice.IsEligible (written "Lib" [("NoWarn", "RT0002")]) :=
      ⟨by decide +kernel, by simpa [resolvedTwice] using (by decide +kernel), by decide +kernel, by decide +kernel,
        by decide +kernel⟩
    have hfound : IsFoundAt (Disk.empty ["w"]) resolvedTwice.resolved (written "Lib" [("NoWarn", "RT0002")])
        ((written "/l/lib.dll" [("OriginalItemSpec", "LIB")]).label .direct) :=
      .resolved (by decide +kernel) (by decide +kernel) rfl
    have habove : ¬resolvedTwice.IsBelowRoot (Disk.empty ["w"]) "/l/lib.dll" := by
      rintro ⟨root, hroot, -, hbelow⟩
      cases hroot
      revert hbelow
      decide +kernel
    refine (hflagged _).2 ⟨heligible, ⟨_, hfound, by decide +kernel, habove, ?_, by decide +kernel⟩, by
      decide +kernel⟩
    simp only [IsUsed]
    decide +kernel
  have htwice : ¬flagged (written "Twice" []) = true := by
    rw [hflagged]
    exact hnever _ (by decide +kernel) (by decide +kernel) (by decide +kernel) _ _
  refine ⟨ht, rs, hrs, ?_⟩
  rw [hds, resolvedTwice, List.filter_cons_of_pos hlib, List.filter_cons_of_neg htwice]
  rfl

end Items
end ReferenceAudit
