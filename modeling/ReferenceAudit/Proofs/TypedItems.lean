import ReferenceAudit.Proofs.CollectedPackages

/-!
# Items whose values are texts

Every such item is decided on, so they are always collected. Main statement: an item declares references of its own
kind under its own label, and none at all if its metadata suppress the category of that kind.
-/
namespace ReferenceAudit

/-- The label under which an item of a kind is declared. -/
def Item.label (kind : Kind) (i : Item) : String :=
  (match kind with
    | .project => Items.projectLabel i
    | .direct | .package => i.spec).shown

/-- What an item says under a name, as a text. -/
def Item.said (i : Item) (name : String) : String := (i.get name).shown

namespace Item.Typed
variable {i : Item} (h : i.Typed)
include h

theorem get_eq (name : String) : i.get name = .text (i.said name) := by
  obtain ⟨s, hs⟩ := h.get name
  rw [said, hs]
  rfl

theorem spec_eq : i.spec = .text (i.label .direct) := by
  obtain ⟨s, hs⟩ := h.spec
  rw [label, hs]
  rfl

theorem isTrue_eq (name : String) : i.isTrue name = .ok (ReferenceAudit.isTrue (i.said name)) := by
  rw [isTrue, h.get_eq name]
  rfl

theorem has_eq (name : String) : i.has name = (i.said name != "") := by
  rw [has, h.get_eq name]
  rfl

theorem isSuppressed_eq (c : Category) :
    i.isSuppressed c = .ok (noWarnNames (i.said "NoWarn") c.id || ReferenceAudit.isTrue
      (i.said "TreatAsUsed")) := by
  rw [Item.isSuppressed, h.get_eq "NoWarn", h.isTrue_eq "TreatAsUsed"]
  cases hnames : noWarnNames (i.said "NoWarn") c.id with
  | true => simp [Setting.textFor, bind, Except.bind, hnames]; rfl
  | false => simp [Setting.textFor, bind, Except.bind, hnames]

end Item.Typed

namespace Items

/-- The values of a project's items are texts, as far as there are any. -/
structure Typed (items : Items) : Prop where
  references : ∀ i ∈ items.references, i.Typed
  resolved : ∀ i ∈ items.resolved, i.Typed
  projects : ∀ i ∈ items.projects, i.Typed
  packages : ∀ i ∈ items.packages, i.Typed
  frameworkAssemblies : ∀ v ∈ items.frameworkAssemblies, ∃ s, v = .text s
  packageRoot : items.packageRoot = .null ∨ ∃ s, items.packageRoot = .text s

theorem Typed.scope {items : Items} (h : items.Typed) (d : Disk) : ∃ s, items.scope d = .ok s := by
  obtain ⟨assemblies, hassemblies⟩ : ∃ assemblies, (items.frameworkAssemblies.mapM fun v => do
      return Text.fold (← v.textFor "casefold")) = .ok assemblies := by
    refine Lists.exists_mapM_eq_ok fun v hv => ?_
    obtain ⟨s, rfl⟩ := h.frameworkAssemblies v hv
    exact ⟨Text.fold s, rfl⟩
  obtain ⟨root, hroot⟩ : ∃ root, rootText d items.packageRoot = .ok root := by
    rw [rootText]
    split
    · rcases h.packageRoot with hr | ⟨s, hr⟩
      · rename_i htruthy
        rw [hr] at htruthy
        cases htruthy
      · exact ⟨_, by rw [hr]; rfl⟩
    · exact ⟨none, rfl⟩
  exact ⟨⟨assemblies, root⟩, by rw [Items.scope, hassemblies, hroot]; rfl⟩

def written (spec : String) (metadata : List (String × String)) : Item :=
  ⟨.text spec, metadata.map fun m => (m.1, .text m.2)⟩

theorem typed_written (spec : String) (metadata : List (String × String)) : (written spec metadata).Typed := by
  refine ⟨⟨spec, rfl⟩, fun m hm => ?_⟩
  obtain ⟨m', -, rfl⟩ := List.mem_map.1 hm
  exact ⟨m'.2, rfl⟩

/-! ## Where a reference is found -/

/-- What a look-up gave is no path, or one that is a text. -/
def HasTextPath (path : Option Setting) : Prop := ∀ v, path = some v → ∃ s, v = .text s

/-- Only what is there is a file, and there is nothing at the empty path. -/
theorem file?_text (d : Disk) (s : String) :
    file? d (.text s) = .ok (if d.isFile s = true then some (Path.absolute d.here s) else none) := by
  have hempty : d.isFile "" = false := rfl
  by_cases hs : s = ""
  · rw [hs, hempty]
    rfl
  · simp [file?, pathText, hs, bind, Except.bind]
    rfl

/-- Whether a resolved item was written as a spec, without regard to case. -/
def isWrittenAs (spec : String) (r : Item) : Bool := Text.fold (r.said "OriginalItemSpec") == Text.fold spec

theorem resolvedAs_eq {resolved : List Item} (h : ∀ i ∈ resolved, i.Typed) (spec : String) :
    resolvedAs resolved spec = .ok (resolved.filter (isWrittenAs spec)) := by
  refine Lists.filterM_eq_ok fun i hi => ?_
  rw [(h i hi).get_eq]
  rfl

/-- How a reference is resolved: by the file of its hint, else by that of its spec, else by the only item for it. -/
theorem resolve_eq {i : Item} (hi : i.Typed) {resolved : List Item} (h : ∀ i ∈ resolved, i.Typed) (d : Disk)
    (spec : String) : resolve d resolved i spec = .ok
      (if d.isFile (i.said "HintPath") = true then .found (.text (Path.absolute d.here (i.said "HintPath")))
      else if d.isFile spec = true then .found (.text (Path.absolute d.here spec))
      else match resolved.filter (isWrittenAs spec) with
        | [] => .nowhere
        | [r] => .found (.text (r.label .direct))
        | rs => .ambiguous rs.length) := by
  rw [resolve, hi.get_eq, file?_text, file?_text, resolvedAs_eq h]
  by_cases hhint : d.isFile (i.said "HintPath") = true
  · simp only [if_pos hhint, bind, Except.bind]
    rfl
  · simp only [if_neg hhint, bind, Except.bind]
    by_cases hspec : d.isFile spec = true
    · simp only [if_pos hspec]
      rfl
    · simp only [if_neg hspec]
      have hsub : ∀ r ∈ resolved.filter (isWrittenAs spec), r ∈ resolved := fun r hr => (List.mem_filter.1 hr).1
      generalize resolved.filter (isWrittenAs spec) = found at hsub
      rcases found with _ | ⟨r, _ | ⟨_, _⟩⟩
      · rfl
      · simp only [(h r (hsub r List.mem_cons_self)).spec_eq]
        rfl
      · rfl

theorem exists_resolve {i : Item} (hi : i.Typed) {resolved : List Item} (h : ∀ i ∈ resolved, i.Typed) (d : Disk)
    (spec : String) : ∃ resolution, resolve d resolved i spec = .ok resolution ∧ HasTextPath resolution.path? := by
  have hfound (path : String) : HasTextPath (Resolution.found (.text path)).path? := by
    rintro v hv
    exact ⟨path, (Option.some.inj hv).symm⟩
  have hnowhere : HasTextPath none := fun v hv => by cases hv
  refine ⟨_, resolve_eq hi h d spec, ?_⟩
  split
  · exact hfound _
  · split
    · exact hfound _
    · split
      · exact hnowhere
      · exact hfound _
      · exact hnowhere

theorem exists_underRoot? (d : Disk) (root : Option String) (path : String) :
    ∃ under, underRoot? d root (.text path) = .ok under := by
  cases root <;> exact ⟨_, rfl⟩

theorem identityOf_text (path : String) : identityOf (some (.text path)) = .text path := by
  rw [identityOf]
  split
  · rfl
  · simp_all [Setting.isTruthy]

/-! ## What is decided -/

def decide (d : Disk) (s : Scope) (resolved : List Item) (c : Contributions) : Kind → Item → Except Fault Decision
  | .direct, i => decideReference d s resolved i
  | .project, i => decideProject d i
  | .package, i => decidePackage c i

/-- An item is decided on, and declares some references. -/
def Declares (x : Except Fault Decision) (rs : List Reference) : Prop :=
  ∃ decision, x = .ok decision ∧ decision.declarations = rs.map Declaration.ofReference

/-- An item is decided on, and what it declares is of a kind and under a label, but nothing if it is suppressed. -/
def DeclaresOnly (kind : Kind) (label : String) (suppressed : Bool) (x : Except Fault Decision) : Prop :=
  ∃ rs, Declares x rs ∧ (suppressed = true → rs = []) ∧ ∀ r ∈ rs, r.kind = kind ∧ r.label = label

theorem declaresOnly_nothing {kind : Kind} {label : String} {suppressed : Bool} {decision : Decision}
    (h : decision.declarations = []) : DeclaresOnly kind label suppressed (.ok decision) :=
  ⟨[], ⟨decision, rfl, h⟩, fun _ => rfl, fun _ hr => absurd hr List.not_mem_nil⟩

/-- A reference whose item says nothing, in a scope, against its being declared. -/
structure Admits (s : Scope) (i : Item) : Prop where
  explicit : ReferenceAudit.isTrue (i.said "IsImplicitlyDefined") = false
  assembly : Text.fold (i.label .direct) ∉ s.assemblies
  ofNoPackage : i.said "NuGetPackageId" = ""
  unsuppressed : i.isSuppressed .reference = .ok false

/-- What is decided on a reference that is not passed over, by the path at which it is found. -/
def decideFound (d : Disk) (s : Scope) (spec : String) (path : Option Setting) : Except Fault Decision := do
  let under ← match path with
    | some path => underRoot? d s.root path
    | none => pure none
  match under with
  | some path => return .underPackageRoot path
  | none => return .declared [⟨identityOf path, .direct, .text spec⟩]

section
variable {d : Disk} {s : Scope} {resolved : List Item} {c : Contributions} {i : Item}

theorem declares_of_not_admits (hi : i.Typed) (h : ¬Admits s i) : Declares (decideReference d s resolved i) [] := by
  obtain ⟨suppressed, hs⟩ := hi.isSuppressed .reference
  rw [decideReference, hi.isTrue_eq, hi.spec_eq, hi.has_eq, hs]
  simp only [bind, Except.bind, Setting.textFor]
  split
  · exact ⟨_, rfl, rfl⟩
  rename_i hexplicit
  split
  · exact ⟨_, rfl, rfl⟩
  rename_i hassembly
  split
  · exact ⟨_, rfl, rfl⟩
  rename_i hpackage
  split
  · exact ⟨_, rfl, rfl⟩
  rename_i hunsuppressed
  refine absurd ⟨by simpa using hexplicit, by simpa using hassembly, by simpa using hpackage, ?_⟩ h
  rw [hs, Bool.eq_false_iff.2 hunsuppressed]

theorem decideReference_of_admits (hi : i.Typed) (h : Admits s i) {resolution : Resolution}
    (hr : resolve d resolved i (i.label .direct) = .ok resolution) :
    decideReference d s resolved i = decideFound d s (i.label .direct) resolution.path? := by
  rw [decideReference, hi.isTrue_eq, hi.spec_eq, hi.has_eq, h.unsuppressed, h.explicit, h.ofNoPackage]
  simp only [bind, Except.bind, Setting.textFor, List.contains_iff_mem, if_neg h.assembly, hr, Bool.false_eq_true,
    if_false, bne_self_eq_false]
  cases resolution.path? <;> rfl

theorem declares_of_unfound (hi : i.Typed) (h : Admits s i) {resolution : Resolution}
    (hr : resolve d resolved i (i.label .direct) = .ok resolution) (hpath : resolution.path? = none) :
    Declares (decideReference d s resolved i) [⟨"", .direct, i.label .direct⟩] := by
  rw [decideReference_of_admits hi h hr, hpath]
  exact ⟨_, rfl, rfl⟩

/-- A reference that is found is declared, but not if it is found below the package root. -/
theorem declares_of_found (hi : i.Typed) (h : Admits s i) {resolution : Resolution}
    (hr : resolve d resolved i (i.label .direct) = .ok resolution) {path : String}
    (hpath : resolution.path? = some (.text path)) {under : Option String}
    (hunder : underRoot? d s.root (.text path) = .ok under) :
    Declares (decideReference d s resolved i) (if under =
      none then [⟨path, .direct, i.label .direct⟩] else []) := by
  rw [decideReference_of_admits hi h hr, hpath, decideFound, identityOf_text]
  simp only [hunder]
  cases under <;> exact ⟨_, rfl, rfl⟩

theorem declares_decideReference (hi : i.Typed) (h : ∀ i ∈ resolved, i.Typed) {suppressed : Bool}
    (hs : i.isSuppressed .reference = .ok suppressed) :
    DeclaresOnly .direct (i.label .direct) suppressed (decideReference d s resolved i) := by
  by_cases hadmits : Admits s i
  · cases hs.symm.trans hadmits.unsuppressed
    obtain ⟨resolution, hresolution, htext⟩ := exists_resolve hi h d (i.label .direct)
    cases hpath : resolution.path? with
    | none => exact ⟨_, declares_of_unfound hi hadmits hresolution hpath, fun h =>
      absurd h Bool.false_ne_true, by simp⟩
    | some v =>
      obtain ⟨path, rfl⟩ := htext v hpath
      obtain ⟨under, hunder⟩ := exists_underRoot? d s.root path
      refine ⟨_, declares_of_found hi hadmits hresolution hpath hunder, fun h => absurd h Bool.false_ne_true, ?_⟩
      split <;> simp
  · exact ⟨[], declares_of_not_admits hi hadmits, fun _ => rfl, by simp⟩

theorem declares_decideProject (hi : i.Typed) {suppressed : Bool} (hs : i.isSuppressed .project = .ok suppressed) :
    DeclaresOnly .project (i.label .project) suppressed (decideProject d i) := by
  obtain ⟨spec, hspec⟩ := hi.spec
  obtain ⟨label, hlabel⟩ : ∃ label, projectLabel i = .text label := by
    rw [projectLabel]
    split
    · exact hi.get _
    · exact hi.spec
  rw [decideProject, hs, hspec, hlabel]
  cases suppressed with
  | true => exact declaresOnly_nothing rfl
  | false =>
    simp only [bind, Except.bind, pathText, Bool.false_eq_true, if_false]
    split
    · exact declaresOnly_nothing rfl
    · refine ⟨[⟨Path.absolute d.here spec, .project, label⟩], ⟨_, rfl, rfl⟩, fun h =>
        absurd h Bool.false_ne_true, ?_⟩
      simp [Item.label, hlabel, Setting.shown]

theorem declares_decidePackage (hi : i.Typed) {suppressed : Bool} (hs : i.isSuppressed .package = .ok suppressed) :
    DeclaresOnly .package (i.label .package) suppressed (decidePackage c i) := by
  obtain ⟨id, hid⟩ := hi.spec
  cases suppressed with
  | true =>
    rw [decidePackage, hs]
    exact declaresOnly_nothing rfl
  | false =>
    refine ⟨c.records id, decidePackage_of_asked hs hid, fun h => absurd h Bool.false_ne_true, fun r hr => ?_⟩
    obtain ⟨-, -, hkind, hlabel⟩ := Contributions.mem_records_iff.1 hr
    exact ⟨hkind, by simp [Item.label, hid, hlabel, Setting.shown]⟩

theorem declares_decide (kind : Kind) (hi : i.Typed) (h : ∀ i ∈ resolved, i.Typed) {suppressed : Bool}
    (hs : i.isSuppressed (Category.ofKind kind) = .ok suppressed) :
    DeclaresOnly kind (i.label kind) suppressed (decide d s resolved c kind i) := by
  cases kind with
  | direct => exact declares_decideReference hi h hs
  | project => exact declares_decideProject hi hs
  | package => exact declares_decidePackage hi hs

end

/-! ## What is collected -/

def ofKind (items : Items) : Kind → List Item
  | .direct => items.references
  | .project => items.projects
  | .package => items.packages

theorem Typed.ofKind {items : Items} (h : items.Typed) (kind : Kind) : ∀ i ∈ items.ofKind kind, i.Typed := by
  cases kind with
  | direct => exact h.references
  | project => exact h.projects
  | package => exact h.packages

/-- Items are all decided on, and declare some references, one item after the other. -/
def DeclareAll (f : Item → Except Fault Decision) (is : List Item) (rs : List Reference) : Prop :=
  ∃ es, (is.mapM fun i => do return (i, ← f i)) = .ok es ∧
    es.flatMap (·.2.declarations) = rs.map Declaration.ofReference

theorem DeclareAll.nil (f : Item → Except Fault Decision) : DeclareAll f [] [] := ⟨[], rfl, rfl⟩

theorem DeclareAll.cons {f : Item → Except Fault Decision} {i : Item} {is : List Item} {rs rs' : List Reference}
    (hi : Declares (f i) rs) (h : DeclareAll f is rs') : DeclareAll f (i :: is) (rs ++ rs') := by
  obtain ⟨decision, hd, hdeclared⟩ := hi
  obtain ⟨es, hes, hall⟩ := h
  refine ⟨(i, decision) :: es, ?_, ?_⟩
  · rw [List.mapM_cons, hd, hes]
    rfl
  · rw [List.flatMap_cons, List.map_append, hdeclared, hall]

theorem collect_eq_ok {items : Items} {d : Disk} {c : Contributions} {s : Scope} (hs : items.scope d = .ok s)
    {rs : Kind → List Reference}
    (h : ∀ kind, DeclareAll (decide d s items.resolved c kind) (items.ofKind kind) (rs kind)) :
    items.collect d c = .ok ((rs .direct ++ rs .project ++ rs .package).map Declaration.ofReference) := by
  obtain ⟨references, hdirect, hreferences⟩ := h .direct
  obtain ⟨projects, hproject, hprojects⟩ := h .project
  obtain ⟨packages, hpackage, hpackages⟩ := h .package
  have hdecided : items.decideReferences d = .ok references := by
    rw [decideReferences]
    split
    · rename_i hempty
      rw [ofKind, List.isEmpty_iff.1 hempty] at hdirect
      exact hdirect
    · rw [hs]
      exact hdirect
  simp only [decide, ofKind] at hproject hpackage
  have hdecisions : items.decisions d c = .ok (references, projects, packages) := by
    rw [decisions, hdecided, hproject, hpackage]
    rfl
  rw [collect, hdecisions, List.map_append, List.map_append, ← hreferences, ← hprojects, ← hpackages,
    ← List.flatMap_append, ← List.flatMap_append]
  rfl

end Items
end ReferenceAudit
