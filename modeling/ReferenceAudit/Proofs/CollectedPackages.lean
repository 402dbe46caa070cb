import ReferenceAudit.Collection
import ReferenceAudit.Proofs.Lists

/-!
# What is collected from packages

An item that asks for a package declares what the package brings in. Main statements: the references to packages
among all that a project declares are those of the packages that it asks for, one package after the other; items
whose values are texts are always collected.
-/
namespace ReferenceAudit

/-- The references to a package: one for each module that it brings in, and none if build files come with it. -/
def Contributions.records (c : Contributions) (id : String) : List Reference :=
  if c.buildFilesFor id = [] then (c.modulesFor id).map fun m => ⟨m, .package, id⟩ else []

theorem Contributions.mem_records_iff {c : Contributions} {id : String} {r : Reference} :
    r ∈ c.records id ↔
      c.buildFilesFor id = [] ∧ r.identity ∈ c.modulesFor id ∧ r.kind = .package ∧ r.label = id := by
  obtain ⟨identity, kind, label⟩ := r
  rw [records]
  split
  · rename_i hb
    simp only [List.mem_map, Reference.mk.injEq, hb, true_and]
    constructor
    · rintro ⟨m, hm, rfl, rfl, rfl⟩
      exact ⟨hm, rfl, rfl⟩
    · rintro ⟨hm, rfl, rfl⟩
      exact ⟨identity, hm, rfl, rfl, rfl⟩
  · rename_i hb
    simp [hb]

theorem Contributions.records_eq_nil_iff {c : Contributions} {id : String} :
    c.records id = [] ↔ c.modulesFor id = [] ∨ c.buildFilesFor id ≠ [] := by
  rw [records]
  split <;> simp_all

theorem Contributions.modulesFor_of_not_contains {c : Contributions} {id : String} (h : c.contains id = false) :
    c.modulesFor id = [] := by
  rw [contains, Bool.or_eq_false_iff] at h
  have hk : packageKey id ∉ c.modules.keys := fun hm =>
    Bool.false_ne_true (h.1.symm.trans (List.contains_iff_mem.2 hm))
  rw [modulesFor, OrderedMap.getD, OrderedMap.get?_eq_none_iff.2 hk]
  rfl

namespace Item

/-- The package that an item asks for, unless it is suppressed. -/
def asked (i : Item) : List String :=
  match i.isSuppressed .package, i.spec with
  | .ok false, .text id => [id]
  | _, _ => []

/-- What was written, and all that is said about it, are texts. -/
structure Typed (i : Item) : Prop where
  spec : ∃ id, i.spec = .text id
  metadata : ∀ m ∈ i.metadata, ∃ s, m.2 = .text s

theorem Typed.get {i : Item} (h : i.Typed) (name : String) : ∃ s, i.get name = .text s := by
  rw [Item.get]
  split
  · rename_i v hv
    obtain ⟨before, after, he, -⟩ := List.lookup_eq_some_iff.1 hv
    obtain ⟨s, hs⟩ := h.metadata (name, v) (by simp [he])
    split
    · exact ⟨s, hs⟩
    · exact ⟨"", rfl⟩
  · exact ⟨"", rfl⟩

theorem Typed.isSuppressed {i : Item} (h : i.Typed) (c : Category) : ∃ b, i.isSuppressed c = .ok b := by
  obtain ⟨list, hlist⟩ := h.get "NoWarn"
  obtain ⟨flag, hflag⟩ := h.get "TreatAsUsed"
  rw [Item.isSuppressed, hlist, isTrue, hflag]
  cases hnames : noWarnNames list c.id with
  | true => exact ⟨true, by simp [Setting.textFor, bind, Except.bind, hnames]; rfl⟩
  | false => exact ⟨_, by simp [Setting.textFor, bind, Except.bind, hnames]; rfl⟩

end Item

namespace Items

variable {c : Contributions} {i : Item} {decision : Decision}

theorem decidePackage_of_asked {id : String} (hs : i.isSuppressed .package = .ok false) (hi : i.spec = .text id) :
    ∃ decision, decidePackage c i = .ok decision ∧
      decision.declarations = (c.records id).map Declaration.ofReference := by
  rw [decidePackage, hs, hi, Contributions.records]
  dsimp only [bind, Except.bind, Setting.textFor, Bool.false_eq_true, if_false]
  cases hc : c.contains id with
  | false =>
    refine ⟨.noModules, rfl, ?_⟩
    rw [Contributions.modulesFor_of_not_contains hc, List.map_nil, ite_self]
    rfl
  | true => cases hb : c.buildFilesFor id with
    | nil => exact ⟨_, rfl, by rw [if_pos rfl, List.map_map]; rfl⟩
    | cons file files => exact ⟨_, rfl, rfl⟩

/-- Whatever an item is decided to be, it declares the references to the package that it asks for. -/
theorem declarations_of_decidePackage (h : decidePackage c i = .ok decision) :
    decision.declarations = (i.asked.flatMap c.records).map Declaration.ofReference := by
  rw [Item.asked]
  cases hs : i.isSuppressed .package with
  | error fault =>
    rw [decidePackage, hs] at h
    cases h
  | ok suppressed => cases suppressed with
    | true =>
      rw [decidePackage, hs] at h
      cases h
      rfl
    | false =>
      obtain ⟨id, hi⟩ : ∃ id, i.spec = .text id := by
        rw [decidePackage, hs] at h
        cases hi : i.spec with
        | text id => exact ⟨id, rfl⟩
        | _ =>
          rw [hi] at h
          cases h
      obtain ⟨decision', hd, hrecords⟩ := decidePackage_of_asked (c := c) hs hi
      cases hd.symm.trans h
      simpa [hi] using hrecords

theorem kind_of_decideReference {d : Disk} {s : Scope} {resolved : List Item}
    (h : decideReference d s resolved i = .ok decision) : ∀ x ∈ decision.declarations, x.kind = .direct := by
  rw [decideReference] at h
  obtain ⟨implicit, -, h⟩ := bind_eq_ok.1 h
  split at h
  · cases h
    simp [Decision.declarations]
  obtain ⟨spec, -, h⟩ := bind_eq_ok.1 h
  split at h
  · cases h
    simp [Decision.declarations]
  split at h
  · cases h
    simp [Decision.declarations]
  obtain ⟨suppressed, -, h⟩ := bind_eq_ok.1 h
  split at h
  · cases h
    simp [Decision.declarations]
  obtain ⟨resolution, -, h⟩ := bind_eq_ok.1 h
  cases hp : resolution.path? with
  | some path =>
    rw [hp] at h
    obtain ⟨under, -, h⟩ := bind_eq_ok.1 h
    cases under <;> cases h <;> simp [Decision.declarations]
  | none =>
    rw [hp] at h
    cases h
    simp [Decision.declarations]

theorem kind_of_decideProject {d : Disk} (h : decideProject d i = .ok decision) :
    ∀ x ∈ decision.declarations, x.kind = .project := by
  rw [decideProject] at h
  obtain ⟨suppressed, -, h⟩ := bind_eq_ok.1 h
  split at h
  · cases h
    simp [Decision.declarations]
  split at h
  · cases h
    simp [Decision.declarations]
  obtain ⟨path, -, h⟩ := bind_eq_ok.1 h
  cases h
  simp [Decision.declarations]

theorem kind_of_decideReferences {d : Disk} {items : Items} {es : List (Item × Decision)}
    (h : items.decideReferences d = .ok es) : ∀ e ∈ es, ∀ x ∈ e.2.declarations, x.kind = .direct := by
  intro e he
  rw [decideReferences] at h
  split at h
  · cases h
    cases he
  · obtain ⟨s, -, h⟩ := bind_eq_ok.1 h
    obtain ⟨i, -, hi⟩ := Lists.exists_mem_of_mem_mapM h he
    obtain ⟨decision, hd, hi⟩ := bind_eq_ok.1 hi
    cases hi
    exact kind_of_decideReference hd

theorem kind_of_decideProjects {d : Disk} {is : List Item} {es : List (Item × Decision)}
    (h : (is.mapM fun i => do return (i, ← decideProject d i)) = .ok es) :
    ∀ e ∈ es, ∀ x ∈ e.2.declarations, x.kind = .project := by
  intro e he
  obtain ⟨i, -, hi⟩ := Lists.exists_mem_of_mem_mapM h he
  obtain ⟨decision, hd, hi⟩ := bind_eq_ok.1 hi
  cases hi
  exact kind_of_decideProject hd

theorem declarations_of_decidePackages {is : List Item} {es : List (Item × Decision)}
    (h : (is.mapM fun i => do return (i, ← decidePackage c i)) = .ok es) :
    es.flatMap (·.2.declarations) = ((is.flatMap Item.asked).flatMap c.records).map Declaration.ofReference := by
  have hall := Lists.mapM_eq_ok_iff.1 h
  clear h
  induction hall with
  | nil => rfl
  | cons hi _ ih =>
    obtain ⟨decision, hd, hi⟩ := bind_eq_ok.1 hi
    cases hi
    rw [List.flatMap_cons, List.flatMap_cons, List.flatMap_append, List.map_append, ih,
      declarations_of_decidePackage hd]

theorem filter_collect {d : Disk} {items : Items} {xs : List Declaration} (h : items.collect d c = .ok xs) :
    xs.filter (fun x => x.kind == .package) =
      ((items.packages.flatMap Item.asked).flatMap c.records).map Declaration.ofReference := by
  obtain ⟨⟨references, projects, packages⟩, hdecisions, h⟩ := bind_eq_ok.1 h
  obtain ⟨_, hreferences, hdecisions⟩ := bind_eq_ok.1 hdecisions
  obtain ⟨_, hprojects, hdecisions⟩ := bind_eq_ok.1 hdecisions
  obtain ⟨_, hpackages, hdecisions⟩ := bind_eq_ok.1 hdecisions
  cases hdecisions
  cases h
  have hnone {es : List (Item × Decision)} {kind : Kind} (hkind : kind ≠ .package)
      (hes : ∀ e ∈ es, ∀ x ∈ e.2.declarations, x.kind = kind) :
      (es.flatMap (·.2.declarations)).filter (fun x => x.kind == .package) = [] := by
    rw [List.filter_eq_nil_iff]
    intro x hx
    obtain ⟨e, he, hx⟩ := List.mem_flatMap.1 hx
    simpa [hes e he x hx] using hkind
  have hpackage (rs : List Declaration) (hrs : ∀ x ∈ rs, x.kind = .package) :
      rs.filter (fun x => x.kind == .package) = rs := by
    rw [List.filter_eq_self]
    intro x hx
    simpa using hrs x hx
  rw [List.flatMap_append, List.flatMap_append, List.filter_append, List.filter_append,
    hnone (by decide) (kind_of_decideReferences hreferences), hnone (by decide) (kind_of_decideProjects hprojects),
    declarations_of_decidePackages hpackages, hpackage, List.nil_append, List.nil_append]
  intro x hx
  obtain ⟨r, hr, rfl⟩ := List.mem_map.1 hx
  obtain ⟨id, -, hr⟩ := List.mem_flatMap.1 hr
  exact (Contributions.mem_records_iff.1 hr).2.2.1

def ofPackages (is : List Item) : Items := ⟨[], [], [], is, [], .null⟩

theorem collect_of_typed {is : List Item} (h : ∀ i ∈ is, i.Typed) (d : Disk) (c : Contributions) :
    ∃ xs, (ofPackages is).collect d c = .ok xs := by
  obtain ⟨es, hes⟩ : ∃ es, (is.mapM fun i => do return (i, ← decidePackage c i)) = .ok es := by
    apply Lists.exists_mapM_eq_ok
    intro i hi
    obtain ⟨suppressed, hs⟩ := (h i hi).isSuppressed .package
    cases suppressed with
    | true => exact ⟨(i, .suppressed), by rw [decidePackage, hs]; rfl⟩
    | false =>
      obtain ⟨id, hid⟩ := (h i hi).spec
      obtain ⟨decision, hd, -⟩ := decidePackage_of_asked (c := c) hs hid
      exact ⟨(i, decision), by rw [hd]; rfl⟩
  refine ⟨es.flatMap (·.2.declarations), ?_⟩
  rw [collect, decisions, ofPackages]
  dsimp only
  rw [hes]
  rfl

end Items
end ReferenceAudit
