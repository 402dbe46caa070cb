import Mathlib.Logic.Relation
import ReferenceAudit.PackageGraph.Build

/-!
# The index of dependents is the dependency edges turned round

Checking a graph succeeds exactly if its index lists, for each package and each dependency, the packages
that depend on it. A graph that was built always passes, and in one that passes going along the index is
going backwards along the dependency edges.
-/
namespace ReferenceAudit.PackageGraph
open Relation

/-- A dependency edge between two packages of the graph. -/
def Requires (g : PackageGraph) (a b : String) : Prop :=
  b ∈ g.packages.keys ∧ ∃ p, g.packages.get? a = some p ∧ p.dependsOn b = true

/-- What a package requires, directly or through others, and itself. -/
def BringsIn (g : PackageGraph) : String → String → Prop := ReflTransGen g.Requires

/-- What the index reaches from a package: those that depend on it, directly or through others, and itself. -/
def Supplies (g : PackageGraph) : String → String → Prop := ReflTransGen fun a b => b ∈ g.dependents.getD a []

theorem mem_dependers {g : PackageGraph} {key x : String} :
    x ∈ g.dependers key ↔ ∃ p, g.packages.get? x = some p ∧ p.dependsOn key = true := by
  simp [dependers, OrderedMap.get?_eq_some_iff]

theorem mem_indexedKeys {g : PackageGraph} {key : String} :
    key ∈ g.indexedKeys ↔ key ∈ g.packages.keys ∨ ∃ x, x ∈ g.dependers key := by
  simp only [indexedKeys, List.mem_append, mem_dependers, OrderedMap.values, List.mem_flatMap, List.mem_map,
    OrderedMap.get?_eq_some_iff, Package.dependsOn, List.any_eq_true, beq_iff_eq]
  refine or_congr_right ⟨?_, ?_⟩
  · rintro ⟨p, ⟨e, he, rfl⟩, d, hd, rfl⟩
    exact ⟨e.1, e.2, he, d, hd, rfl⟩
  · rintro ⟨x, p, he, d, hd, rfl⟩
    exact ⟨p, ⟨(x, p), he, rfl⟩, d, hd, rfl⟩

theorem isConsistentAt_iff {g : PackageGraph} {key : String} :
    g.isConsistentAt key = true ↔
      key ∈ g.indexedKeys ∧ key ∈ g.dependents.keys ∧
        ∀ x, x ∈ g.dependents.getD key [] ↔ x ∈ g.dependers key := by
  rw [isConsistentAt, Bool.and_eq_true, List.contains_iff_mem]
  refine and_congr_right fun _ => ?_
  cases hf : g.dependents.get? key with
  | none => simp [OrderedMap.get?_eq_none_iff.1 hf]
  | some found =>
    have hk : key ∈ g.dependents.keys := OrderedMap.mem_keys_iff.2 ⟨found, hf⟩
    simp [hk, sameMembers_iff, OrderedMap.getD, hf]

theorem verify_eq_ok_iff {g : PackageGraph} :
    g.verify = .ok () ↔
      (∀ key, key ∈ g.dependents.keys ↔ key ∈ g.indexedKeys) ∧
        ∀ key x, x ∈ g.dependents.getD key [] ↔ x ∈ g.dependers key := by
  have hnil : g.verify = .ok () ↔ g.inconsistentKeys = [] := by
    rw [verify]
    split <;> simp_all
  rw [hnil, List.eq_nil_iff_forall_not_mem]
  simp only [mem_inconsistentKeys, not_and, Bool.not_eq_false, isConsistentAt_iff]
  constructor
  · intro h
    have hkeys (key : String) : key ∈ g.dependents.keys ↔ key ∈ g.indexedKeys :=
      ⟨fun hk => (h key (Or.inl hk)).1, fun hk => (h key (Or.inr hk)).2.1⟩
    refine ⟨hkeys, fun key x => ?_⟩
    by_cases hk : key ∈ g.dependents.keys
    · exact (h key (Or.inl hk)).2.2 x
    · -- a key outside the index has no dependents, and nothing depends on it
      have hd : x ∉ g.dependers key := fun hx => hk ((hkeys key).2 (mem_indexedKeys.2 (Or.inr ⟨x, hx⟩)))
      simp [OrderedMap.getD, OrderedMap.get?_eq_none_iff.2 hk, hd]
  · rintro ⟨hkeys, hmem⟩ key hk
    have hi : key ∈ g.indexedKeys := by
      rcases hk with hk | hk
      · exact (hkeys key).1 hk
      · exact hk
    exact ⟨hi, (hkeys key).2 hi, hmem key⟩

/-! ## Built graphs -/

theorem mem_addMember {x y : String} {xs : List String} : y ∈ addMember x xs ↔ y ∈ xs ∨ y = x := by
  rw [addMember]
  split
  · constructor
    · exact Or.inl
    · rintro (hy | rfl) <;> assumption
  · simp

theorem mem_addDependent {index : OrderedMap (List String)} {dependency dependent key x : String} :
    x ∈ (addDependent index dependency dependent).getD key [] ↔
      x ∈ index.getD key [] ∨ (key = dependency ∧ x = dependent) := by
  rw [addDependent, OrderedMap.getD_insert]
  split
  · rename_i hk
    subst hk
    simp [mem_addMember]
  · rename_i hk
    simp [hk]

/-- Each dependency's key with the key of the package that has it. -/
def edges (packages : OrderedMap Package) : List (String × String) :=
  packages.entries.flatMap fun e => e.2.dependencies.map fun d => (packageKey d, e.1)

theorem mem_edges {packages : OrderedMap Package} {key x : String} :
    (key, x) ∈ edges packages ↔ ∃ p, packages.get? x = some p ∧ p.dependsOn key = true := by
  simp only [edges, OrderedMap.get?_eq_some_iff, Package.dependsOn, List.mem_flatMap, List.mem_map, Prod.mk.injEq,
    List.any_eq_true, beq_iff_eq]
  constructor
  · rintro ⟨⟨y, p⟩, hp, d, hd, rfl, rfl⟩
    exact ⟨p, hp, d, hd, rfl⟩
  · rintro ⟨p, hp, d, hd, rfl⟩
    exact ⟨(x, p), hp, d, hd, rfl, rfl⟩

theorem indexOf_eq_foldl (packages : OrderedMap Package) :
    indexOf packages =
      (edges packages).foldl (fun index e => addDependent index e.1 e.2) (packages.map fun _ => []) := by
  simp only [indexOf, edges, List.foldl_flatMap, List.foldl_map]

theorem mem_foldl_addDependent (es : List (String × String)) (index : OrderedMap (List String)) (key x : String) :
    x ∈ (es.foldl (fun index e => addDependent index e.1 e.2) index).getD key [] ↔
      x ∈ index.getD key [] ∨ (key, x) ∈ es := by
  induction es generalizing index with
  | nil => simp
  | cons e es ih =>
    rw [List.foldl_cons, ih, mem_addDependent, List.mem_cons, or_assoc]
    simp [Prod.ext_iff]

theorem mem_keys_foldl_addDependent (es : List (String × String)) (index : OrderedMap (List String))
    (key : String) :
    key ∈ (es.foldl (fun index e => addDependent index e.1 e.2) index).keys ↔
      key ∈ index.keys ∨ ∃ x, (key, x) ∈ es := by
  induction es generalizing index with
  | nil => simp
  | cons e es ih =>
    obtain ⟨d, y⟩ := e
    rw [List.foldl_cons, ih, addDependent, OrderedMap.mem_keys_insert, or_assoc]
    refine or_congr_right ⟨?_, ?_⟩
    · rintro (rfl | ⟨x, hx⟩)
      · exact ⟨y, List.mem_cons_self⟩
      · exact ⟨x, List.mem_cons_of_mem _ hx⟩
    · rintro ⟨x, hx⟩
      rcases List.mem_cons.1 hx with he | hx
      · exact Or.inl (congrArg Prod.fst he)
      · exact Or.inr ⟨x, hx⟩

theorem verify_indexOf (packages : OrderedMap Package) : verify ⟨packages, indexOf packages⟩ = .ok () := by
  have hempty (key : String) : (packages.map fun _ => ([] : List String)).getD key [] = [] := by
    rw [OrderedMap.getD, OrderedMap.get?_map]
    cases packages.get? key <;> rfl
  rw [verify_eq_ok_iff]
  constructor
  · intro key
    simp only [indexOf_eq_foldl, mem_keys_foldl_addDependent, OrderedMap.keys_map, mem_indexedKeys, mem_edges,
      mem_dependers]
  · intro key x
    simp only [indexOf_eq_foldl, mem_foldl_addDependent, hempty, mem_edges, mem_dependers, List.not_mem_nil,
      false_or]

section
variable {d : Disk} {m : Manifest} {selector : Selector} {ignored : List String} {naming : ModuleNaming}
    {g : PackageGraph}

theorem build_eq_ok_iff :
    build d m selector ignored naming = .ok g ↔
      ∃ target ps, m.findTarget? selector.targetKey = some target ∧
        (packageEntries target).mapM (packageOf d m ignored naming) = .ok ps ∧ ofPackages ps = g := by
  rw [build]
  cases m.findTarget? selector.targetKey with
  | none => simp
  | some target =>
    cases hps : (packageEntries target).mapM (packageOf d m ignored naming) <;> simp [hps, Except.map]

theorem verify_of_build (h : build d m selector ignored naming = .ok g) : g.verify = .ok () := by
  obtain ⟨_, _, -, -, rfl⟩ := build_eq_ok_iff.1 h
  exact verify_indexOf _

end

/-! ## Going along the index -/

section
variable {g : PackageGraph} (h : g.verify = .ok ())
include h

theorem mem_dependents_iff {a b : String} :
    b ∈ g.dependents.getD a [] ↔ ∃ p, g.packages.get? b = some p ∧ p.dependsOn a = true := by
  rw [(verify_eq_ok_iff.1 h).2, mem_dependers]

theorem mem_keys_of_supplies {a b : String} (ha : a ∈ g.packages.keys) (hs : g.Supplies a b) :
    b ∈ g.packages.keys := by
  induction hs with
  | refl => exact ha
  | tail _ hb _ =>
    obtain ⟨p, hp, -⟩ := (mem_dependents_iff h).1 hb
    exact OrderedMap.mem_keys_iff.2 ⟨p, hp⟩

theorem supplies_iff_bringsIn {a b : String} (ha : a ∈ g.packages.keys) : g.Supplies a b ↔ g.BringsIn b a := by
  constructor
  · intro hs
    induction hs with
    | refl => exact .refl
    | tail hs hb ih =>
      exact .head ⟨mem_keys_of_supplies h ha hs, (mem_dependents_iff h).1 hb⟩ ih
  · intro hb
    induction hb using ReflTransGen.head_induction_on with
    | refl => exact .refl
    | head hr _ ih => exact .tail ih ((mem_dependents_iff h).2 hr.2)

end

end ReferenceAudit.PackageGraph
