import ReferenceAudit.Proofs.DependentIndex
import ReferenceAudit.Proofs.Walk

/-!
# What packages contribute is what reaches them along the index

Main statement: under each key stand the items of the packages that the index leads from to it, in the order
of the packages and without later repetitions, and keys without any have no entry. In a graph whose index is
consistent these are the packages that the key's package depends on, directly or through others, and itself.
-/
namespace ReferenceAudit.Contributions
open Relation PackageGraph

theorem allDependents_walks (g : PackageGraph) (key : String) :
    Walks (fun k => g.dependents.getD k []) [] [key] (allDependents g key) := by
  have hnext : ∀ k j, j ∈ g.dependents.getD k [] → j ∈ candidates g key := by
    intro k j hj
    cases hf : g.dependents.get? k with
    | none => simp [OrderedMap.getD, hf] at hj
    | some found =>
      simp only [OrderedMap.getD, hf, Option.getD_some] at hj
      have hv : found ∈ g.dependents.values := List.mem_map.2 ⟨(k, found), OrderedMap.get?_eq_some_iff.1 hf, rfl⟩
      exact List.mem_eraseDups.2 (List.mem_cons_of_mem _ (List.mem_flatten.2 ⟨found, hv, hj⟩))
  apply walks_walk
  · exact Lists.nodup_eraseDups _
  · simp
  · intro k hk
    rw [List.mem_singleton] at hk
    exact Or.inr (List.mem_eraseDups.2 (hk ▸ List.mem_cons_self))
  · exact fun k _ j hj => Or.inr (hnext k j hj)

theorem mem_allDependents_iff {g : PackageGraph} {a b : String} : b ∈ allDependents g a ↔ g.Supplies a b :=
  (allDependents_walks g a).mem_iff

instance (g : PackageGraph) (a b : String) : Decidable (g.Supplies a b) :=
  decidable_of_iff (b ∈ allDependents g a) mem_allDependents_iff

/-! ## Items added one key after the other -/

theorem union_eraseDups (xs ys : List String) : union xs.eraseDups ys = (xs ++ ys).eraseDups := by
  induction ys generalizing xs with
  | nil => simp [union]
  | cons y ys ih =>
    have hstep : (if y ∈ xs.eraseDups then xs.eraseDups else xs.eraseDups ++ [y]) = (xs ++ [y]).eraseDups := by
      by_cases hy : y ∈ xs
      · rw [if_pos (List.mem_eraseDups.2 hy), Lists.eraseDups_concat_of_mem hy]
      · rw [if_neg (mt List.mem_eraseDups.1 hy), Lists.eraseDups_concat_of_not_mem hy]
    calc union xs.eraseDups (y :: ys)
        = union (xs ++ [y]).eraseDups ys := by rw [union, List.foldl_cons, hstep, union]
      _ = (xs ++ y :: ys).eraseDups := by rw [ih, List.append_assoc, List.singleton_append]

theorem getD_foldl_addItems {keys : List String} (hn : keys.Nodup) (items : List String)
    (acc : OrderedMap (List String)) (q : String) :
    (keys.foldl (addItems items) acc).getD q [] =
      if q ∈ keys then union (acc.getD q []) items else acc.getD q [] := by
  induction keys generalizing acc with
  | nil => rfl
  | cons key keys ih =>
    rw [List.nodup_cons] at hn
    rw [List.foldl_cons, ih hn.2, addItems, OrderedMap.getD_insert]
    by_cases hq : q = key
    · subst hq
      simp [hn.1]
    · simp [hq]

theorem mem_keys_foldl_addItems (keys items : List String) (acc : OrderedMap (List String)) (q : String) :
    q ∈ (keys.foldl (addItems items) acc).keys ↔ q ∈ acc.keys ∨ q ∈ keys := by
  induction keys generalizing acc with
  | nil => simp
  | cons key keys ih => rw [List.foldl_cons, ih, addItems, OrderedMap.mem_keys_insert, List.mem_cons, or_assoc]

/-! ## Package by package -/

/-- The items of those among some packages that the index leads from to a key, package by package. -/
def receivedFrom (g : PackageGraph) (items : Package → List String) (es : List (String × Package)) (q : String) :
    List String :=
  (es.filter fun e => g.Supplies e.1 q).flatMap fun e => items e.2

/-- All items that come to a key along the index. -/
def received (g : PackageGraph) (items : Package → List String) (q : String) : List String :=
  receivedFrom g items g.packages.entries q

/-- What stands under a key for the items that come to it: nothing, or each of them once. -/
def entry? (items : List String) : Option (List String) := if items = [] then none else some items.eraseDups

theorem mem_received_iff {g : PackageGraph} {items : Package → List String} {q x : String} :
    x ∈ received g items q ↔ ∃ k p, g.packages.get? k = some p ∧ g.Supplies k q ∧ x ∈ items p := by
  simp [received, receivedFrom, OrderedMap.get?_eq_some_iff, and_assoc]

/-- The invariant of handing out: under each key stands what has come to it. -/
def Holds (acc : OrderedMap (List String)) (owed : String → List String) : Prop :=
  ∀ q, acc.get? q = entry? (owed q)

theorem Holds.getD {acc : OrderedMap (List String)} {owed : String → List String} (h : Holds acc owed)
    (q : String) :
    acc.getD q [] = (owed q).eraseDups := by
  rw [OrderedMap.getD, h q, entry?]
  split
  · rename_i hq
    rw [hq]
    rfl
  · rfl

theorem Holds.mem_keys_iff {acc : OrderedMap (List String)} {owed : String → List String} (h : Holds acc owed)
    (q : String) : q ∈ acc.keys ↔ owed q ≠ [] := by
  rw [← not_iff_not, ← OrderedMap.get?_eq_none_iff, h q, entry?]
  simp

theorem holds_of_getD {acc : OrderedMap (List String)} {owed : String → List String}
    (hd : ∀ q, acc.getD q [] = (owed q).eraseDups) (hk : ∀ q, q ∈ acc.keys ↔ owed q ≠ []) : Holds acc owed := by
  intro q
  have hq := hd q
  by_cases ho : owed q = []
  · have hn : q ∉ acc.keys := fun hm => (hk q).1 hm ho
    rw [OrderedMap.get?_eq_none_iff.2 hn, entry?, if_pos ho]
  · obtain ⟨value, hv⟩ := OrderedMap.mem_keys_iff.1 ((hk q).2 ho)
    rw [OrderedMap.getD, hv, Option.getD_some] at hq
    rw [hv, entry?, if_neg ho, hq]

theorem Holds.handOut {g : PackageGraph} {items : Package → List String} {acc : OrderedMap (List String)}
    {owed : String → List String} (h : Holds acc owed) (e : String × Package) :
    Holds (handOut g items acc e) fun q => owed q ++ receivedFrom g items [e] q := by
  have hone (q : String) : receivedFrom g items [e] q = if g.Supplies e.1 q then items e.2 else [] := by
    by_cases hs : g.Supplies e.1 q <;> simp [receivedFrom, hs]
  simp only [hone]
  rw [Contributions.handOut]
  by_cases hi : items e.2 = []
  · simpa [hi] using h
  · rw [if_neg hi]
    apply holds_of_getD
    · intro q
      simp only [getD_foldl_addItems (allDependents_walks g e.1).nodup, h.getD, mem_allDependents_iff]
      split
      · exact union_eraseDups _ _
      · rw [List.append_nil]
    · intro q
      rw [mem_keys_foldl_addItems, h.mem_keys_iff, mem_allDependents_iff]
      by_cases hs : g.Supplies e.1 q <;> simp [hs, hi]

theorem Holds.foldl_handOut {g : PackageGraph} {items : Package → List String} (es : List (String × Package))
    {acc : OrderedMap (List String)} {owed : String → List String} (h : Holds acc owed) :
    Holds (es.foldl (Contributions.handOut g items) acc) fun q => owed q ++ receivedFrom g items es q := by
  induction es generalizing acc owed with
  | nil => simpa [receivedFrom] using h
  | cons e es ih =>
    have hcons (q : String) : receivedFrom g items (e :: es) q = receivedFrom g items [e] q ++
        receivedFrom g items es q := by
      rw [receivedFrom, receivedFrom, receivedFrom, ← List.flatMap_append, ← List.filter_append,
        List.singleton_append]
    rw [List.foldl_cons]
    simpa only [hcons, List.append_assoc] using ih (h.handOut e)

theorem spread_holds (g : PackageGraph) (items : Package → List String) :
    Holds (spread g items) (received g items) := by
  have hempty : Holds OrderedMap.empty fun _ => [] := fun _ => rfl
  exact hempty.foldl_handOut g.packages.entries

theorem mem_received_iff_bringsIn {g : PackageGraph} (h : g.verify = .ok ()) {items : Package → List String}
    {q x : String} :
    x ∈ received g items q ↔ ∃ k p, g.packages.get? k = some p ∧ g.BringsIn q k ∧ x ∈ items p := by
  rw [mem_received_iff]
  refine exists_congr fun k => exists_congr fun p => and_congr_right fun hk => and_congr_left fun _ => ?_
  exact supplies_iff_bringsIn h (OrderedMap.mem_keys_iff.2 ⟨p, hk⟩)

theorem mem_keys_of_received {g : PackageGraph} (h : g.verify = .ok ()) {items : Package → List String} {q : String}
    (hq : received g items q ≠ []) : q ∈ g.packages.keys := by
  obtain ⟨x, hx⟩ := List.exists_mem_of_ne_nil _ hq
  obtain ⟨k, p, hk, hs, -⟩ := mem_received_iff.1 hx
  exact mem_keys_of_supplies h (OrderedMap.mem_keys_iff.2 ⟨p, hk⟩) hs

/-- Contributions of any graph, with whatever index: every walk comes to its end, and each key has what comes
to it along the index. In a consistent graph that is what its package requires. -/
theorem ofGraph_eq_received (g : PackageGraph) :
    (∀ key, Walks (fun k => g.dependents.getD k []) [] [key] (allDependents g key)) ∧
    (∀ q, (ofGraph g).modules.get? q = entry? (received g (·.modules) q)) ∧
    (∀ q, (ofGraph g).buildFiles.get? q = entry? (received g (·.buildFiles) q)) ∧
    (g.verify = .ok () →
      (∀ q, q ∈ (ofGraph g).modules.keys ∨ q ∈ (ofGraph g).buildFiles.keys → q ∈ g.packages.keys) ∧
      ∀ p ∈ g.packages.keys, ∀ q, g.Supplies p q ↔ g.BringsIn q p) := by
  have hm := spread_holds g (·.modules)
  have hb := spread_holds g (·.buildFiles)
  refine ⟨allDependents_walks g, hm, hb, fun h => ⟨?_, fun p hp q => supplies_iff_bringsIn h hp⟩⟩
  rintro q (hq | hq)
  · exact mem_keys_of_received h ((hm.mem_keys_iff q).1 hq)
  · exact mem_keys_of_received h ((hb.mem_keys_iff q).1 hq)

/-- Two packages that depend on each other, and one above them that asks for one of them in other case and for
a package that is not there. -/
def mutualGraph : PackageGraph :=
  ofPackages [⟨"Top", "1", ["LEFT", "gone"], [], []⟩, ⟨"Left", "1", ["right"], ["l.dll"], []⟩,
    ⟨"Right", "1", ["Left"], ["r.dll", "l.dll"], ["r.targets"]⟩]

theorem mutualGraph_top_bringsIn_right :
    mutualGraph.verify = .ok () ∧ "right" ∈ mutualGraph.packages.keys ∧ mutualGraph.BringsIn "top" "right" := by
  have hv : mutualGraph.verify = .ok () := by decide +kernel
  have hk : "right" ∈ mutualGraph.packages.keys := by decide +kernel
  have hs : mutualGraph.Supplies "right" "top" :=
    .tail (.single (b := "left") (by decide +kernel)) (by decide +kernel)
  exact ⟨hv, hk, (((ofGraph_eq_received mutualGraph).2.2.2 hv).2 "right" hk "top").1 hs⟩

end ReferenceAudit.Contributions
