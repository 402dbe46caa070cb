import ReferenceAudit.Proofs.DependentIndex
import ReferenceAudit.Proofs.Lists

/-!
# What checking an index finds

An index of dependents can lack a key that it has to have, have one too many, or list wrong dependents under
one. Main statement: a graph passes exactly if its index is the dependencies turned round, and else the keys are
told that something is wrong at: all of them, no others, each once and in order.
-/
namespace ReferenceAudit.PackageGraph
variable {g : PackageGraph} {key x : String}

/-- The package with the first key has a direct dependency with the second. -/
def Asks (g : PackageGraph) (x key : String) : Prop :=
  ∃ p, g.packages.get? x = some p ∧ ∃ dependency ∈ p.dependencies, packageKey dependency = key

/-- An index has to have the keys of the packages, and of whatever these ask for. -/
def Expects (g : PackageGraph) (key : String) : Prop := key ∈ g.packages.keys ∨ ∃ x, g.Asks x key

/-- The index has the keys that it has to have, and under each the keys of the packages that ask for it. -/
structure IsTransposed (g : PackageGraph) : Prop where
  keys : ∀ key, key ∈ g.dependents.keys ↔ g.Expects key
  dependents : ∀ key found, g.dependents.get? key = some found → ∀ x, x ∈ found ↔ g.Asks x key

/-- Something is wrong with the index at a key. -/
inductive IsWrongAt (g : PackageGraph) (key : String) : Prop
  | missing (expected : g.Expects key) (absent : key ∉ g.dependents.keys)
  | superfluous (present : key ∈ g.dependents.keys) (unexpected : ¬g.Expects key)
  | mislisted {found : List String} (expected : g.Expects key) (entry : g.dependents.get? key = some found)
      (wrong : ¬∀ x, x ∈ found ↔ g.Asks x key)

theorem mem_dependers_iff_asks : x ∈ g.dependers key ↔ g.Asks x key := by
  simp only [mem_dependers, Asks, Package.dependsOn, List.any_eq_true, beq_iff_eq]

theorem mem_indexedKeys_iff_expects : key ∈ g.indexedKeys ↔ g.Expects key := by
  simp only [mem_indexedKeys, mem_dependers_iff_asks, Expects]

theorem forall_getD_iff {found : List String} (h : g.dependents.get? key = some found) :
    (∀ x, x ∈ g.dependents.getD key [] ↔ x ∈ g.dependers key) ↔ ∀ x, x ∈ found ↔ g.Asks x key := by
  simp only [OrderedMap.getD, h, Option.getD_some, mem_dependers_iff_asks]

theorem mem_inconsistentKeys_iff : key ∈ g.inconsistentKeys ↔ g.IsWrongAt key := by
  rw [mem_inconsistentKeys, ← Bool.not_eq_true, isConsistentAt_iff, mem_indexedKeys_iff_expects]
  constructor
  · rintro ⟨hsomewhere, hnot⟩
    by_cases hexpected : g.Expects key
    · by_cases hpresent : key ∈ g.dependents.keys
      · obtain ⟨found, hfound⟩ := OrderedMap.mem_keys_iff.1 hpresent
        refine .mislisted hexpected hfound fun hsame => ?_
        exact hnot ⟨hexpected, hpresent, (forall_getD_iff hfound).2 hsame⟩
      · exact .missing hexpected hpresent
    · exact .superfluous (hsomewhere.resolve_right hexpected) hexpected
  · intro hwrong
    cases hwrong with
    | missing expected absent => exact ⟨Or.inr expected, fun h => absent h.2.1⟩
    | superfluous present unexpected => exact ⟨Or.inl present, fun h => unexpected h.1⟩
    | mislisted expected entry wrong => exact ⟨Or.inr expected, fun h => wrong ((forall_getD_iff entry).1 h.2.2)⟩

theorem isTransposed_iff : g.IsTransposed ↔ ∀ key, ¬g.IsWrongAt key := by
  constructor
  · intro h key hwrong
    cases hwrong with
    | missing expected absent => exact absent ((h.keys key).2 expected)
    | superfluous present unexpected => exact unexpected ((h.keys key).1 present)
    | mislisted _ entry wrong => exact wrong (h.dependents key _ entry)
  · intro h
    have hkeys (key : String) : key ∈ g.dependents.keys ↔ g.Expects key := by
      constructor
      · exact fun hpresent => by_contra fun hno => h key (.superfluous hpresent hno)
      · exact fun hexpected => by_contra fun hno => h key (.missing hexpected hno)
    refine ⟨hkeys, fun key found hfound => by_contra fun hno => ?_⟩
    exact h key (.mislisted ((hkeys key).1 (OrderedMap.mem_keys_iff.2 ⟨found, hfound⟩)) hfound hno)

theorem verify_eq (g : PackageGraph) :
    g.verify = if g.inconsistentKeys = [] then .ok () else .error (.indexInconsistent g.inconsistentKeys) := by
  rw [verify]
  split <;> simp_all

/-- **Checking a graph is exact.** It passes if and only if its index is the dependencies turned round. Otherwise it
fails with keys, at least one, in strict order, which are just those at which something is wrong. -/
theorem verify_exact (g : PackageGraph) :
    (g.verify = .ok () ↔ g.IsTransposed) ∧
    ∀ fault, g.verify = .error fault ↔
      ∃ keys, fault = .indexInconsistent keys ∧ keys ≠ [] ∧ keys.Pairwise (· < ·) ∧
        ∀ key, key ∈ keys ↔ g.IsWrongAt key := by
  have hkeys : g.inconsistentKeys = [] ↔ g.IsTransposed := by
    simp only [isTransposed_iff, List.eq_nil_iff_forall_not_mem, mem_inconsistentKeys_iff]
  refine ⟨?_, fun fault => ?_⟩
  · rw [← hkeys, verify_eq]
    split <;> simp_all
  · rw [verify_eq]
    constructor
    · intro h
      split at h
      · cases h
      · rename_i hne
        cases h
        exact ⟨_, rfl, hne, Text.pairwise_lt_sortedSet _, fun key => mem_inconsistentKeys_iff⟩
    · rintro ⟨keys, rfl, hne, hordered, hmem⟩
      have hsame : keys = g.inconsistentKeys := by
        refine Text.eq_sortedSet hordered fun key => ?_
        rw [hmem, ← mem_inconsistentKeys_iff, inconsistentKeys, Text.mem_sortedSet]
      rw [← hsame, if_neg hne]

/-- An index with dependents of a package that are none, a key that nobody asks for, and no entry for two keys. -/
def spoiltGraph : PackageGraph :=
  ⟨OrderedMap.ofList [("c", ⟨"C", "1", [], [], []⟩), ("a", ⟨"A", "1", ["B", "b"], [], []⟩)],
    OrderedMap.ofList [("z", []), ("a", ["c"])]⟩

theorem spoiltGraph_wrong_at_four :
    spoiltGraph.verify = .error (.indexInconsistent ["a", "b", "c", "z"]) ∧ ¬spoiltGraph.IsTransposed ∧
      ∀ key, spoiltGraph.IsWrongAt key ↔ key ∈ ["a", "b", "c", "z"] := by
  obtain ⟨hpasses, hfails⟩ := verify_exact spoiltGraph
  have hkeys : spoiltGraph.inconsistentKeys = ["a", "b", "c", "z"] :=
    (Text.eq_sortedSet (by decide +kernel) (sameMembers_iff.1 (by decide +kernel))).symm
  have hverify : spoiltGraph.verify = .error (.indexInconsistent ["a", "b", "c", "z"]) := by
    rw [verify_eq, hkeys, if_neg (List.cons_ne_nil _ _)]
  obtain ⟨keys, he, -, -, hmem⟩ := (hfails _).1 hverify
  cases he
  refine ⟨hverify, fun h => ?_, fun key => (hmem key).symm⟩
  rw [hpasses.2 h] at hverify
  cases hverify

end ReferenceAudit.PackageGraph
