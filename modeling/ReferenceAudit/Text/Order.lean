/-! # Sorted texts -/
namespace ReferenceAudit.Text

def sorted (xs : List String) : List String := xs.mergeSort fun a b => decide (a ≤ b)

def sortedSet (xs : List String) : List String := sorted xs.eraseDups

@[simp] theorem mem_sorted {x : String} {xs : List String} : x ∈ sorted xs ↔ x ∈ xs :=
  (List.mergeSort_perm xs _).mem_iff

@[simp] theorem mem_sortedSet {x : String} {xs : List String} : x ∈ sortedSet xs ↔ x ∈ xs := by
  simp [sortedSet, List.mem_eraseDups]

end ReferenceAudit.Text
