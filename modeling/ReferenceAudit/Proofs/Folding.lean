import Mathlib.Data.List.Basic
import Mathlib.Data.Nat.Bitwise
import ReferenceAudit.Reference

/-!
# Folded texts are their own folded form

No character that folding gives is folded any further. The tables are compared as sets of numbers: what they
send away, and what they send it to.
-/
namespace ReferenceAudit.Text
open CaseTables

def bits : List Nat → Nat
  | [] => 0
  | n :: ns => 2 ^ n ||| bits ns

theorem testBit_bits {n : Nat} {ns : List Nat} (h : n ∈ ns) : (bits ns).testBit n = true := by
  induction ns with
  | nil => cases h
  | cons k ns ih =>
    rw [bits, Nat.testBit_lor, Nat.testBit_two_pow]
    rcases List.mem_cons.1 h with rfl | h
    · simp
    · simp [ih h]

theorem not_mem_of_land_bits {ms ns : List Nat} (h : bits ms &&& bits ns = 0) {n : Nat} (hm : n ∈ ms) : n ∉ ns := by
  intro hn
  have hbit := congrArg (Nat.testBit · n) h
  simp [testBit_bits hm, testBit_bits hn] at hbit

def Run.offsets : Run → List Nat
  | (first, last, step, _) => (List.range (last - first + 1)).filter fun i => i % step == 0

/-- The numbers of the characters that a mapping sends away. -/
def sources (runs : List Run) (expansions : List Expansion) : List Nat :=
  runs.flatMap (fun r => (Run.offsets r).map (r.1 + ·)) ++ expansions.map Prod.fst

def images (runs : List Run) (expansions : List Expansion) : List Nat :=
  runs.flatMap (fun r => (Run.offsets r).map (r.2.2.2 + ·)) ++ expansions.flatMap Prod.snd

variable {runs : List Run} {expansions : List Expansion}

theorem Run.image?_eq_some {r : Run} {c n : Nat} (h : Run.image? c r = some n) :
    ∃ i ∈ Run.offsets r, c = r.1 + i ∧ n = r.2.2.2 + i := by
  obtain ⟨first, last, step, target⟩ := r
  simp only [Run.image?] at h
  split at h
  · rename_i hc
    refine ⟨c - first, ?_, by omega, (Option.some.inj h).symm⟩
    simp only [Run.offsets, List.mem_filter, List.mem_range, beq_iff_eq]
    exact ⟨by omega, hc.2.2⟩
  · cases h

theorem mapped_of_not_mem {c : Char} (h : c.toNat ∉ sources runs expansions) : mapped runs expansions c = [c] := by
  simp only [sources, List.mem_append, not_or] at h
  have hl : expansions.lookup c.toNat = none := by
    rw [List.lookup_eq_none_iff]
    intro e he
    have hne : e.1 ≠ c.toNat := fun heq => h.2 (List.mem_map.2 ⟨e, he, heq⟩)
    simpa using hne.symm
  have hr : runs.findSome? (Run.image? c.toNat) = none := by
    rw [List.findSome?_eq_none_iff]
    intro r hr
    cases hi : Run.image? c.toNat r with
    | none => rfl
    | some n =>
      obtain ⟨i, hi, hc, -⟩ := Run.image?_eq_some hi
      exact absurd (List.mem_flatMap.2 ⟨r, hr, List.mem_map.2 ⟨i, hi, hc.symm⟩⟩) h.1
  simp [mapped, hl, hr]

/-- What a mapping changes, by the numbers of the characters. -/
def changes (runs : List Run) (expansions : List Expansion) : List (Nat × List Nat) :=
  runs.flatMap (fun r => (Run.offsets r).map fun i => (r.1 + i, [r.2.2.2 + i])) ++ expansions

theorem mapped_cases (runs : List Run) (expansions : List Expansion) (c : Char) :
    mapped runs expansions c = [c] ∨
      ∃ image, (c.toNat, image) ∈ changes runs expansions ∧ mapped runs expansions c = image.map Char.ofNat := by
  rw [mapped]
  cases hl : expansions.lookup c.toNat with
  | some image =>
    obtain ⟨before, after, rfl, -⟩ := List.lookup_eq_some_iff.1 hl
    exact Or.inr ⟨image, List.mem_append_right _ (by simp), rfl⟩
  | none =>
    cases hf : runs.findSome? (Run.image? c.toNat) with
    | some n =>
      obtain ⟨r, hr, hi⟩ := List.exists_of_findSome?_eq_some hf
      obtain ⟨i, hi, hc, hn⟩ := Run.image?_eq_some hi
      refine Or.inr ⟨[n], List.mem_append_left _ (List.mem_flatMap.2 ⟨r, hr, List.mem_map.2 ⟨i, hi, ?_⟩⟩), rfl⟩
      rw [hc, hn]
    | none => exact Or.inl rfl

theorem mem_images_of_mem_changes {c n : Nat} {image : List Nat} (h : (c, image) ∈ changes runs expansions)
    (hn : n ∈ image) : n ∈ images runs expansions := by
  rcases List.mem_append.1 h with hrun | hexpansion
  · obtain ⟨r, hr, hpair⟩ := List.mem_flatMap.1 hrun
    obtain ⟨i, hi, hpair⟩ := List.mem_map.1 hpair
    cases hpair
    exact List.mem_append_left _ (List.mem_flatMap.2
      ⟨r, hr, List.mem_map.2 ⟨i, hi, (List.mem_singleton.1 hn).symm⟩⟩)
  · exact List.mem_append_right _ (List.mem_flatMap.2 ⟨(c, image), hexpansion, hn⟩)

theorem mem_mapped {c d : Char} (h : d ∈ mapped runs expansions c) :
    (mapped runs expansions c = [c] ∧ d = c) ∨ ∃ n ∈ images runs expansions, d = Char.ofNat n := by
  rcases mapped_cases runs expansions c with hkept | ⟨image, hchange, hmapped⟩
  · rw [hkept] at h
    exact Or.inl ⟨hkept, List.mem_singleton.1 h⟩
  · rw [hmapped] at h
    obtain ⟨n, hn, rfl⟩ := List.mem_map.1 h
    exact Or.inr ⟨n, mem_images_of_mem_changes hchange hn, rfl⟩

theorem foldTables_apart :
    bits (images foldRuns foldExpansions) &&& bits (sources foldRuns foldExpansions) = 0 ∧
      ∀ n ∈ images foldRuns foldExpansions, n.isValidChar := by
  decide +kernel

theorem toNat_ofNat_of_mem_images {n : Nat} (h : n ∈ images foldRuns foldExpansions) :
    (Char.ofNat n).toNat = n := by
  rw [Char.ofNat, dif_pos (foldTables_apart.2 n h)]
  rfl

theorem foldChar_of_mem {c d : Char} (h : d ∈ foldChar c) : foldChar d = [d] := by
  rcases mem_mapped h with ⟨hc, rfl⟩ | ⟨n, hn, rfl⟩
  · exact hc
  · apply mapped_of_not_mem
    rw [toNat_ofNat_of_mem_images hn]
    exact not_mem_of_land_bits foldTables_apart.1 hn

theorem eq_of_mem_foldChar {c d : Char} (h : d ∈ foldChar c) (hd : d.toNat ∉ images foldRuns foldExpansions) :
    c = d := by
  rcases mem_mapped h with ⟨-, rfl⟩ | ⟨n, hn, rfl⟩
  · rfl
  · rw [toNat_ofNat_of_mem_images hn] at hd
    exact absurd hn hd

@[simp] theorem fold_fold (s : String) : fold (fold s) = fold s := by
  apply String.toList_injective
  rw [toList_fold, toList_fold, List.flatMap_assoc]
  congr 1
  funext c
  have hkeep : (foldChar c).flatMap foldChar = (foldChar c).flatMap fun d => [d] :=
    List.flatMap_congr fun d hd => foldChar_of_mem hd
  rw [hkeep, List.flatMap_singleton']

theorem foldExpansions_ne_nil : ∀ e ∈ foldExpansions, e.2 ≠ [] := by
  decide +kernel

theorem foldChar_ne_nil (c : Char) : foldChar c ≠ [] := by
  rw [foldChar, mapped]
  split
  · rename_i image hlookup
    obtain ⟨_, _, hentries, -⟩ := List.lookup_eq_some_iff.1 hlookup
    have hmem : (c.toNat, image) ∈ foldExpansions := by simp [hentries]
    simpa using foldExpansions_ne_nil _ hmem
  · split <;> simp

theorem fold_eq_empty_iff {s : String} : fold s = "" ↔ s = "" := by
  rw [← String.toList_eq_nil_iff, ← String.toList_eq_nil_iff, toList_fold, List.flatMap_eq_nil_iff]
  constructor
  · intro h
    rw [List.eq_nil_iff_forall_not_mem]
    exact fun c hc => foldChar_ne_nil c (h c hc)
  · intro h
    simp [h]

theorem star_not_mem_images : '*'.toNat ∉ images foldRuns foldExpansions := by
  decide +kernel

theorem eq_star_of_foldChar_eq_star {c : Char} (h : foldChar c = ['*']) : c = '*' :=
  eq_of_mem_foldChar (h ▸ List.mem_singleton_self _) star_not_mem_images

theorem fold_eq_star_iff {s : String} : fold s = "*" ↔ s = "*" := by
  constructor
  · intro h
    have hchars : s.toList.flatMap foldChar = ['*'] := by
      rw [← toList_fold, h]
      rfl
    cases hs : s.toList with
    | nil =>
      rw [hs] at hchars
      cases hchars
    | cons c cs =>
      rw [hs, List.flatMap_cons] at hchars
      obtain ⟨hc, hcs⟩ : foldChar c = ['*'] ∧ cs.flatMap foldChar = [] := by
        rcases List.append_eq_singleton_iff.1 hchars with ⟨hnil, -⟩ | hboth
        · exact absurd hnil (foldChar_ne_nil c)
        · exact hboth
      have hnil : cs = [] := by
        rw [List.eq_nil_iff_forall_not_mem]
        exact fun c' hc' => foldChar_ne_nil c' (List.flatMap_eq_nil_iff.1 hcs c' hc')
      apply String.toList_injective
      rw [hs, hnil, eq_star_of_foldChar_eq_star hc]
      rfl
  · rintro rfl
    decide +kernel

end ReferenceAudit.Text

namespace ReferenceAudit

@[simp] theorem packageKey_packageKey (id : String) :
    packageKey (packageKey id) = packageKey id := Text.fold_fold id

end ReferenceAudit
