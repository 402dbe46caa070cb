import Mathlib.Data.List.Forall2
import ReferenceAudit.Proofs.Holdings
import ReferenceAudit.Proofs.PackageVerdicts

/-!
# Verdicts when more modules are used

Main statement: if the modules used before are still used, the same references get verdicts in the same order, no
verdict ranks lower, and no reference is told that was not told before.
-/
namespace ReferenceAudit

/-- How much speaks for keeping a reference. -/
def Classification.rank : Classification → Nat
  | .removable => 0
  | .removableWithCaveat => 1
  | .used => 2

theorem Classification.isRemovable_of_rank_le {c c' : Classification} (h : c.rank ≤ c'.rank)
    (hc : c'.isRemovable = true) : c.isRemovable = true := by
  cases c' with
  | used => cases hc
  | removable => cases c <;> simp_all [rank, isRemovable]
  | removableWithCaveat => cases c <;> simp_all [rank, isRemovable]

/-- Two verdicts on one reference, the first of which ranks no higher and finds no other modules used. -/
structure Verdict.AtMost (v v' : Verdict) : Prop where
  reference : v.reference = v'.reference
  rank : v.classification.rank ≤ v'.classification.rank
  ownUsed : v.ownUsed.Sublist v'.ownUsed
  transitiveUsed : v.transitiveUsed.Sublist v'.transitiveUsed

theorem Verdict.AtMost.refl (v : Verdict) : v.AtMost v := ⟨rfl, Nat.le_refl _, .refl _, .refl _⟩

namespace Judge

theorem rank_classify_le {own own' transitive transitive' : List String} (ho : own.Sublist own')
    (ht : transitive.Sublist transitive') :
    (classify own transitive).rank ≤ (classify own' transitive').rank := by
  have hown : own' = [] → own = [] := fun he => List.sublist_nil.1 (he ▸ ho)
  have htransitive : transitive' = [] → transitive = [] := fun he => List.sublist_nil.1 (he ▸ ht)
  unfold classify
  split
  · exact Nat.zero_le _
  · rename_i hne
    rw [if_neg (mt htransitive hne)]
    split
    · split <;> decide
    · rename_i hne'
      simp only [if_neg (mt hown hne'), Nat.le_refl]

/-! ## One subject and two sets of keys of used modules -/
section
variable {keys keys' : List String} (h : keys ⊆ keys')
include h

theorem usedAmong_sublist (xs : List String) : (usedAmong keys xs).Sublist (usedAmong keys' xs) := by
  apply List.monotone_filter_right
  intro m hm
  rw [List.contains_iff_mem] at hm ⊢
  exact h hm

theorem verdict?_judgement_atMost (x : Holdings) (r : Reference) :
    Option.Rel Verdict.AtMost ((x.judgement keys).verdict? r) ((x.judgement keys').verdict? r) := by
  unfold Holdings.judgement judgeModules
  split
  · exact .none
  · split
    · exact .none
    · have hown := usedAmong_sublist h x.own
      have htransitive := usedAmong_sublist h x.transitive
      exact .some ⟨rfl, rank_classify_le hown htransitive, hown, htransitive⟩

theorem verdict?_judgeSingle_atMost (j : Judge) (r : Reference) :
    Option.Rel Verdict.AtMost ((j.judgeSingle keys r).verdict? r) ((j.judgeSingle keys' r).verdict? r) := by
  unfold judgeSingle
  split
  · exact .none
  · split
    · by_cases hused : keys.contains (moduleKey r.identity) = true
      · have hused' : keys'.contains (moduleKey r.identity) = true := by
          rw [List.contains_iff_mem] at hused ⊢
          exact h hused
        rw [if_pos hused, if_pos hused']
        exact .some (Verdict.AtMost.refl _)
      · rw [if_neg hused]
        split
        · exact .some ⟨rfl, Nat.zero_le _, List.nil_sublist _, List.nil_sublist _⟩
        · exact .some (Verdict.AtMost.refl _)
    · exact .some (Verdict.AtMost.refl _)

theorem verdictOn?_atMost (j : Judge) (s : Subject) :
    Option.Rel Verdict.AtMost (j.verdictOn? keys s) (j.verdictOn? keys' s) := by
  unfold verdictOn?
  cases s with
  | single r => exact verdict?_judgeSingle_atMost h j r
  | package first others =>
    simp only [judge, judgePackage_eq]
    cases j.holdings? first others with
    | none => exact .some (Verdict.AtMost.refl _)
    | some x => exact verdict?_judgement_atMost h x first

end
end Judge

/-! ## Diagnostics -/

namespace Diagnostic

/-- The diagnostics that are not ignored, each with the reference that it is on. -/
def told (ignore : Ignoring) (vs : List Verdict) : List (Reference × Diagnostic) :=
  vs.filterMap fun v => ((ofVerdict? v).filter fun d => !ignore v.reference d.category).map (v.reference, ·)

theorem map_snd_told (ignore : Ignoring) (vs : List Verdict) :
    (told ignore vs).map Prod.snd = ofVerdicts ignore vs := by
  simp [told, ofVerdicts, List.map_filterMap, Option.map_map, Function.comp_def]

def isTold (ignore : Ignoring) (v : Verdict) : Bool :=
  v.classification.isRemovable && !ignore v.reference (Category.ofKind v.reference.kind)

theorem map_fst_told (ignore : Ignoring) (vs : List Verdict) :
    (told ignore vs).map Prod.fst = (vs.filter (isTold ignore)).map (·.reference) := by
  have hone (v : Verdict) :
      (((ofVerdict? v).filter fun d => !ignore v.reference d.category).map (v.reference, ·)).map Prod.fst =
        if isTold ignore v = true then some v.reference else none := by
    unfold ofVerdict? isTold
    cases v.classification.isRemovable with
    | false => rfl
    | true => cases hi : ignore v.reference (Category.ofKind v.reference.kind) <;> simp [Option.filter, hi]
  rw [told, List.map_filterMap, ← List.filterMap_eq_map, List.filterMap_filter]
  simp only [hone, Function.comp_def]

theorem map_fst_told_sublist {vs vs' : List Verdict} (h : List.Forall₂ Verdict.AtMost vs vs') (ignore : Ignoring) :
    ((told ignore vs').map Prod.fst).Sublist ((told ignore vs).map Prod.fst) := by
  rw [map_fst_told, map_fst_told]
  induction h with
  | nil => exact .refl _
  | @cons v v' vs vs' hv _ ih =>
    by_cases ht' : isTold ignore v' = true
    · have ht : isTold ignore v = true := by
        simp only [isTold, Bool.and_eq_true] at ht' ⊢
        exact ⟨Classification.isRemovable_of_rank_le hv.rank ht'.1, hv.reference ▸ ht'.2⟩
      rw [List.filter_cons_of_pos ht', List.filter_cons_of_pos ht, List.map_cons, List.map_cons, hv.reference]
      exact ih.cons_cons _
    · rw [List.filter_cons_of_neg ht', List.filter_cons]
      split
      · exact ih.cons _
      · exact ih

end Diagnostic

namespace Judge

/-- By whatever packages and contributions there are, more used modules raise verdicts and silence diagnostics. -/
theorem verdicts_atMost_of_more_used (j : Judge) (rs : List Reference) {used used' : List String}
    (h : ∀ u ∈ used, IsUsed used' u) :
    List.Forall₂ Verdict.AtMost (j.verdicts rs used) (j.verdicts rs used') ∧
      ∀ ignore, (∀ vs, (Diagnostic.told ignore vs).map Prod.snd = Diagnostic.ofVerdicts ignore vs) ∧
        ((Diagnostic.told ignore (j.verdicts rs used')).map Prod.fst).Sublist
          ((Diagnostic.told ignore (j.verdicts rs used)).map Prod.fst) := by
  have hkeys : used.map moduleKey ⊆ used'.map moduleKey := by
    intro k hk
    obtain ⟨u, hu, rfl⟩ := List.mem_map.1 hk
    obtain ⟨u', hu', heq⟩ := h u hu
    exact heq ▸ List.mem_map_of_mem hu'
  have hverdicts : List.Forall₂ Verdict.AtMost (j.verdicts rs used) (j.verdicts rs used') :=
    Lists.forall₂_filterMap fun s _ => verdictOn?_atMost hkeys j s
  exact ⟨hverdicts, fun ignore => ⟨Diagnostic.map_snd_told ignore,
    Diagnostic.map_fst_told_sublist hverdicts ignore⟩⟩

/-- A package that is needed for another one only, until its own module is used too. -/
theorem chain_atMost_of_own_used :
    (∀ u ∈ ["/p/B.dll"], IsUsed ["/P/a.dll", "/p/b.dll"] u) ∧
      (chain.verdicts [⟨"", .package, "a"⟩] ["/p/B.dll"]).map (·.classification) = [.removableWithCaveat] ∧
      (chain.verdicts [⟨"", .package, "a"⟩] ["/P/a.dll", "/p/b.dll"]).map (·.classification) = [.used] ∧
      List.Forall₂ Verdict.AtMost (chain.verdicts [⟨"", .package, "a"⟩] ["/p/B.dll"])
        (chain.verdicts [⟨"", .package, "a"⟩] ["/P/a.dll", "/p/b.dll"]) := by
  have h : ∀ u ∈ ["/p/B.dll"], IsUsed ["/P/a.dll", "/p/b.dll"] u := by
    simp only [IsUsed]
    decide +kernel
  exact ⟨h, by decide +kernel, by decide +kernel, (verdicts_atMost_of_more_used chain _ h).1⟩

end Judge
end ReferenceAudit
