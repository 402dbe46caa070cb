import Mathlib.Data.List.Basic
import ReferenceAudit.Judgement

/-!
# Verdicts on the records of one package

All records with one package key make one subject, which stands at the first of them; so there is at most one
verdict with that key, and it hangs on these records alone.
-/
namespace ReferenceAudit
namespace Subject

def ofRecords : List Reference → List Subject
  | [] => []
  | r :: rs => [.package r rs]

theorem filter_collect_of_mem {seen : List String} {key : String} (h : key ∈ seen) (rs : List Reference) :
    (collect seen rs).filter (fun s => refersTo key s.first) = [] := by
  induction rs generalizing seen with
  | nil => rfl
  | cons r rs ih =>
    rw [collect]
    by_cases hp : r.kind = .package
    · rw [if_pos hp]
      by_cases hs : packageKey r.label ∈ seen
      · rw [if_pos hs]
        exact ih h
      · have hk : packageKey r.label ≠ key := fun he => hs (he ▸ h)
        rw [if_neg hs, List.filter_cons_of_neg (by simp [refersTo, first, hk])]
        exact ih (List.mem_cons_of_mem _ h)
    · rw [if_neg hp, List.filter_cons_of_neg (by simp [refersTo, first, hp])]
      exact ih h

theorem filter_collect {seen : List String} {key : String} (h : key ∉ seen) (rs : List Reference) :
    (collect seen rs).filter (fun s => refersTo key s.first) = ofRecords (rs.filter (refersTo key)) := by
  induction rs generalizing seen with
  | nil => rfl
  | cons r rs ih =>
    rw [collect]
    by_cases hp : r.kind = .package
    · rw [if_pos hp]
      by_cases hk : packageKey r.label = key
      · have hr : refersTo key r = true := by simp [refersTo, hp, hk]
        rw [if_neg (hk ▸ h), List.filter_cons_of_pos (by exact hr), List.filter_cons_of_pos hr, hk,
          filter_collect_of_mem List.mem_cons_self, ofRecords]
      · have hr : ¬refersTo key r = true := by simp [refersTo, hk]
        rw [List.filter_cons_of_neg hr]
        by_cases hs : packageKey r.label ∈ seen
        · rw [if_pos hs]
          exact ih h
        · rw [if_neg hs, List.filter_cons_of_neg (by exact hr)]
          exact ih fun hm => (List.mem_cons.1 hm).elim (Ne.symm hk) h
    · have hr : ¬refersTo key r = true := by simp [refersTo, hp]
      rw [if_neg hp, List.filter_cons_of_neg (by exact hr), List.filter_cons_of_neg hr]
      exact ih h

theorem filter_ofReferences (key : String) (rs : List Reference) :
    (ofReferences rs).filter (fun s => refersTo key s.first) = ofRecords (rs.filter (refersTo key)) :=
  filter_collect List.not_mem_nil rs

theorem refersTo_iff {key : String} {r : Reference} :
    refersTo key r = true ↔ r.kind = .package ∧ packageKey r.label = key := by
  simp [refersTo]

theorem mem_ofRecords_iff {rs : List Reference} {s : Subject} :
    s ∈ ofRecords rs ↔ ∃ first others, rs = first :: others ∧ s = .package first others := by
  cases rs with
  | nil => simp [ofRecords]
  | cons r rs =>
    constructor
    · exact fun hs => ⟨r, rs, rfl, List.mem_singleton.1 hs⟩
    · rintro ⟨first, others, he, rfl⟩
      cases he
      exact List.mem_singleton_self _

theorem kind_of_mem_collect {seen : List String} {rs : List Reference} {s : Subject} (h : s ∈ collect seen rs) :
    (∃ r ∈ rs, r.kind ≠ .package ∧ s = .single r) ∨ s.first.kind = .package := by
  induction rs generalizing seen with
  | nil => cases h
  | cons r rs ih =>
    have hrest {seen : List String} (h : s ∈ collect seen rs) :
        (∃ q ∈ r :: rs, q.kind ≠ .package ∧ s = .single q) ∨ s.first.kind = .package :=
      (ih h).imp_left fun ⟨q, hq, hs⟩ => ⟨q, List.mem_cons_of_mem _ hq, hs⟩
    rw [collect] at h
    by_cases hp : r.kind = .package
    · rw [if_pos hp] at h
      dsimp only at h
      split at h
      · exact hrest h
      · rcases List.mem_cons.1 h with rfl | h
        · exact Or.inr hp
        · exact hrest h
    · rw [if_neg hp] at h
      rcases List.mem_cons.1 h with rfl | h
      · exact Or.inl ⟨r, List.mem_cons_self, hp, rfl⟩
      · exact hrest h

theorem single_or_package_of_mem {rs : List Reference} {s : Subject} (h : s ∈ ofReferences rs) :
    (∃ r ∈ rs, r.kind ≠ .package ∧ s = .single r) ∨
      ∃ first others, rs.filter (refersTo (packageKey first.label)) = first :: others ∧ first.kind = .package ∧
        s = .package first others := by
  rcases kind_of_mem_collect h with hsingle | hp
  · exact Or.inl hsingle
  · have hmem : s ∈ (ofReferences rs).filter fun s' => refersTo (packageKey s.first.label) s'.first :=
      List.mem_filter.2 ⟨h, refersTo_iff.2 ⟨hp, rfl⟩⟩
    rw [filter_ofReferences] at hmem
    obtain ⟨first, others, hrs, rfl⟩ := mem_ofRecords_iff.1 hmem
    exact Or.inr ⟨first, others, hrs, hp, rfl⟩

theorem collect_congr {seen seen' : List String} {rs : List Reference}
    (h : ∀ r ∈ rs, r.kind = .package → (packageKey r.label ∈ seen ↔ packageKey r.label ∈ seen')) :
    collect seen rs = collect seen' rs := by
  induction rs generalizing seen seen' with
  | nil => rfl
  | cons r rs ih =>
    have hrest : ∀ q ∈ rs, q.kind = .package → (packageKey q.label ∈ seen ↔ packageKey q.label ∈ seen') :=
      fun q hq => h q (List.mem_cons_of_mem _ hq)
    rw [collect, collect]
    by_cases hp : r.kind = .package
    · have hr := h r List.mem_cons_self hp
      have hnext : collect (packageKey r.label :: seen) rs = collect (packageKey r.label :: seen') rs := by
        apply ih
        intro q hq hqp
        rw [List.mem_cons, List.mem_cons, hrest q hq hqp]
      simp only [if_pos hp, hr, hnext, ih hrest]
    · rw [if_neg hp, if_neg hp, ih hrest]

/-- A choice of references that leaves the references to one package together. -/
def KeepsTogether (keep : Reference → Bool) : Prop :=
  ∀ r r', r.kind = .package → r'.kind = .package → packageKey r.label = packageKey r'.label → keep r = keep r'

theorem KeepsTogether.filter_refersTo {keep : Reference → Bool} (hkeep : KeepsTogether keep) {r : Reference}
    (hp : r.kind = .package) (hk : keep r = true) (rs : List Reference) :
    (rs.filter keep).filter (refersTo (packageKey r.label)) = rs.filter (refersTo (packageKey r.label)) := by
  rw [List.filter_filter]
  refine List.filter_congr fun q _ => ?_
  cases hq : refersTo (packageKey r.label) q with
  | false => rfl
  | true =>
    obtain ⟨hqp, hqk⟩ := refersTo_iff.1 hq
    rw [Bool.true_and, hkeep q r hqp hp hqk, hk]

theorem collect_filter {keep : Reference → Bool} (hkeep : KeepsTogether keep) (seen : List String)
    (rs : List Reference) : collect seen (rs.filter keep) = (collect seen rs).filter fun s => keep s.first := by
  induction rs generalizing seen with
  | nil => rfl
  | cons r rs ih =>
    rw [collect]
    by_cases hp : r.kind = .package
    · rw [if_pos hp]
      by_cases hk : keep r = true
      · rw [List.filter_cons_of_pos hk, collect, if_pos hp]
        dsimp only
        split
        · exact ih seen
        · rw [hkeep.filter_refersTo hp hk, List.filter_cons_of_pos (by exact hk), ih]
      · rw [List.filter_cons_of_neg hk]
        dsimp only
        split
        · exact ih seen
        · rw [List.filter_cons_of_neg (by exact hk), ← ih]
          apply collect_congr
          intro q hq hqp
          have hne : packageKey q.label ≠ packageKey r.label := fun he =>
            hk (hkeep q r hqp hp he ▸ (List.mem_filter.1 hq).2)
          simp [hne]
    · rw [if_neg hp]
      by_cases hk : keep r = true
      · rw [List.filter_cons_of_pos hk, collect, if_neg hp, List.filter_cons_of_pos (by exact hk), ih]
      · rw [List.filter_cons_of_neg hk, List.filter_cons_of_neg (by exact hk), ih]

theorem ofReferences_filter {keep : Reference → Bool} (hkeep : KeepsTogether keep) (rs : List Reference) :
    ofReferences (rs.filter keep) = (ofReferences rs).filter fun s => keep s.first :=
  collect_filter hkeep [] rs

theorem map_packageKey_collect {rs : List Reference} (hp : ∀ r ∈ rs, r.kind = .package) (seen : List String) :
    (collect seen rs).map (fun s => packageKey s.first.label) =
      ((rs.map fun r => packageKey r.label).filter fun key => key ∉ seen).eraseDups := by
  induction rs generalizing seen with
  | nil => rfl
  | cons r rs ih =>
    have hrest := ih fun q hq => hp q (List.mem_cons_of_mem _ hq)
    rw [collect, if_pos (hp r List.mem_cons_self), List.map_cons]
    by_cases hs : packageKey r.label ∈ seen
    · simp only [if_pos hs, hrest]
      rw [List.filter_cons_of_neg (by simpa using hs)]
    · have hunseen (key : String) : decide (key ∉ packageKey r.label :: seen) =
          (!key == packageKey r.label && decide (key ∉ seen)) := by
        rw [Bool.eq_iff_iff]
        simp
      simp only [if_neg hs, List.map_cons, hrest, hunseen]
      rw [List.filter_cons_of_pos (by simpa using hs), List.eraseDups_cons, List.filter_filter]
      rfl

theorem map_packageKey_ofReferences {rs : List Reference} (hp : ∀ r ∈ rs, r.kind = .package) :
    (ofReferences rs).map (fun s => packageKey s.first.label) = (rs.map fun r => packageKey r.label).eraseDups := by
  rw [ofReferences, map_packageKey_collect hp, List.filter_eq_self.2 (by simp)]

end Subject

theorem Judgement.reference_of_verdict? {r : Reference} {x : Judgement} {v : Verdict} (h : x.verdict? r = some v) :
    v.reference = r := by
  cases x <;> cases h <;> rfl

namespace Judge

theorem reference_of_verdictOn? {j : Judge} {used : List String} {s : Subject} {v : Verdict}
    (h : j.verdictOn? used s = some v) : v.reference = s.first :=
  Judgement.reference_of_verdict? h

theorem filter_verdicts (j : Judge) (rs : List Reference) (used : List String) (key : String) :
    (j.verdicts rs used).filter (fun v => Subject.refersTo key v.reference) =
      (Subject.ofRecords (rs.filter (Subject.refersTo key))).filterMap (j.verdictOn? (used.map moduleKey)) := by
  rw [verdicts, List.filter_filterMap, ← Subject.filter_ofReferences, List.filterMap_filter]
  congr 1
  funext s
  cases hv : j.verdictOn? (used.map moduleKey) s with
  | none => simp
  | some v => simp [Option.filter, reference_of_verdictOn? hv]

theorem verdicts_filter {keep : Reference → Bool} (hkeep : Subject.KeepsTogether keep) (j : Judge)
    (rs : List Reference)
    (used : List String) : j.verdicts (rs.filter keep) used = (j.verdicts rs used).filter fun v =>
      keep v.reference := by
  rw [verdicts, Subject.ofReferences_filter hkeep, List.filterMap_filter, verdicts, List.filter_filterMap]
  congr 1
  funext s
  cases hv : j.verdictOn? (used.map moduleKey) s with
  | none => simp
  | some v => simp [Option.filter, reference_of_verdictOn? hv]

theorem map_reference_verdicts_eq (j : Judge) (rs : List Reference) (used : List String) :
    (j.verdicts rs used).map (·.reference) =
      ((Subject.ofReferences rs).filter fun s =>
        (j.verdictOn? (used.map moduleKey) s).isSome).map Subject.first := by
  rw [verdicts, List.map_filterMap, ← List.filterMap_eq_map (f := Subject.first), List.filterMap_filter]
  refine List.filterMap_congr fun s _ => ?_
  cases hv : j.verdictOn? (used.map moduleKey) s with
  | none => simp
  | some v => simp [reference_of_verdictOn? hv]

theorem map_reference_verdicts {j : Judge} {rs : List Reference} {used : List String}
    (h : ∀ s ∈ Subject.ofReferences rs, ∃ v, j.verdictOn? (used.map moduleKey) s = some v) :
    (j.verdicts rs used).map (·.reference) = (Subject.ofReferences rs).map Subject.first := by
  rw [map_reference_verdicts_eq, List.filter_eq_self.2]
  intro s hs
  obtain ⟨v, hv⟩ := h s hs
  simp [hv]

end Judge
end ReferenceAudit
