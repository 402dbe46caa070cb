import ReferenceAudit.Proofs.Subjects

/-!
# Verdicts depend on what is judged together

One pass over the references makes their subjects, and each subject stands where its first reference does. Main
statement: the verdicts are those on the references that lead, in their order, and each is the verdict on the
references judged with it alone, so that another order of the others moves verdicts and changes none.
-/
namespace ReferenceAudit

namespace Subject
variable {rs rs' xs ys before : List Reference} {r : Reference} {s : Subject} {key : String}

/-- Whether a reference makes a subject after those before it: none of them is to the same package. -/
def leads (before : List Reference) (r : Reference) : Bool :=
  !(r.kind == .package && before.any (refersTo (packageKey r.label)))

/-- The references that make a subject where they stand: of those to one package, the first. -/
def leaders (rs : List Reference) : List Reference :=
  (rs.zipIdx.filter fun x => leads (rs.take x.2) x.1).map Prod.fst

/-- The references that are judged together with one of them. -/
def judgedWith (rs : List Reference) (r : Reference) : List Reference :=
  if r.kind = .package then rs.filter (refersTo (packageKey r.label)) else [r]

/-- The same references in another order, but for those to one package among each other. -/
structure Reordered (rs rs' : List Reference) : Prop where
  perm : rs.Perm rs'
  packages : ∀ key, rs.filter (refersTo key) = rs'.filter (refersTo key)

/-- No package has references in both lists. -/
def Apart (xs ys : List Reference) : Prop :=
  ∀ x ∈ xs, ∀ y ∈ ys, x.kind = .package → y.kind = .package → packageKey x.label ≠ packageKey y.label

/-! ## The references that lead -/

/-- The references that make a subject after others. -/
def leadersAfter (before rs : List Reference) : List Reference :=
  ((rs.zipIdx before.length).filter fun x => leads ((before ++ rs).take x.2) x.1).map Prod.fst

theorem leadersAfter_cons (before : List Reference) (r : Reference) (rs : List Reference) :
    leadersAfter before (r :: rs) =
      if leads before r then r :: leadersAfter (before ++ [r]) rs else leadersAfter (before ++ [r]) rs := by
  have hbefore : (before ++ r :: rs).take before.length = before := List.take_left
  have hall : before ++ r :: rs = (before ++ [r]) ++ rs := by simp
  have hlength : before.length + 1 = (before ++ [r]).length := by simp
  rw [leadersAfter, leadersAfter, List.zipIdx_cons, List.filter_cons, hbefore, hall, hlength]
  split <;> rfl

theorem any_refersTo_concat : (before ++ [r]).any (refersTo key) = true ↔
    before.any (refersTo key) = true ∨ (r.kind = .package ∧ packageKey r.label = key) := by
  simp [refersTo_iff]

theorem map_first_collect (seen : List String) (before : List Reference)
    (h : ∀ key, key ∈ seen ↔ before.any (refersTo key) = true) (rs : List Reference) :
    (collect seen rs).map first = leadersAfter before rs := by
  induction rs generalizing seen before with
  | nil => rfl
  | cons r rs ih =>
    rw [collect, leadersAfter_cons]
    by_cases hp : r.kind = .package
    · by_cases hs : packageKey r.label ∈ seen
      · have hleads : leads before r = false := by simpa [leads, hp] using (h _).1 hs
        have hrest : (collect seen rs).map first = leadersAfter (before ++ [r]) rs := by
          apply ih
          intro key
          rw [any_refersTo_concat, ← h key]
          exact ⟨Or.inl, fun hkey => hkey.elim id fun hr => hr.2 ▸ hs⟩
        simp [hp, hs, hleads, hrest]
      · have hleads : leads before r = true := by simpa [leads, hp] using fun hany => hs ((h _).2 hany)
        have hrest : (collect (packageKey r.label :: seen) rs).map first = leadersAfter (before ++ [r]) rs := by
          apply ih
          intro key
          rw [any_refersTo_concat, ← h key, List.mem_cons, or_comm, eq_comm]
          simp [hp]
        simp [hp, hs, hleads, hrest, first]
    · have hleads : leads before r = true := by simp [leads, hp]
      have hrest : (collect seen rs).map first = leadersAfter (before ++ [r]) rs := by
        apply ih
        intro key
        rw [any_refersTo_concat, ← h key]
        simp [hp]
      simp [hp, hleads, hrest, first]

theorem map_first_ofReferences (rs : List Reference) : (ofReferences rs).map first = leaders rs :=
  map_first_collect [] [] (by simp) rs

theorem leaders_sublist (rs : List Reference) : (leaders rs).Sublist rs := by
  have hsub := (List.filter_sublist (p := fun x => leads (rs.take x.2) x.1) (l := rs.zipIdx)).map Prod.fst
  rwa [List.zipIdx_map_fst] at hsub

theorem leaders_filter {keep : Reference → Bool} (hkeep : KeepsTogether keep) (rs : List Reference) :
    leaders (rs.filter keep) = (leaders rs).filter keep := by
  rw [← map_first_ofReferences, ← map_first_ofReferences, ofReferences_filter hkeep, List.filter_map]
  rfl

theorem keepsTogether_refersTo (key : String) : KeepsTogether (refersTo key) := by
  intro r r' hr hr' hkey
  simp [refersTo, hr, hr', hkey]

/-- Whether a reference is judged by itself. -/
def isAlone (r : Reference) : Bool := r.kind != .package

theorem keepsTogether_isAlone : KeepsTogether isAlone := by
  intro r r' hr hr' _
  simp [isAlone, hr, hr']

theorem leaders_eq_self (h : ∀ r ∈ rs, r.kind ≠ .package) : leaders rs = rs := by
  have hall : rs.zipIdx.filter (fun x => leads (rs.take x.2) x.1) = rs.zipIdx := by
    rw [List.filter_eq_self]
    intro x hx
    simp [leads, h x.1 (List.fst_mem_of_mem_zipIdx hx)]
  rw [leaders, hall, List.zipIdx_map_fst]

/-- In another order the same references lead, as long as each package has its references in their order. -/
theorem Reordered.leaders_perm (h : Reordered rs rs') : (leaders rs).Perm (leaders rs') := by
  rw [List.perm_iff_count]
  intro r
  by_cases hp : r.kind = .package
  · -- count only among the references to the package of `r`, which have not moved among each other
    have hr : refersTo (packageKey r.label) r = true := refersTo_iff.2 ⟨hp, rfl⟩
    have hfellows (rs : List Reference) :
        (leaders rs).count r = (leaders (rs.filter (refersTo (packageKey r.label)))).count r := by
      rw [leaders_filter (keepsTogether_refersTo _), List.count_filter hr]
    rw [hfellows, hfellows rs', h.packages]
  · have hr : isAlone r = true := by simpa [isAlone] using hp
    have hothers (rs : List Reference) : (leaders rs).count r = rs.count r := by
      have halone : ∀ q ∈ rs.filter isAlone, q.kind ≠ .package := by simp [isAlone]
      rw [← List.count_filter hr, ← leaders_filter keepsTogether_isAlone, leaders_eq_self halone,
        List.count_filter hr]
    rw [hothers, hothers, h.perm.count_eq]

/-! ## The subject of one of them -/

theorem records_of_mem (h : s ∈ ofReferences rs) : s.records = judgedWith rs s.first := by
  rcases single_or_package_of_mem h with ⟨r, -, hr, rfl⟩ | ⟨r, others, hrs, hr, rfl⟩
  · simp [judgedWith, first, records, hr]
  · simp [judgedWith, first, records, hr, hrs]

theorem ofReferences_judgedWith (h : s ∈ ofReferences rs) : ofReferences (judgedWith rs s.first) = [s] := by
  rcases single_or_package_of_mem h with ⟨r, -, hr, rfl⟩ | ⟨r, others, hrs, hr, rfl⟩
  · simp [judgedWith, first, hr, ofReferences, collect]
  · rw [judgedWith, first, if_pos hr, ofReferences_filter (keepsTogether_refersTo _), filter_ofReferences, hrs,
      ofRecords]

theorem Reordered.judgedWith_eq (h : Reordered rs rs') (r : Reference) : judgedWith rs' r = judgedWith rs r := by
  rw [judgedWith, judgedWith, h.packages]

theorem collect_append (h : Apart xs ys) (seen : List String) :
    collect seen (xs ++ ys) = collect seen xs ++ collect seen ys := by
  induction xs generalizing seen with
  | nil => rfl
  | cons x xs ih =>
    have hrest := ih fun q hq => h q (List.mem_cons_of_mem _ hq)
    rw [List.cons_append, collect, collect]
    by_cases hp : x.kind = .package
    · have hnone : ys.filter (refersTo (packageKey x.label)) = [] := by
        rw [List.filter_eq_nil_iff]
        intro y hy hkey
        obtain ⟨hyp, hyk⟩ := refersTo_iff.1 hkey
        exact h x List.mem_cons_self y hy hp hyp hyk.symm
      have hys : collect (packageKey x.label :: seen) ys = collect seen ys := by
        apply collect_congr
        intro y hy hyp
        have hne := h x List.mem_cons_self y hy hp hyp
        simp [hne.symm]
      simp only [if_pos hp, List.filter_append, hnone, List.append_nil, hrest, hys]
      split <;> rfl
    · rw [if_neg hp, if_neg hp, hrest, List.cons_append]

end Subject

namespace Judge
open Subject
variable {rs : List Reference} {s : Subject}

theorem verdicts_judgedWith (j : Judge) (used : List String) (h : s ∈ ofReferences rs) :
    j.verdicts (judgedWith rs s.first) used = (j.verdictOn? (used.map moduleKey) s).toList := by
  rw [verdicts, ofReferences_judgedWith h]
  cases hv : j.verdictOn? (used.map moduleKey) s <;> simp [hv]

theorem verdicts_eq_flatMap (j : Judge) (rs : List Reference) (used : List String) :
    j.verdicts rs used = (leaders rs).flatMap fun r => j.verdicts (judgedWith rs r) used := by
  rw [verdicts, List.filterMap_eq_flatMap_toList, ← map_first_ofReferences, List.flatMap_map]
  exact List.flatMap_congr fun s hs => (verdicts_judgedWith j used hs).symm

theorem map_reference_verdicts_sublist (j : Judge) (rs : List Reference) (used : List String) :
    ((j.verdicts rs used).map (·.reference)).Sublist (leaders rs) := by
  rw [map_reference_verdicts_eq, ← map_first_ofReferences]
  exact List.filter_sublist.map first

theorem verdicts_append {xs ys : List Reference} (j : Judge) (used : List String) (h : Apart xs ys) :
    j.verdicts (xs ++ ys) used = j.verdicts xs used ++ j.verdicts ys used := by
  rw [verdicts, ofReferences, collect_append h, List.filterMap_append]
  rfl

/-- **Verdicts are local and in order.** They are on references that lead, in the order of these: of the
references to one package on none but the first. Each is the verdict on the references judged with its own
alone, which make one subject and get at most one verdict. So in another order, which leaves the references to
each package in theirs, the same verdicts stand where their references lead now; and lists without a common
package are judged one after the other. -/
theorem verdicts_local_ordered (j : Judge) (used : List String) (rs : List Reference) :
    ((j.verdicts rs used).map (·.reference)).Sublist (leaders rs) ∧ (leaders rs).Sublist rs ∧
    (j.verdicts rs used = (leaders rs).flatMap fun r => j.verdicts (judgedWith rs r) used) ∧
    (∀ r ∈ leaders rs, ∃ s : Subject, s.records = judgedWith rs r ∧
      j.verdicts (judgedWith rs r) used = (j.verdictOn? (used.map moduleKey) s).toList ∧
      ∀ v ∈ j.verdicts (judgedWith rs r) used, v.reference = r) ∧
    (∀ rs', Reordered rs rs' →
      (j.verdicts rs' used = (leaders rs').flatMap fun r => j.verdicts (judgedWith rs r) used) ∧
        (j.verdicts rs' used).Perm (j.verdicts rs used)) ∧
    ∀ ys, Apart rs ys → j.verdicts (rs ++ ys) used = j.verdicts rs used ++ j.verdicts ys used := by
  refine ⟨map_reference_verdicts_sublist j rs used, leaders_sublist rs, verdicts_eq_flatMap j rs used,
    fun r hr => ?_,
    fun rs' h => ?_, fun ys => verdicts_append j used⟩
  · rw [← map_first_ofReferences] at hr
    obtain ⟨s, hs, rfl⟩ := List.mem_map.1 hr
    rw [verdicts_judgedWith j used hs]
    exact ⟨s, records_of_mem hs, rfl, fun v hv => reference_of_verdictOn? (Option.mem_toList.1 hv)⟩
  · have hmoved : j.verdicts rs' used = (leaders rs').flatMap fun r => j.verdicts (judgedWith rs r) used := by
      rw [verdicts_eq_flatMap]
      simp only [h.judgedWith_eq]
    refine ⟨hmoved, ?_⟩
    rw [hmoved, verdicts_eq_flatMap j rs]
    exact h.leaders_perm.symm.flatMap_right _

def scattered : List Reference := [⟨"a", .package, "P"⟩, ⟨"x", .direct, "X"⟩, ⟨"b", .package, "p"⟩]

def gathered : List Reference := [⟨"x", .direct, "X"⟩, ⟨"a", .package, "P"⟩, ⟨"b", .package, "p"⟩]

/-- They get the same two verdicts in either order, and keep them when another package comes behind them. -/
theorem scattered_gathered_judged :
    leaders gathered = [⟨"x", .direct, "X"⟩, ⟨"a", .package, "P"⟩] ∧
    (ofResolved none []).verdicts scattered ["B", "y"] =
      [⟨⟨"a", .package, "P"⟩, .used, ["b"], ["b"]⟩, ⟨⟨"x", .direct, "X"⟩, .removable, [], []⟩] ∧
    ((ofResolved none []).verdicts gathered ["B", "y"] = (leaders gathered).flatMap fun r =>
      (ofResolved none []).verdicts (judgedWith scattered r) ["B", "y"]) ∧
    ((ofResolved none []).verdicts gathered ["B", "y"]).Perm ((ofResolved none []).verdicts scattered ["B", "y"]) ∧
    (ofResolved none []).verdicts (scattered ++ [⟨"", .package, "Q"⟩]) ["B", "y"] =
      (ofResolved none []).verdicts scattered ["B", "y"] ++
        (ofResolved none []).verdicts [⟨"", .package, "Q"⟩] ["B", "y"] := by
  obtain ⟨-, -, -, -, hmoved, hbehind⟩ := verdicts_local_ordered (ofResolved none []) ["B", "y"] scattered
  have hreordered : Reordered scattered gathered := by
    refine ⟨List.Perm.swap _ _ _, fun key => ?_⟩
    simp [scattered, gathered, List.filter_cons, refersTo]
  have hapart : Apart scattered [⟨"", .package, "Q"⟩] := by
    unfold Apart
    decide +kernel
  obtain ⟨hgathered, hperm⟩ := hmoved gathered hreordered
  exact ⟨by decide +kernel, by decide +kernel, hgathered, hperm, hbehind _ hapart⟩

end Judge
end ReferenceAudit
