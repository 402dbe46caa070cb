import ReferenceAudit.Proofs.Holdings
import ReferenceAudit.Proofs.PackageVerdicts

/-!
# Taking away what is removable

Main statement: without the references that are removable, every used module that was supplied still is, and what
is left gets the verdicts that it had before. So nothing more becomes removable.
-/
namespace ReferenceAudit

/-- Whether a verdict on a first reference is one on another reference too: on the same one, or on its package. -/
def Reference.standsFor (first r : Reference) : Bool :=
  if first.kind = .package then Subject.refersTo (packageKey first.label) r else r == first

namespace Reference
variable {first r r' : Reference}

theorem standsFor_iff_eq (h : first.kind ≠ .package) : first.standsFor r = true ↔ r = first := by
  rw [standsFor, if_neg h, beq_iff_eq]

theorem standsFor_iff_refersTo (h : first.kind = .package) :
    first.standsFor r = true ↔ Subject.refersTo (packageKey first.label) r = true := by
  rw [standsFor, if_pos h]

theorem standsFor_self (r : Reference) : r.standsFor r = true := by
  by_cases hp : r.kind = .package
  · exact (standsFor_iff_refersTo hp).2 (Subject.refersTo_iff.2 ⟨hp, rfl⟩)
  · exact (standsFor_iff_eq hp).2 rfl

theorem standsFor_congr (first : Reference) (hr : r.kind = .package) (hr' : r'.kind = .package)
    (h : packageKey r.label = packageKey r'.label) : first.standsFor r = first.standsFor r' := by
  rw [Bool.eq_iff_iff]
  by_cases hp : first.kind = .package
  · simp only [standsFor_iff_refersTo hp, Subject.refersTo_iff, hr, hr', h]
  · have hne : r ≠ first := fun he => hp (he ▸ hr)
    have hne' : r' ≠ first := fun he => hp (he ▸ hr')
    simp only [standsFor_iff_eq hp, hne, hne']

end Reference

theorem Subject.eq_of_standsFor {rs : List Reference} {s s' : Subject} (h : s ∈ ofReferences rs)
    (h' : s' ∈ ofReferences rs) (hf : s.first.standsFor s'.first = true) : s = s' := by
  rcases single_or_package_of_mem h with ⟨r, -, hr, rfl⟩ | ⟨first, others, hrs, hp, rfl⟩
  · have heq : s'.first = r := (Reference.standsFor_iff_eq hr).1 hf
    rcases single_or_package_of_mem h' with ⟨r', -, -, rfl⟩ | ⟨first', others', -, hp', rfl⟩
    · exact congrArg single heq.symm
    · exact absurd (heq ▸ hp') hr
  · obtain ⟨hkind, hkey⟩ := refersTo_iff.1 ((Reference.standsFor_iff_refersTo hp).1 hf)
    rcases single_or_package_of_mem h' with ⟨r', -, hr', rfl⟩ | ⟨first', others', hrs', -, rfl⟩
    · exact absurd hkind hr'
    · -- both are all references with that key
      have hall : first :: others = first' :: others' := by
        rw [← hrs, ← hrs', show packageKey first'.label = packageKey first.label from hkey]
      cases hall
      rfl

namespace Judge

/-- Whether some of the verdicts finds a reference removable. -/
def isRemoved (vs : List Verdict) (r : Reference) : Bool :=
  vs.any fun v => v.classification = .removable && v.reference.standsFor r

/-- The references that are left when all that is removable is taken away. -/
def trimmed (j : Judge) (rs : List Reference) (used : List String) : List Reference :=
  rs.filter fun r => !isRemoved (j.verdicts rs used) r

/-- The modules that a reference supplies: those that its package brings in, if the graph has the package, or else
the one that it resolves to. -/
def supplies (j : Judge) (r : Reference) : List String :=
  if r.kind = .package then match j.inGraph? r.label with
    | some h => h.transitive
    | none => [r.identity]
  else if r.isResolved then [r.identity] else []

/-- Some reference supplies a module, whatever its case. -/
def Supplied (j : Judge) (rs : List Reference) (m : String) : Prop :=
  ∃ r ∈ rs, ∃ x ∈ j.supplies r, moduleKey x = moduleKey m

theorem isRemoved_iff {vs : List Verdict} {r : Reference} :
    isRemoved vs r = true ↔ ∃ v ∈ vs, v.classification = .removable ∧ v.reference.standsFor r = true := by
  simp [isRemoved]

theorem keepsTogether_isRemoved (vs : List Verdict) : Subject.KeepsTogether fun r => !isRemoved vs r := by
  intro r r' hr hr' h
  simp only [isRemoved, Reference.standsFor_congr _ hr hr' h]

/-! ## What is removable supplies nothing that is used -/

variable {j : Judge} {used : List String} {rs : List Reference}

theorem not_used_of_removable_single {r : Reference} (hr : r.kind ≠ .package) {v : Verdict}
    (hv : j.verdictOn? (used.map moduleKey) (.single r) = some v) (hc : v.classification = .removable) :
    ∀ m ∈ j.supplies r, ¬IsUsed used m := by
  intro m hm
  rw [supplies, if_neg hr] at hm
  simp only [verdictOn?, judge, judgeSingle, Subject.first] at hv
  split at hv
  · cases hv
  · split at hv
    · rename_i hresolved
      rw [if_pos hresolved, List.mem_singleton] at hm
      split at hv
      · cases hv
        cases hc
      · rename_i hunused
        simpa [hm, IsUsed] using hunused
    · cases hv
      cases hc

theorem not_used_of_removable_package {first : Reference} {others : List Reference}
    (hrs : rs.filter (Subject.refersTo (packageKey first.label)) = first :: others) {v : Verdict}
    (hv : j.verdictOn? (used.map moduleKey) (.package first others) = some v) (hc : v.classification = .removable)
    {r : Reference} (hr : r ∈ first :: others) : ∀ m ∈ j.supplies r, ¬IsUsed used m := by
  have hrefers : Subject.refersTo (packageKey first.label) r = true := by
    rw [← hrs] at hr
    exact (List.mem_filter.1 hr).2
  obtain ⟨hkind, hkey⟩ := Subject.refersTo_iff.1 hrefers
  rw [supplies, if_pos hkind, inGraph?_congr j hkey]
  simp only [verdictOn?, judge, judgePackage_eq, Subject.first] at hv
  cases hh : j.holdings? first others with
  | none =>
    rw [hh] at hv
    cases hv
    cases hc
  | some h =>
    rw [hh] at hv
    have hunused : ∀ m ∈ h.transitive, ¬IsUsed used m :=
      classify_eq_removable_iff.1 ((classification_judgeModules hv).symm.trans hc)
    rw [holdings?] at hh
    cases hg : j.inGraph? first.label with
    | some x =>
      rw [hg, Option.some_or] at hh
      cases hh
      exact hunused
    | none =>
      rw [hg, Option.none_or, Holdings.ofRecords_eq_some_iff] at hh
      intro m hm
      rw [List.mem_singleton] at hm
      exact hunused m (by rw [hh.2, hm]; exact List.mem_map_of_mem hr)

theorem mem_trimmed_of_supplies {r : Reference} (hr : r ∈ rs) {m : String} (hm : m ∈ j.supplies r)
    (hu : IsUsed used m) : r ∈ j.trimmed rs used := by
  refine List.mem_filter.2 ⟨hr, ?_⟩
  rw [Bool.not_eq_true', Bool.eq_false_iff, ne_eq, isRemoved_iff]
  rintro ⟨v, hv, hc, hstands⟩
  obtain ⟨s, hs, hsv⟩ := List.mem_filterMap.1 hv
  rw [reference_of_verdictOn? hsv] at hstands
  rcases Subject.single_or_package_of_mem hs with ⟨q, -, hq, rfl⟩ | ⟨first, others, hrs, hp, rfl⟩
  · have heq : r = q := (Reference.standsFor_iff_eq hq).1 hstands
    subst heq
    exact not_used_of_removable_single hq hsv hc m hm hu
  · have hrefers : Subject.refersTo (packageKey first.label) r = true :=
      (Reference.standsFor_iff_refersTo hp).1 hstands
    have hmem : r ∈ first :: others := hrs ▸ List.mem_filter.2 ⟨hr, hrefers⟩
    exact not_used_of_removable_package hrs hsv hc hmem m hm hu

/-! ## What is left is judged as before -/

theorem isRemoved_first_iff {s : Subject} (hs : s ∈ Subject.ofReferences rs) :
    isRemoved (j.verdicts rs used) s.first = true ↔
      ∃ v, j.verdictOn? (used.map moduleKey) s = some v ∧ v.classification = .removable := by
  rw [isRemoved_iff]
  constructor
  · rintro ⟨v, hv, hc, hstands⟩
    obtain ⟨s', hs', hsv⟩ := List.mem_filterMap.1 hv
    rw [reference_of_verdictOn? hsv] at hstands
    rw [Subject.eq_of_standsFor hs' hs hstands] at hsv
    exact ⟨v, hsv, hc⟩
  · rintro ⟨v, hsv, hc⟩
    refine ⟨v, List.mem_filterMap.2 ⟨s, hs, hsv⟩, hc, ?_⟩
    rw [reference_of_verdictOn? hsv]
    exact Reference.standsFor_self _

theorem verdicts_trimmed (j : Judge) (rs : List Reference) (used : List String) :
    j.verdicts (j.trimmed rs used) used = (j.verdicts rs used).filter fun v => v.classification ≠ .removable := by
  have hsubjects : Subject.ofReferences (j.trimmed rs used) =
      (Subject.ofReferences rs).filter fun s => !isRemoved (j.verdicts rs used) s.first :=
    Subject.ofReferences_filter (keepsTogether_isRemoved _) rs
  have hleft : j.verdicts (j.trimmed rs used) used = (Subject.ofReferences rs).filterMap fun s =>
      if !isRemoved (j.verdicts rs used) s.first then j.verdictOn? (used.map moduleKey) s else none := by
    rw [verdicts, hsubjects, List.filterMap_filter]
  have hright : ((j.verdicts rs used).filter fun v => v.classification ≠ .removable) =
      (Subject.ofReferences rs).filterMap fun s =>
        (j.verdictOn? (used.map moduleKey) s).filter fun v => v.classification ≠ .removable := by
    rw [verdicts, List.filter_filterMap]
  rw [hleft, hright]
  refine List.filterMap_congr fun s hs => ?_
  have hiff : isRemoved (j.verdicts rs used) s.first = true ↔
      ∃ v, j.verdictOn? (used.map moduleKey) s = some v ∧ v.classification = .removable := isRemoved_first_iff hs
  cases hv : j.verdictOn? (used.map moduleKey) s with
  | none => simp
  | some v =>
    simp only [hv, Option.some.injEq, exists_eq_left'] at hiff
    by_cases hc : v.classification = .removable
    · simp [Option.filter, hc, hiff.2 hc]
    · have hkept : isRemoved (j.verdicts rs used) s.first = false := by
        rw [Bool.eq_false_iff]
        exact mt hiff.1 hc
      simp [Option.filter, hc, hkept]

/-- By whatever packages and contributions there are, trimming loses no used module, and a second judgement of what
is left finds the same and nothing to remove. -/
theorem trimming_supplies_and_settles (j : Judge) (rs : List Reference) (used : List String) :
    (∀ u ∈ used, j.Supplied rs u → j.Supplied (j.trimmed rs used) u) ∧
      j.verdicts (j.trimmed rs used) used = ((j.verdicts rs used).filter fun v => v.classification ≠ .removable) ∧
      ∀ v ∈ j.verdicts (j.trimmed rs used) used, v.classification ≠ .removable := by
  refine ⟨?_, verdicts_trimmed j rs used, ?_⟩
  · rintro u hu ⟨r, hr, m, hm, hkey⟩
    exact ⟨r, mem_trimmed_of_supplies hr hm ⟨u, hu, hkey.symm⟩, m, hm, hkey⟩
  · intro v hv
    rw [verdicts_trimmed] at hv
    simpa using (List.mem_filter.1 hv).2

def chainReferences : List Reference :=
  [⟨"/p/a.dll", .package, "A"⟩, ⟨"/w/x.dll", .direct, "x"⟩, ⟨"/p/b.dll", .package, "a"⟩,
    ⟨"/w/y.dll", .project, "y"⟩]

/-- The package stays for a module that another package brings in, and the module that nothing uses goes. -/
theorem chain_trimmed :
    chain.trimmed chainReferences ["/P/B.dll", "/w/X.dll"] = chainReferences.take 3 ∧
      chain.Supplied (chainReferences.take 3) "/P/B.dll" ∧
      chain.verdicts (chainReferences.take 3) ["/P/B.dll", "/w/X.dll"] =
        (chain.verdicts chainReferences ["/P/B.dll", "/w/X.dll"]).filter fun v =>
          v.classification ≠ .removable := by
  have htrimmed : chain.trimmed chainReferences ["/P/B.dll", "/w/X.dll"] = chainReferences.take 3 := by
    decide +kernel
  have hsupplied : chain.Supplied chainReferences "/P/B.dll" := by
    simp only [Supplied]
    decide +kernel
  obtain ⟨hkept, hverdicts, -⟩ := trimming_supplies_and_settles chain chainReferences ["/P/B.dll", "/w/X.dll"]
  rw [htrimmed] at hkept hverdicts
  exact ⟨htrimmed, hkept _ List.mem_cons_self hsupplied, hverdicts⟩

end Judge
end ReferenceAudit
