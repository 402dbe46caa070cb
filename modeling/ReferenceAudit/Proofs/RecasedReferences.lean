import ReferenceAudit.Proofs.EquivalentGraphs
import ReferenceAudit.Proofs.Folding
import ReferenceAudit.Suppression

/-!
# References written in other case

References whose labels and identities have the same folded forms make the same subjects, in the same places. Main
statements: judges that agree classify such subjects alike, and what is told of them is of the same categories.
-/
namespace ReferenceAudit

/-- Two lists of texts that are the same without regard to case, to order and to repetitions. -/
def Text.SameFolded (xs ys : List String) : Prop := ∀ key, key ∈ xs.map fold ↔ key ∈ ys.map fold

theorem Text.sameFolded_of_map_eq {xs ys : List String} (h : xs.map fold = ys.map fold) : SameFolded xs ys := by
  intro key
  rw [h]

/-- The same reference, written in other case. -/
structure Reference.SameButCase (r r' : Reference) : Prop where
  identity : moduleKey r.identity = moduleKey r'.identity
  kind : r.kind = r'.kind
  label : packageKey r.label = packageKey r'.label

theorem Reference.SameButCase.isResolved {r r' : Reference} (h : r.SameButCase r') :
    r.isResolved = r'.isResolved := by
  have hempty : r.identity = "" ↔ r'.identity = "" := by
    rw [← Text.fold_eq_empty_iff, ← Text.fold_eq_empty_iff (s := r'.identity)]
    exact Eq.congr_left h.identity
  unfold Reference.isResolved
  rw [Bool.eq_iff_iff, bne_iff_ne, bne_iff_ne, not_iff_not, hempty]

namespace Subject

/-- Subjects that the same references make, written in other case. -/
inductive SameButCase : Subject → Subject → Prop
  | single {r r' : Reference} (h : r.SameButCase r') : SameButCase (.single r) (.single r')
  | package {first first' : Reference} {others others' : List Reference} (h : first.SameButCase first')
      (hothers : List.Forall₂ Reference.SameButCase others others') :
      SameButCase (.package first others) (.package first' others')

theorem SameButCase.first {s s' : Subject} (h : s.SameButCase s') : s.first.SameButCase s'.first := by
  cases h with
  | single h => exact h
  | package h _ => exact h

theorem refersTo_congr {r r' : Reference} (h : r.SameButCase r') (key : String) :
    refersTo key r = refersTo key r' := by
  rw [refersTo, refersTo, h.kind, h.label]

/-- The subjects are made of the same references, and start in the same places. -/
theorem collect_sameButCase {rs rs' : List Reference} (h : List.Forall₂ Reference.SameButCase rs rs')
    (seen : List String) :
    List.Forall₂ SameButCase (collect seen rs) (collect seen rs') ∧
      (((collect seen rs).zip (collect seen rs')).map (Prod.map first first)).Sublist (rs.zip rs') := by
  -- the induction is on the references; their packages are told apart by keys, so the same ones have been
  -- seen
  induction h generalizing seen with
  | nil => exact ⟨.nil, .refl _⟩
  | @cons r r' rs rs' hr hrs ih =>
    rw [collect, collect, ← hr.kind, ← hr.label]
    by_cases hp : r.kind = .package
    · rw [if_pos hp, if_pos hp]
      dsimp only
      split
      · obtain ⟨hall, hplaces⟩ := ih seen
        exact ⟨hall, hplaces.cons _⟩
      · obtain ⟨hall, hplaces⟩ := ih (packageKey r.label :: seen)
        have hothers : List.Forall₂ Reference.SameButCase (rs.filter (refersTo (packageKey r.label)))
            (rs'.filter (refersTo (packageKey r.label))) :=
          Lists.forall₂_filter hrs fun _ _ hq => refersTo_congr hq _
        exact ⟨.cons (.package hr hothers) hall, hplaces.cons_cons _⟩
    · rw [if_neg hp, if_neg hp]
      obtain ⟨hall, hplaces⟩ := ih seen
      exact ⟨.cons (.single hr) hall, hplaces.cons_cons _⟩

end Subject

/-! ## Classifications -/

def Judgement.classification? : Judgement → Option Classification
  | implicit | noModules | hasBuildFiles _ => none
  | unresolved => some .used
  | judged c _ _ => some c

theorem Judgement.map_classification_verdict? (x : Judgement) (r : Reference) :
    (x.verdict? r).map (·.classification) = x.classification? := by
  cases x <;> rfl

/-- The same own modules and the same that are brought in, as far as their keys go. -/
structure Holdings.SameKeys (x x' : Holdings) : Prop where
  own : Text.SameFolded x.own x'.own
  transitive : Text.SameFolded x.transitive x'.transitive
  buildFiles : x.buildFiles = [] ↔ x'.buildFiles = []

theorem Holdings.Equivalent.sameKeys {x x' : Holdings} (h : x.Equivalent x') : x.SameKeys x' := by
  refine ⟨fun key => by rw [h.own], fun key => ?_, h.buildFiles⟩
  simp only [List.mem_map, h.transitive]

namespace Judge

section
variable {keys keys' : List String} (hkeys : ∀ key, key ∈ keys ↔ key ∈ keys')
include hkeys

theorem usedAmong_eq_nil_congr {xs xs' : List String} (h : Text.SameFolded xs xs') :
    usedAmong keys xs = [] ↔ usedAmong keys' xs' = [] := by
  have hnil (keys xs : List String) : usedAmong keys xs = [] ↔ ∀ key ∈ xs.map Text.fold, key ∉ keys := by
    simp [usedAmong, List.filter_eq_nil_iff, moduleKey]
  rw [hnil, hnil]
  refine forall_congr' fun key => ?_
  rw [h key, hkeys key]

theorem classification?_judgement {x x' : Holdings} (h : x.SameKeys x') :
    (x.judgement keys).classification? = (x'.judgement keys').classification? := by
  have htransitive : x.transitive = [] ↔ x'.transitive = [] := by
    rw [← List.map_eq_nil_iff (f := Text.fold), ← List.map_eq_nil_iff (l := x'.transitive) (f := Text.fold)]
    exact Lists.eq_nil_congr h.transitive
  simp only [Holdings.judgement, judgeModules, classify, htransitive, h.buildFiles, ne_eq,
    usedAmong_eq_nil_congr hkeys h.own, usedAmong_eq_nil_congr hkeys h.transitive]
  split
  · rfl
  · split <;> rfl

end

theorem ofRecords_sameKeys {rs rs' : List Reference} (h : List.Forall₂ Reference.SameButCase rs rs') :
    Option.Rel Holdings.SameKeys (Holdings.ofRecords rs) (Holdings.ofRecords rs') := by
  have hresolved : rs.all Reference.isResolved = rs'.all Reference.isResolved := by
    have hmap := Lists.map_eq_of_forall₂ h fun _ _ hr => hr.isResolved
    rw [← Function.id_comp Reference.isResolved, ← List.all_map, ← List.all_map, hmap]
  have hkeys : Text.SameFolded (rs.map (·.identity)) (rs'.map (·.identity)) := by
    have hmap := Lists.map_eq_of_forall₂ h fun _ _ hr => hr.identity
    intro key
    rw [List.map_map, List.map_map]
    exact iff_of_eq (congrArg (key ∈ ·) hmap)
  rw [Holdings.ofRecords, Holdings.ofRecords, hresolved]
  split
  · exact .some ⟨hkeys, hkeys, Iff.rfl⟩
  · exact .none

namespace Agrees
variable {j j' : Judge} (h : j.Agrees j') {keys keys' : List String} (hkeys : ∀ key, key ∈ keys ↔ key ∈ keys')
include h hkeys

theorem classification?_judgeSingle {r r' : Reference} (hr : r.SameButCase r') :
    (j.judgeSingle keys r).classification? = (j'.judgeSingle keys' r').classification? := by
  have hused : keys.contains (moduleKey r.identity) = keys'.contains (moduleKey r'.identity) := by
    rw [hr.identity, Bool.eq_iff_iff, List.contains_iff_mem, List.contains_iff_mem, hkeys]
  rw [judgeSingle, judgeSingle, h.isImplicit_eq hr.identity hr.label hr.isResolved, hr.isResolved, hused]
  split
  · rfl
  · split
    · split <;> rfl
    · rfl

theorem classification?_judge {s s' : Subject} (hs : s.SameButCase s') :
    (j.judge keys s).classification? = (j'.judge keys' s').classification? := by
  cases hs with
  | single hr => exact h.classification?_judgeSingle hkeys hr
  | package hfirst hothers =>
    simp only [judge, judgePackage_eq, holdings?]
    have hfound := h.inGraph? _ _ hfirst.label
    generalize j.inGraph? _ = found at hfound ⊢
    generalize j'.inGraph? _ = found' at hfound ⊢
    cases hfound with
    | some hx => exact classification?_judgement hkeys hx.sameKeys
    | none =>
      -- a package outside the graph is judged by its references
      have hrecords := ofRecords_sameKeys (List.Forall₂.cons hfirst hothers)
      rw [Option.none_or, Option.none_or]
      generalize Holdings.ofRecords _ = held at hrecords ⊢
      generalize Holdings.ofRecords _ = held' at hrecords ⊢
      cases hrecords with
      | none => rfl
      | some hx => exact classification?_judgement hkeys hx

end Agrees
end Judge

/-! ## Verdicts and what is told -/

/-- Verdicts on one reference, written in either case, that classify it alike. -/
structure Verdict.SameButCase (v v' : Verdict) : Prop where
  reference : v.reference.SameButCase v'.reference
  classification : v.classification = v'.classification

theorem Judge.Agrees.verdictOn?_sameButCase {j j' : Judge} (h : j.Agrees j') {keys keys' : List String}
    (hkeys : ∀ key, key ∈ keys ↔ key ∈ keys') {s s' : Subject} (hs : s.SameButCase s') :
    Option.Rel (fun v v' => v.SameButCase v' ∧ v.reference = s.first ∧ v'.reference = s'.first)
      (j.verdictOn? keys s) (j'.verdictOn? keys' s') := by
  have hclass := h.classification?_judge hkeys hs
  rw [← Judgement.map_classification_verdict? _ s.first, ← Judgement.map_classification_verdict? _ s'.first,
    ← verdictOn?, ← verdictOn?] at hclass
  cases hv : j.verdictOn? keys s with
  | none =>
    rw [hv, Option.map_none] at hclass
    rw [Option.map_eq_none_iff.1 hclass.symm]
    exact .none
  | some v =>
    rw [hv, Option.map_some] at hclass
    obtain ⟨v', hv', hclass⟩ := Option.map_eq_some_iff.1 hclass.symm
    have hreference := reference_of_verdictOn? hv
    have hreference' := reference_of_verdictOn? hv'
    rw [hv']
    exact .some ⟨⟨by rw [hreference, hreference']; exact hs.first, hclass.symm⟩, hreference, hreference'⟩

/-- The verdicts on subjects in pairs stand in the places of the pairs that they are on. -/
theorem Judge.Agrees.verdicts_in_places {j j' : Judge} (h : j.Agrees j') {keys keys' : List String}
    (hkeys : ∀ key, key ∈ keys ↔ key ∈ keys') {ss ss' : List Subject}
    (hss : List.Forall₂ Subject.SameButCase ss ss') :
    List.Forall₂ Verdict.SameButCase (ss.filterMap (j.verdictOn? keys)) (ss'.filterMap (j'.verdictOn? keys')) ∧
      (((ss.filterMap (j.verdictOn? keys)).zip (ss'.filterMap (j'.verdictOn? keys'))).map
        (Prod.map Verdict.reference Verdict.reference)).Sublist
          ((ss.zip ss').map (Prod.map Subject.first Subject.first)) := by
  induction hss with
  | nil => exact ⟨.nil, .refl _⟩
  | @cons s s' ss ss' hs _ ih =>
    obtain ⟨hall, hplaces⟩ := ih
    have hverdict := h.verdictOn?_sameButCase hkeys hs
    rw [List.filterMap_cons, List.filterMap_cons]
    generalize j.verdictOn? keys s = found at hverdict ⊢
    generalize j'.verdictOn? keys' s' = found' at hverdict ⊢
    cases hverdict with
    | none => exact ⟨hall, hplaces.cons _⟩
    | some hv =>
      obtain ⟨hv, hreference, hreference'⟩ := hv
      refine ⟨.cons hv hall, ?_⟩
      simp only [List.zip_cons_cons, List.map_cons, Prod.map_apply, hreference, hreference']
      exact hplaces.cons_cons _

namespace Suppression

theorem ignores_congr (s : Suppression) {r r' : Reference} (h : r.SameButCase r') (c : Category) :
    s.ignores r c = s.ignores r' c := by
  have hlabel : Text.fold r.label = Text.fold r'.label := h.label
  simp only [ignores, hlabel]

end Suppression

namespace Diagnostic

theorem map_category_ofVerdict?_congr {v v' : Verdict} (h : v.SameButCase v') :
    (ofVerdict? v).map (·.category) = (ofVerdict? v').map (·.category) := by
  rw [ofVerdict?, ofVerdict?, h.classification, h.reference.kind]
  split <;> rfl

theorem map_category_ofVerdicts_congr (s : Suppression) {vs vs' : List Verdict}
    (h : List.Forall₂ Verdict.SameButCase vs vs') :
    (ofVerdicts s.ignores vs).map (·.category) = (ofVerdicts s.ignores vs').map (·.category) := by
  have hkept := Lists.forall₂_filter (p := fun v => !s.ignores v.reference (Category.ofKind v.reference.kind))
    (q := fun v => !s.ignores v.reference (Category.ofKind v.reference.kind)) h fun v v' hv => by
      rw [s.ignores_congr hv.reference, hv.reference.kind]
  have htold := Lists.map_eq_of_forall₂ hkept fun _ _ => map_category_ofVerdict?_congr
  rw [ofVerdicts_eq_filterMap, ofVerdicts_eq_filterMap, List.map_filterMap, List.map_filterMap]
  simpa only [List.filterMap_map, Function.id_comp] using congrArg (List.filterMap id) htold

end Diagnostic

/-- Verdicts on the same places among references written in two ways, with the same classifications, of which
the same categories are told by whatever rules and with or without documentation. -/
structure AlikeVerdicts (rs rs' : List Reference) (vs vs' : List Verdict) : Prop where
  classifications : vs.map (·.classification) = vs'.map (·.classification)
  places : ((vs.zip vs').map (Prod.map Verdict.reference Verdict.reference)).Sublist (rs.zip rs')
  categories : ∀ (s : Suppression) (docEnabled : Bool),
    (Diagnostic.emit s.ignores docEnabled vs).map (·.category) =
      (Diagnostic.emit s.ignores docEnabled vs').map (·.category)

theorem Judge.Agrees.alikeVerdicts {j j' : Judge} (h : j.Agrees j') {rs rs' : List Reference}
    (hrs : List.Forall₂ Reference.SameButCase rs rs') {used used' : List String}
    (hused : Text.SameFolded used used') :
    AlikeVerdicts rs rs' (j.verdicts rs used) (j'.verdicts rs' used') := by
  obtain ⟨hsubjects, hfirst⟩ := Subject.collect_sameButCase hrs []
  obtain ⟨hverdicts, hplaces⟩ := h.verdicts_in_places hused hsubjects
  refine ⟨Lists.map_eq_of_forall₂ hverdicts fun _ _ hv => hv.classification, hplaces.trans hfirst, ?_⟩
  intro s docEnabled
  rw [Diagnostic.emit, Diagnostic.emit, List.map_append, List.map_append]
  exact congrArg _ (Diagnostic.map_category_ofVerdicts_congr s hverdicts)

end ReferenceAudit
