import ReferenceAudit.Proofs.Folding
import ReferenceAudit.Proofs.TypedConfigs

/-!
# What the suppressions of an accepted configuration leave out

Labels are folded before their categories are kept, so of the entries whose labels differ in case only the last
one is kept. The categories for every reference are left out of all that is told of references; the diagnostic
on documentation is about none of them, and is not left out. Main statements: when a category that an entry
names is ignored, and which diagnostics are told although they are named for every reference.
-/
namespace ReferenceAudit

/-- Whether some of the ids is a category's. -/
def Category.IsNamedIn (k : Category) (ids : List String) : Prop := ∃ id ∈ ids, ofId? id = some k

theorem Category.isNamedIn_of_mem {k : Category} {ids : List String} (h : k.id ∈ ids) : k.IsNamedIn ids :=
  ⟨k.id, h, ofId?_id k⟩

namespace Suppression
variable {rules : List (String × List Category)} {labels : List String}

theorem mem_getD_ofRules_iff {key : String} {k : Category} :
    k ∈ (ofRules rules labels).categories.getD key [] ↔
      ∃ rule, Lists.IsLast (fun rule => Text.fold rule.1 = key) rules rule ∧ k ∈ rule.2 := by
  have hget (ks : List Category) : (ofRules rules labels).categories.get? key = some ks ↔
      ∃ rule, Lists.IsLast (fun rule => Text.fold rule.1 = key) rules rule ∧
        (Text.fold rule.1, rule.2) = (key, ks) :=
    OrderedMap.get?_ofList_iff.trans Lists.isLast_map_iff
  rw [OrderedMap.getD]
  constructor
  · intro h
    cases hfound : (ofRules rules labels).categories.get? key with
    | none =>
      rw [hfound] at h
      cases h
    | some ks =>
      obtain ⟨rule, hlast, hrule⟩ := (hget ks).1 hfound
      obtain ⟨-, rfl⟩ := Prod.mk.inj hrule
      rw [hfound] at h
      exact ⟨rule, hlast, h⟩
  · rintro ⟨rule, hlast, h⟩
    have hkey : Text.fold rule.1 = key := hlast.of
    rw [(hget rule.2).2 ⟨rule, hlast, by rw [hkey]⟩]
    exact h

/-- A category is ignored for what counts as used, by the last rule for every
reference, or by the last one with the reference's label. -/
theorem ignores_ofRules_iff {r : Reference} {k : Category} :
    (ofRules rules labels).ignores r k = true ↔
      (∃ label ∈ labels, Text.fold label = Text.fold r.label) ∨
      (∃ rule, Lists.IsLast (fun rule => Text.fold rule.1 = everywhere) rules rule ∧ k ∈ rule.2) ∨
      ∃ rule, Lists.IsLast (fun rule => Text.fold rule.1 = Text.fold r.label) rules rule ∧ k ∈ rule.2 := by
  have hused : (ofRules rules labels).alwaysUsed = labels.map Text.fold := rfl
  simp only [ignores, Bool.or_eq_true, List.contains_iff_mem, mem_getD_ofRules_iff, hused, List.mem_map, or_assoc]

end Suppression

namespace Config

/-- A configuration with categories by label, and with labels that count as used. -/
structure Suppresses (c : Config) (rules : OrderedMap (List String)) (labels : List String) : Prop where
  suppressions : c.suppressions = .map (rules.entries.map fun e => (.text e.1, .ofTexts e.2))
  treatAsUsed : c.treatAsUsed = .ofTexts labels

/-- The configuration that asks for suppressions, and for nothing else that is not asked for by default. -/
def suppressing (rules : OrderedMap (List String)) (labels : List String) : Config :=
  { default with
    suppressions := .map (rules.entries.map fun e => (.text e.1, .ofTexts e.2))
    treatAsUsed := .ofTexts labels }

theorem suppresses_suppressing (rules : OrderedMap (List String)) (labels : List String) :
    (suppressing rules labels).Suppresses rules labels :=
  ⟨rfl, rfl⟩

variable {c : Config} {rules : OrderedMap (List String)} {labels : List String}

theorem exists_last_named_iff {rules : List (String × List String)} {key : String} {k : Category} :
    (∃ rule, Lists.IsLast (fun rule => Text.fold rule.1 = key) (Suppression.named rules) rule ∧ k ∈ rule.2) ↔
      ∃ e, Lists.IsLast (fun e => Text.fold e.1 = key) rules e ∧ k.IsNamedIn e.2 := by
  simp only [Suppression.named, Lists.isLast_map_iff, Category.IsNamedIn, ← List.mem_filterMap]
  constructor
  · rintro ⟨_, ⟨e, hlast, rfl⟩, hk⟩
    exact ⟨e, hlast, hk⟩
  · rintro ⟨e, hlast, hk⟩
    exact ⟨_, ⟨e, hlast, rfl⟩, hk⟩

theorem isLast_everywhere_iff {e : String × List String} :
    Lists.IsLast (fun e => Text.fold e.1 = Suppression.everywhere) rules.entries e ↔
      e ∈ rules.entries ∧ e.1 = Suppression.everywhere := by
  have hstar (e : String × List String) : Text.fold e.1 = Suppression.everywhere ↔ e.1 = Suppression.everywhere :=
    Text.fold_eq_star_iff
  simp only [hstar]
  exact Lists.isLast_iff_of_nodup_map rules.nodup_keys

/-- What an accepted configuration ignores. -/
theorem Suppresses.exists_ignores_iff (h : c.Suppresses rules labels) (hvalid : c.validate = .ok ()) :
    ∃ s, c.policy.suppression = .ok s ∧ ∀ r k, s.ignores r k = true ↔
      (∃ label ∈ labels, Text.fold label = Text.fold r.label) ∨
      (∃ e ∈ rules.entries, e.1 = Suppression.everywhere ∧ k.IsNamedIn e.2) ∨
      ∃ e, Lists.IsLast (fun e => Text.fold e.1 = Text.fold r.label) rules.entries e ∧ k.IsNamedIn e.2 := by
  refine ⟨_, suppression_of_validate h.suppressions h.treatAsUsed hvalid, fun r k => ?_⟩
  simp only [Suppression.ignores_ofRules_iff, exists_last_named_iff, isLast_everywhere_iff, and_assoc]

/-- **What becomes of an entry.** Each category that an entry of an accepted configuration names is one that
there is. Under the label for every reference it is ignored for every reference. Under any other label it is
ignored for the references with that label if and only if the label counts as used, or the category is named for
every reference, or it is named by the last entry with that label but for case. -/
theorem entry_ignored_iff (h : c.Suppresses rules labels) (hvalid : c.validate = .ok ()) :
    ∃ s, c.policy.suppression = .ok s ∧ ∀ e ∈ rules.entries, ∀ id ∈ e.2, ∃ k, Category.ofId? id = some k ∧
      ∀ r : Reference, (e.1 = Suppression.everywhere → s.ignores r k = true) ∧
        (Text.fold r.label = Text.fold e.1 → (s.ignores r k = true ↔
          (∃ label ∈ labels, Text.fold label = Text.fold e.1) ∨
          (∃ all ∈ rules.entries, all.1 = Suppression.everywhere ∧ k.IsNamedIn all.2) ∨
          ∃ last, Lists.IsLast (fun e' => Text.fold e'.1 = Text.fold e.1) rules.entries last ∧
            k.IsNamedIn last.2)) := by
  obtain ⟨s, hs, hignores⟩ := h.exists_ignores_iff hvalid
  refine ⟨s, hs, fun e he id hid => ?_⟩
  obtain ⟨k, hk⟩ := Option.isSome_iff_exists.1 ((validate_eq_ok_iff h.suppressions).1 hvalid e he id hid)
  refine ⟨k, hk, fun r => ⟨fun hall => ?_, fun hlabel => ?_⟩⟩
  · exact (hignores r k).2 (Or.inr (Or.inl ⟨e, he, hall, id, hid, hk⟩))
  · rw [hignores, hlabel]

def recasedRules : OrderedMap (List String) :=
  .ofList [("Foo", [Category.reference.id]), ("*", [Category.docGeneration.id, Category.package.id]),
    ("foo", [Category.project.id])]

theorem entries_recasedRules :
    recasedRules.entries = [("Foo", [Category.reference.id]),
      ("*", [Category.docGeneration.id, Category.package.id]),
      ("foo", [Category.project.id])] := by
  decide

theorem validate_recasedRules : (suppressing recasedRules []).validate = .ok () := by
  rw [validate_eq_ok_iff (suppresses_suppressing recasedRules []).suppressions]
  simp [entries_recasedRules, Category.ofId?_id]

/-- The entry for every reference holds for each, and the later entry for the references with its label. -/
theorem recased_ignored : (suppressing recasedRules []).validate = .ok () ∧
    ∃ s, (suppressing recasedRules []).policy.suppression = .ok s ∧
      (∀ r, s.ignores r .package = true) ∧ ∀ r : Reference, Text.fold r.label = Text.fold "foo" →
        s.ignores r .project = true := by
  obtain ⟨s, hs, hentries⟩ := entry_ignored_iff (suppresses_suppressing recasedRules []) validate_recasedRules
  rw [entries_recasedRules] at hentries
  refine ⟨validate_recasedRules, s, hs, fun r => ?_, fun r hr => ?_⟩
  · obtain ⟨k, hk, hignored⟩ := hentries _ (.tail _ (.head _)) _ (.tail _ (.head _))
    rw [Category.ofId?_id] at hk
    cases hk
    exact (hignored r).1 rfl
  · obtain ⟨k, hk, hignored⟩ := hentries _ (.tail _ (.tail _ (.head _))) _ (.head _)
    rw [Category.ofId?_id] at hk
    cases hk
    have hlast : Lists.IsLast (fun e => Text.fold e.1 = Text.fold "foo") recasedRules.entries
        ("foo", [Category.project.id]) :=
      ⟨[("Foo", [Category.reference.id]), ("*", [Category.docGeneration.id, Category.package.id])], [],
        entries_recasedRules, rfl, nofun⟩
    rw [entries_recasedRules] at hlast
    exact ((hignored r).2 hr).2 (Or.inr (Or.inr ⟨_, hlast, Category.isNamedIn_of_mem (.head _)⟩))

/-- The earlier one of two entries with one label but for case is lost. -/
theorem recased_entry_lost : (suppressing recasedRules []).validate = .ok () ∧
    ("Foo", ["RT0001"]) ∈ recasedRules.entries ∧ Category.ofId? "RT0001" = some .reference ∧
    ∃ s, (suppressing recasedRules []).policy.suppression = .ok s ∧
      s.ignores ⟨"/Foo.dll", .direct, "Foo"⟩ .reference = false := by
  refine ⟨validate_recasedRules, by decide, Category.ofId?_id .reference, _,
    suppression_of_validate (suppresses_suppressing recasedRules []).suppressions rfl validate_recasedRules, ?_⟩
  have hnamed : Suppression.named recasedRules.entries =
      [("Foo", [.reference]), ("*", [.docGeneration, .package]), ("foo", [.project])] := by
    simp [Suppression.named, entries_recasedRules, Category.ofId?_id]
  rw [hnamed]
  decide +kernel

/-- **Every category of references can be suppressed.** What is named for every reference in an accepted
configuration is told of none; only the diagnostic on documentation is told although it is so named. -/
theorem emitted_everywhere_iff (h : c.Suppresses rules labels) (hvalid : c.validate = .ok ()) :
    ∃ s, c.policy.suppression = .ok s ∧ ∀ (docEnabled : Bool) (vs : List Verdict), ∀ e ∈ rules.entries,
      e.1 = Suppression.everywhere → ∀ d, d.category.IsNamedIn e.2 →
        (d ∈ Diagnostic.emit s.ignores docEnabled vs ↔ d = Diagnostic.docGeneration ∧ docEnabled = false) := by
  obtain ⟨s, hs, hignores⟩ := h.exists_ignores_iff hvalid
  refine ⟨s, hs, fun docEnabled vs e he hall d hd => ?_⟩
  have hnever : d ∉ Diagnostic.ofVerdicts s.ignores vs := by
    intro hmem
    obtain ⟨v, -, hv⟩ := List.mem_filterMap.1 hmem
    obtain ⟨-, hkept⟩ := Option.filter_eq_some_iff.1 hv
    have hignored : s.ignores v.reference d.category = true :=
      (hignores v.reference d.category).2 (Or.inr (Or.inl ⟨e, he, hall, hd⟩))
    rw [hignored] at hkept
    cases hkept
  rw [Diagnostic.emit, List.mem_append, or_iff_left hnever]
  cases docEnabled <;> simp

/-- Documentation and packages are named for every reference; only that of documentation is told of. -/
theorem recased_emitted : (suppressing recasedRules []).validate = .ok () ∧
    ∃ s, (suppressing recasedRules []).policy.suppression = .ok s ∧ ∀ vs,
      Diagnostic.docGeneration ∈ Diagnostic.emit s.ignores false vs ∧
        ∀ docEnabled, ∀ d ∈ Diagnostic.emit s.ignores docEnabled vs, d.category ≠ .package := by
  obtain ⟨s, hs, hemitted⟩ := emitted_everywhere_iff (suppresses_suppressing recasedRules []) validate_recasedRules
  rw [entries_recasedRules] at hemitted
  have hstar (docEnabled : Bool) (vs : List Verdict) := hemitted docEnabled vs _ (.tail _ (.head _)) rfl
  refine ⟨validate_recasedRules, s, hs, fun vs => ⟨?_, fun docEnabled d hd hpackage => ?_⟩⟩
  · exact (hstar false vs .docGeneration (Category.isNamedIn_of_mem (.head _))).2 ⟨rfl, rfl⟩
  · have hnamed : d.category.IsNamedIn [Category.docGeneration.id, Category.package.id] := by
      rw [hpackage]
      exact Category.isNamedIn_of_mem (.tail _ (.head _))
    obtain ⟨rfl, -⟩ := (hstar docEnabled vs d hnamed).1 hd
    cases hpackage

/-- What is told of documentation is told although it is named for every reference. -/
theorem documentation_told : (suppressing recasedRules []).validate = .ok () ∧
    ("*", ["RT0000", "RT0003"]) ∈ recasedRules.entries ∧
    ∃ s, (suppressing recasedRules []).policy.suppression = .ok s ∧
      ∃ d ∈ Diagnostic.emit s.ignores false [], d.category.id = "RT0000" :=
  ⟨validate_recasedRules, by decide, _,
    suppression_of_validate (suppresses_suppressing recasedRules []).suppressions rfl validate_recasedRules,
    Diagnostic.docGeneration, .head _, rfl⟩

end Config
end ReferenceAudit
