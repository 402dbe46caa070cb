import ReferenceAudit.Config
import ReferenceAudit.Proofs.CategoryIds
import ReferenceAudit.Proofs.Lists

/-!
# Configurations whose values have the types that they should have

A configuration keeps values of any type. One whose values have the right types gives a policy without faults, but
for the categories of its suppressions.
-/
namespace ReferenceAudit

namespace Setting

theorem mapM_textFor_text (operation : String) (ss : List String) :
    (ss.map Setting.text).mapM (textFor operation) = .ok ss := by
  induction ss with
  | nil => rfl
  | cons s ss ih =>
    rw [List.map_cons, List.mapM_cons, ih]
    rfl

theorem texts_ofTexts (operation : String) (ss : List String) : (ofTexts ss).texts operation = .ok ss :=
  mapM_textFor_text operation ss

end Setting

namespace Suppression

/-- Rules with the categories that their ids name. -/
def named (rules : List (String × List String)) : List (String × List Category) :=
  rules.map fun rule => (rule.1, rule.2.filterMap Category.ofId?)

theorem ofIds_eq_ok {rules : List (String × List String)} {labels : List String}
    (h : ∀ rule ∈ rules, ∀ id ∈ rule.2, (Category.ofId? id).isSome = true) :
    ofIds rules labels = .ok (ofRules (named rules) labels) := by
  refine bind_eq_ok.2 ⟨named rules, Lists.mapM_eq_ok_map fun rule hrule => bind_eq_ok.2 ⟨_, ?_, rfl⟩, rfl⟩
  refine Lists.mapM_eq_ok_filterMap fun id hid => ?_
  obtain ⟨category, hcategory⟩ := Option.isSome_iff_exists.1 (h rule hrule id hid)
  exact ⟨category, hcategory, by rw [categoryOf, hcategory]⟩

end Suppression

namespace Config

/-- Two switches, lists of texts, and categories by label. -/
structure Typed (c : Config) : Prop where
  enableDiagnostics : ∃ b, c.enableDiagnostics = .bool b
  dumpReferenceInfo : ∃ b, c.dumpReferenceInfo = .bool b
  ignorePackageBuildFiles : ∃ ids, c.ignorePackageBuildFiles = .ofTexts ids
  implicitReferences : ∃ names, c.implicitReferences = .ofTexts names
  suppressions : ∃ rules : List (String × List String),
    c.suppressions = .map (rules.map fun rule => (.text rule.1, .ofTexts rule.2))
  treatAsUsed : ∃ labels, c.treatAsUsed = .ofTexts labels

theorem typed_default : default.Typed :=
  ⟨⟨true, rfl⟩, ⟨false, rfl⟩, ⟨[], rfl⟩, ⟨[], rfl⟩, ⟨[], rfl⟩, ⟨[], rfl⟩⟩

theorem Typed.implicit_eq {c : Config} (h : c.Typed) : ∃ names, c.policy.implicit = .ok names := by
  obtain ⟨names, hnames⟩ := h.implicitReferences
  refine ⟨names, ?_⟩
  rw [policy, hnames]
  exact Setting.texts_ofTexts "casefold" names

theorem Typed.ignoredBuildFiles_eq {c : Config} (h : c.Typed) : ∃ ids, c.policy.ignoredBuildFiles = .ok ids := by
  obtain ⟨ids, hids⟩ := h.ignorePackageBuildFiles
  refine ⟨ids, ?_⟩
  rw [policy, hids]
  exact Setting.texts_ofTexts "casefold" ids

theorem checkCategory_text_iff (label : Setting) {id : String} :
    checkCategory label (.text id) = .ok () ↔ (Category.ofId? id).isSome = true := by
  rw [checkCategory]
  cases Category.ofId? id with
  | none => exact ⟨nofun, nofun⟩
  | some category => exact ⟨fun _ => rfl, fun _ => rfl⟩

theorem validate_eq_ok_iff {c : Config} {rules : List (String × List String)}
    (hrules : c.suppressions = .map (rules.map fun rule => (.text rule.1, .ofTexts rule.2))) :
    c.validate = .ok () ↔ ∀ rule ∈ rules, ∀ id ∈ rule.2, (Category.ofId? id).isSome = true := by
  have hentry (rule : String × List String) :
      (do (← (Setting.ofTexts rule.2).members).forM (checkCategory (.text rule.1))) = .ok () ↔
        ∀ id ∈ rule.2, (Category.ofId? id).isSome = true := by
    have hmembers : (Setting.ofTexts rule.2).members = .ok (rule.2.map .text) := rfl
    rw [hmembers]
    simp only [← checkCategory_text_iff (.text rule.1)]
    exact Lists.forM_eq_ok_iff.trans List.forall_mem_map
  rw [validate, hrules]
  simp only [Lists.forM_eq_ok_iff, List.forall_mem_map, hentry]

/-- The categories of an accepted configuration's suppressions are known, and so its suppressions are. -/
theorem suppression_of_validate {c : Config} {rules : List (String × List String)} {labels : List String}
    (hrules : c.suppressions = .map (rules.map fun rule => (.text rule.1, .ofTexts rule.2)))
    (hlabels : c.treatAsUsed = .ofTexts labels) (hvalid : c.validate = .ok ()) :
    c.policy.suppression = .ok (.ofRules (Suppression.named rules) labels) := by
  have hread : c.rules = .ok rules := by
    rw [Config.rules, hrules]
    refine Lists.mapM_eq_ok_iff.2 (List.forall₂_map_left_iff.2 (List.forall₂_same.2 fun rule _ => ?_))
    exact bind_eq_ok.2 ⟨rule.1, rfl, bind_eq_ok.2 ⟨rule.2, Setting.texts_ofTexts "strip" rule.2, rfl⟩⟩
  have hids : Suppression.ofIds rules [] = .ok (.ofRules (Suppression.named rules) []) :=
    Suppression.ofIds_eq_ok ((validate_eq_ok_iff hrules).1 hvalid)
  have htexts : c.treatAsUsed.texts "casefold" = .ok labels := by
    rw [hlabels]
    exact Setting.texts_ofTexts "casefold" labels
  exact bind_eq_ok.2 ⟨rules, hread, bind_eq_ok.2 ⟨_, hids, bind_eq_ok.2 ⟨labels, htexts, rfl⟩⟩⟩

theorem Typed.suppression_eq {c : Config} (h : c.Typed) (hvalid : c.validate = .ok ()) :
    ∃ s, c.policy.suppression = .ok s := by
  obtain ⟨rules, hrules⟩ := h.suppressions
  obtain ⟨labels, hlabels⟩ := h.treatAsUsed
  exact ⟨_, suppression_of_validate hrules hlabels hvalid⟩

end Config
end ReferenceAudit
