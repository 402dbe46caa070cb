import Mathlib.Data.List.Nodup
import ReferenceAudit.Proofs.ConfiguredSuppressions
import ReferenceAudit.Proofs.Holdings
import ReferenceAudit.Proofs.Locations
import ReferenceAudit.Proofs.Subjects
import ReferenceAudit.Proofs.TypedItems

/-!
# Silencing an item and ignoring its label come to the same

An item whose own metadata name its category declares nothing; a label that the suppressions give a category is
told of no more in that category. Main statement: if no two items of a kind have one label without regard to
case, it does not count which of the two is done to the items that are to be kept quiet.
-/
namespace ReferenceAudit

/-! ## Items that name their category -/

/-- A list of ids with one more at its end. -/
def noWarnWith (list id : String) : String := if list = "" then id else list ++ ";" ++ id

theorem noWarnNames_noWarnWith (list : String) (c : Category) :
    noWarnNames (noWarnWith list c.id) c.id = true ∧ noWarnWith list c.id ≠ "" := by
  have hid : c.id ≠ "" ∧ c.id ∈ Text.splitOn ';' c.id := by
    cases c <;> decide +kernel
  obtain ⟨hne, hmem⟩ := hid
  by_cases hl : list = ""
  · rw [noWarnWith, if_pos hl]
    exact ⟨noWarnNames_iff.2 ⟨c.id, hmem, Category.ofId?_id c⟩, hne⟩
  · have hentries : Text.splitOn ';' (list ++ ";" ++ c.id) = Text.splitOn ';' list ++ Text.splitOn ';' c.id :=
      Text.splitOn_append ';' list c.id
    rw [noWarnWith, if_neg hl]
    refine ⟨noWarnNames_iff.2 ⟨c.id, ?_, Category.ofId?_id c⟩, by simp [hne]⟩
    rw [hentries]
    exact List.mem_append_right _ hmem

namespace Item

def silenced (c : Category) (i : Item) : Item :=
  { i with metadata := ("NoWarn", .text (noWarnWith (i.get "NoWarn").shown c.id)) :: i.metadata }

theorem get_noWarn_silenced (c : Category) (i : Item) :
    (i.silenced c).get "NoWarn" = .text (noWarnWith (i.get "NoWarn").shown c.id) := by
  have htruthy : (Setting.text (noWarnWith (i.get "NoWarn").shown c.id)).isTruthy = true :=
    bne_iff_ne.2 (noWarnNames_noWarnWith _ c).2
  rw [get, silenced, List.lookup_cons_self]
  exact if_pos htruthy

theorem isSuppressed_silenced (c : Category) (i : Item) : (i.silenced c).isSuppressed c = .ok true := by
  rw [isSuppressed, get_noWarn_silenced]
  simp only [bind, Except.bind, Setting.textFor, (noWarnNames_noWarnWith _ c).1, if_true]
  rfl

theorem Typed.silenced {i : Item} (h : i.Typed) (c : Category) : (i.silenced c).Typed := by
  refine ⟨h.spec, fun m hm => ?_⟩
  rcases List.mem_cons.1 hm with rfl | hm
  · exact ⟨_, rfl⟩
  · exact h.metadata m hm

end Item

/-! ## Suppressions of labels -/

theorem Suppression.ignores_ofRules {rules : List (String × List Category)}
    (hn : (rules.map fun rule => Text.fold rule.1).Nodup) (hstar : ∀ rule ∈ rules, Text.fold rule.1 ≠ everywhere)
    (r : Reference) (c : Category) :
    (ofRules rules []).ignores r c = true ↔ ∃ rule ∈ rules, Text.fold rule.1 = Text.fold r.label ∧ c ∈ rule.2 := by
  simp only [ignores_ofRules_iff, Lists.isLast_iff_of_nodup_map hn, and_assoc]
  constructor
  · rintro (⟨_, hused, -⟩ | ⟨rule, hrule, hlabel, -⟩ | hfound)
    · cases hused
    · exact absurd hlabel (hstar rule hrule)
    · exact hfound
  · exact fun hfound => Or.inr (Or.inr hfound)

def Kind.all : List Kind := [.direct, .project, .package]

theorem Kind.mem_all (kind : Kind) : kind ∈ all := by
  cases kind <;> decide

namespace Items
variable (items : Items) (chosen : Kind → Item → Bool)

def silenced : Items :=
  let silence (kind : Kind) (i : Item) := if chosen kind i then i.silenced (Category.ofKind kind) else i
  { items with
    references := items.references.map (silence .direct)
    projects := items.projects.map (silence .project)
    packages := items.packages.map (silence .package) }

/-- The labels of the chosen items of a kind, without regard to case. -/
def chosenLabels (kind : Kind) : List String :=
  ((items.ofKind kind).filter (chosen kind)).map fun i => Text.fold (i.label kind)

/-- Suppressions that give the label of each chosen item the categories of the chosen items with that label. -/
def silencing : List (String × List String) :=
  (Kind.all.flatMap (items.chosenLabels chosen)).eraseDups.map fun label =>
    (label, (Kind.all.filter fun kind => (items.chosenLabels chosen kind).contains label).map fun kind =>
      (Category.ofKind kind).id)

/-- Whether no chosen item has a reference's kind and label. -/
def keeps (r : Reference) : Bool := !(items.chosenLabels chosen r.kind).contains (Text.fold r.label)

variable {items chosen}

theorem mem_chosenLabels_iff {kind : Kind} {label : String} :
    label ∈ items.chosenLabels chosen kind ↔
      ∃ i ∈ items.ofKind kind, chosen kind i = true ∧ Text.fold (i.label kind) = label := by
  simp only [chosenLabels, List.mem_map, List.mem_filter, and_assoc]

theorem fold_of_mem_chosenLabels {kind : Kind} {label : String} (h : label ∈ items.chosenLabels chosen kind) :
    Text.fold label = label := by
  obtain ⟨i, -, -, rfl⟩ := mem_chosenLabels_iff.1 h
  exact Text.fold_fold _

/-- The labels of chosen items, each with the categories of the chosen items that have it. -/
def silencedLabels (items : Items) (chosen : Kind → Item → Bool) : List (String × List Category) :=
  (Kind.all.flatMap (items.chosenLabels chosen)).eraseDups.map fun label =>
    (label, (Kind.all.filter fun kind => (items.chosenLabels chosen kind).contains label).map Category.ofKind)

theorem ofIds_silencing :
    Suppression.ofIds (items.silencing chosen) [] = .ok (.ofRules (items.silencedLabels chosen) []) := by
  have hread (kinds : List Kind) : (kinds.map fun kind => (Category.ofKind kind).id).filterMap Category.ofId? =
      kinds.map Category.ofKind := by
    simp [Category.ofId?_id]
  have hnamed : Suppression.named (items.silencing chosen) = items.silencedLabels chosen := by
    simp only [Suppression.named, silencing, silencedLabels, List.map_map, Function.comp_def, hread]
  rw [← hnamed]
  refine Suppression.ofIds_eq_ok fun rule hrule id hid => ?_
  obtain ⟨label, -, rfl⟩ := List.mem_map.1 hrule
  obtain ⟨kind, -, rfl⟩ := List.mem_map.1 hid
  rw [Category.ofId?_id]
  rfl

theorem exists_chosenLabel {rule : String × List Category} (h : rule ∈ items.silencedLabels chosen) :
    ∃ kind, rule.1 ∈ items.chosenLabels chosen kind := by
  obtain ⟨label, hlabel, rfl⟩ := List.mem_map.1 h
  obtain ⟨kind, -, hkind⟩ := List.mem_flatMap.1 (List.mem_eraseDups.1 hlabel)
  exact ⟨kind, hkind⟩

theorem fold_silencedLabel {rule : String × List Category} (h : rule ∈ items.silencedLabels chosen) :
    Text.fold rule.1 = rule.1 := by
  obtain ⟨kind, hkind⟩ := exists_chosenLabel h
  exact fold_of_mem_chosenLabels hkind

theorem nodup_silencedLabels : ((items.silencedLabels chosen).map fun rule => Text.fold rule.1).Nodup := by
  have hlabels : ((items.silencedLabels chosen).map fun rule => Text.fold rule.1) =
      (Kind.all.flatMap (items.chosenLabels chosen)).eraseDups := by
    rw [List.map_congr_left fun rule => fold_silencedLabel, silencedLabels, List.map_map]
    exact List.map_id _
  rw [hlabels]
  exact Lists.nodup_eraseDups _

theorem silencedLabels_ne_everywhere
    (hstar : ∀ kind, ∀ i ∈ items.ofKind kind, i.label kind ≠ Suppression.everywhere) :
    ∀ rule ∈ items.silencedLabels chosen, Text.fold rule.1 ≠ Suppression.everywhere := by
  intro rule hrule
  obtain ⟨kind, hkind⟩ := exists_chosenLabel hrule
  obtain ⟨i, hi, -, hlabel⟩ := mem_chosenLabels_iff.1 hkind
  rw [← hlabel, Text.fold_fold]
  exact mt Text.fold_eq_star_iff.1 (hstar kind i hi)

theorem exists_silencedLabel_iff {label : String} {kind : Kind} :
    (∃ rule ∈ items.silencedLabels chosen, Text.fold rule.1 = label ∧ Category.ofKind kind ∈ rule.2) ↔
      label ∈ items.chosenLabels chosen kind := by
  constructor
  · rintro ⟨rule, hrule, rfl, hcategory⟩
    rw [fold_silencedLabel hrule]
    obtain ⟨label, -, rfl⟩ := List.mem_map.1 hrule
    obtain ⟨k, hk, he⟩ := List.mem_map.1 hcategory
    rw [← Category.ofKind_injective he]
    exact List.contains_iff_mem.1 (List.mem_filter.1 hk).2
  · intro h
    have hlabel : label ∈ (Kind.all.flatMap (items.chosenLabels chosen)).eraseDups :=
      List.mem_eraseDups.2 (List.mem_flatMap.2 ⟨kind, kind.mem_all, h⟩)
    refine ⟨_, List.mem_map_of_mem hlabel, fold_of_mem_chosenLabels h, ?_⟩
    exact List.mem_map_of_mem (List.mem_filter.2 ⟨kind.mem_all, List.contains_iff_mem.2 h⟩)

theorem exists_suppression (chosen : Kind → Item → Bool)
    (hstar : ∀ kind, ∀ i ∈ items.ofKind kind, i.label kind ≠ Suppression.everywhere) :
    ∃ s, Suppression.ofIds (items.silencing chosen) [] = .ok s ∧
      ∀ r, s.ignores r (Category.ofKind r.kind) = !items.keeps chosen r := by
  refine ⟨_, ofIds_silencing, fun r => ?_⟩
  rw [keeps, Bool.not_not, Bool.eq_iff_iff, List.contains_iff_mem, ← exists_silencedLabel_iff]
  exact Suppression.ignores_ofRules nodup_silencedLabels (silencedLabels_ne_everywhere hstar) r _

theorem keeps_of_label (hn : ∀ kind, ((items.ofKind kind).map fun i => Text.fold (i.label kind)).Nodup)
    {kind : Kind} {i : Item} (hi : i ∈ items.ofKind kind) {r : Reference} (hkind : r.kind = kind)
    (hlabel : r.label = i.label kind) :
    items.keeps chosen r = !chosen kind i := by
  rw [keeps, hkind, hlabel]
  congr 1
  rw [Bool.eq_iff_iff, List.contains_iff_mem, mem_chosenLabels_iff]
  constructor
  · rintro ⟨i', hi', hchosen, he⟩
    rwa [← List.inj_on_of_nodup_map (hn kind) hi' hi he]
  · exact fun h => ⟨i, hi, h, rfl⟩

/-- Each chosen item declares nothing once it is silenced, and the others what they declared before. -/
theorem exists_declareAll_silenced {d : Disk} {s : Scope} {c : Contributions} {kind : Kind}
    {keep : Reference → Bool} {resolved is : List Item} (hr : ∀ i ∈ resolved, i.Typed) (hi : ∀ i ∈ is, i.Typed)
    (hkeep : ∀ i ∈ is, ∀ r : Reference, r.kind = kind → r.label = i.label kind → keep r = !chosen kind i) :
    ∃ rs, DeclareAll (decide d s resolved c kind) is rs ∧
      DeclareAll (decide d s resolved c kind)
        (is.map fun i => if chosen kind i then i.silenced (Category.ofKind kind) else i) (rs.filter keep) := by
  induction is with
  | nil => exact ⟨[], .nil _, .nil _⟩
  | cons i is ih =>
    obtain ⟨rs', hrest, hsilent⟩ := ih (fun j hj => hi j (List.mem_cons_of_mem _ hj))
      fun j hj => hkeep j (List.mem_cons_of_mem _ hj)
    have hti := hi i List.mem_cons_self
    obtain ⟨suppressed, hs⟩ := hti.isSuppressed (Category.ofKind kind)
    obtain ⟨rs, hdeclares, -, hrs⟩ := declares_decide (d := d) (s := s) (c := c) kind hti hr hs
    have hrs' : ∀ r ∈ rs, keep r = !chosen kind i := fun r hr =>
      hkeep i List.mem_cons_self r (hrs r hr).1 (hrs r hr).2
    refine ⟨rs ++ rs', .cons hdeclares hrest, ?_⟩
    rw [List.map_cons, List.filter_append]
    refine .cons ?_ hsilent
    by_cases hc : chosen kind i = true
    · obtain ⟨none, hnone, hnil, -⟩ := declares_decide (d := d) (s := s) (c := c) kind (hti.silenced _) hr
        (i.isSuppressed_silenced (Category.ofKind kind))
      rw [if_pos hc, List.filter_eq_nil_iff.2 fun r hr => by simp [hrs' r hr, hc]]
      rwa [hnil rfl] at hnone
    · rw [if_neg hc, List.filter_eq_self.2 fun r hr => by simp [hrs' r hr, hc]]
      exact hdeclares

theorem keepsTogether_keeps (items : Items) (chosen : Kind → Item → Bool) :
    Subject.KeepsTogether (items.keeps chosen) := by
  intro r r' hr hr' hkey
  rw [keeps, keeps, hr, hr']
  exact congrArg _ (congrArg _ hkey)

/-- What is collected from the silenced items is what is kept of all that is collected. -/
theorem exists_collect_silenced (chosen : Kind → Item → Bool) (ht : items.Typed)
    (hn : ∀ kind, ((items.ofKind kind).map fun i => Text.fold (i.label kind)).Nodup) (d : Disk)
    (c : Contributions) :
    ∃ rs : List Reference, items.collect d c = .ok (rs.map Declaration.ofReference) ∧
      (items.silenced chosen).collect d c = .ok ((rs.filter (items.keeps chosen)).map Declaration.ofReference) := by
  obtain ⟨s, hs⟩ := ht.scope d
  have hdeclared (kind : Kind) : ∃ rs, DeclareAll (decide d s items.resolved c kind) (items.ofKind kind) rs ∧
      DeclareAll (decide d s items.resolved c kind)
        ((items.ofKind kind).map fun i => if chosen kind i then i.silenced (Category.ofKind kind) else i)
        (rs.filter (items.keeps chosen)) :=
    exists_declareAll_silenced ht.resolved (ht.ofKind kind) fun i hi r hkind hlabel =>
      keeps_of_label hn hi hkind hlabel
  choose rs hall hsilent using hdeclared
  have hkind (kind : Kind) : (items.silenced chosen).ofKind kind =
      (items.ofKind kind).map fun i => if chosen kind i then i.silenced (Category.ofKind kind) else i := by
    cases kind <;> rfl
  refine ⟨rs .direct ++ rs .project ++ rs .package, collect_eq_ok hs hall, ?_⟩
  rw [List.filter_append, List.filter_append]
  have hscope : (items.silenced chosen).scope d = .ok s := hs
  have hkept (kind : Kind) : DeclareAll (decide d s (items.silenced chosen).resolved c kind)
      ((items.silenced chosen).ofKind kind) ((fun kind => (rs kind).filter (items.keeps chosen)) kind) :=
    hkind kind ▸ hsilent kind
  exact collect_eq_ok hscope hkept

end Items

/-- Whichever items of texts are to be kept quiet, by their own metadata or by suppressions of their labels: all is
collected, and the same is told. -/
theorem silenced_items_told_alike {items : Items} (ht : items.Typed)
    (hn : ∀ kind, ((items.ofKind kind).map fun i => Text.fold (i.label kind)).Nodup)
    (hstar : ∀ kind, ∀ i ∈ items.ofKind kind, i.label kind ≠ Suppression.everywhere) (chosen : Kind → Item → Bool)
    (d : Disk) (c : Contributions) (j : Judge) (used : List String) (docEnabled : Bool) :
    ∃ rs rs' s, items.collect d c = .ok (rs.map Declaration.ofReference) ∧
      (items.silenced chosen).collect d c = .ok (rs'.map Declaration.ofReference) ∧
      Suppression.ofIds (items.silencing chosen) [] = .ok s ∧
      Diagnostic.emit (fun _ _ => false) docEnabled (j.verdicts rs' used) =
        Diagnostic.emit s.ignores docEnabled (j.verdicts rs used) := by
  obtain ⟨rs, hall, hsilent⟩ := Items.exists_collect_silenced chosen ht hn d c
  obtain ⟨s, hs, hignores⟩ := Items.exists_suppression chosen hstar
  refine ⟨rs, _, s, hall, hsilent, hs, ?_⟩
  have hkept (v : Verdict) : items.keeps chosen v.reference =
      !s.ignores v.reference (Category.ofKind v.reference.kind) := by
    rw [hignores, Bool.not_not]
  rw [Diagnostic.emit, Diagnostic.emit, Diagnostic.ofVerdicts_eq_filterMap, Diagnostic.ofVerdicts_eq_filterMap,
    Judge.verdicts_filter (Items.keepsTogether_keeps items chosen)]
  simp only [hkept, Bool.not_false, List.filter_true]

namespace Items

def mixed : Items where
  references := [written "Maß" [("NoWarn", "X1; x2")], written "b" []]
  resolved := [written "/l/b.dll" [("OriginalItemSpec", "B")]]
  projects := [written "../mass/mass.proj" [("OriginalProjectReferenceItemSpec", "MASS")]]
  packages := [written "P" [], written "q" [("NoWarn", "")]]
  frameworkAssemblies := [.text "System"]
  packageRoot := .null

/-- The project has the label of the chosen reference, and is told of. -/
theorem mixed_told_alike :
    let chosen : Kind → Item → Bool := fun kind i =>
      kind != .project && (i.label kind == "Maß" || i.label kind == "q")
    mixed.silencing chosen = [("mass", ["RT0001"]), ("q", ["RT0003"])] ∧
      ∃ rs rs' s, mixed.collect (Disk.empty ["w"]) ⟨.ofList [("p", ["/p.dll"]), ("q", ["/q.dll"])], .empty⟩ =
          .ok (rs.map Declaration.ofReference) ∧
        (mixed.silenced chosen).collect (Disk.empty ["w"])
          ⟨.ofList [("p", ["/p.dll"]), ("q", ["/q.dll"])], .empty⟩ =
          .ok (rs'.map Declaration.ofReference) ∧
        Suppression.ofIds (mixed.silencing chosen) [] = .ok s ∧
        Diagnostic.emit (fun _ _ => false) true (Judge.chain.verdicts rs' ["/Q.dll"]) =
          Diagnostic.emit s.ignores true (Judge.chain.verdicts rs ["/Q.dll"]) := by
  intro chosen
  have ht : mixed.Typed := by
    refine ⟨?_, ?_, ?_, ?_, fun v hv => ⟨_, List.mem_singleton.1 hv⟩, Or.inl rfl⟩ <;>
      simp [mixed, typed_written]
  have hn (kind : Kind) : ((mixed.ofKind kind).map fun i => Text.fold (i.label kind)).Nodup := by
    cases kind <;> decide +kernel
  have hstar (kind : Kind) : ∀ i ∈ mixed.ofKind kind, i.label kind ≠ Suppression.everywhere := by
    cases kind <;> decide +kernel
  exact ⟨by decide +kernel, silenced_items_told_alike ht hn hstar chosen _ _ _ _ _⟩

end Items
end ReferenceAudit
