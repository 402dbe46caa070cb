import ReferenceAudit.Proofs.Lists
import ReferenceAudit.Proofs.Locations
import ReferenceAudit.Proofs.Subjects

/-!
# What printed diagnostics tell

Each diagnostic is printed on a line: first the category's id, in front of the label the kind of reference, and
behind it whether there is a caveat. Main statement: where no label holds a line feed, the same text is printed
only if the same references can be removed, in the same order and with the same caveats, and documentation is
missed in both or neither.
-/
namespace ReferenceAudit

theorem Text.join_injective {sep : Char} {lines lines' : List String}
    (h : ∀ line ∈ lines, line ≠ "" ∧ sep ∉ line.toList) (h' : ∀ line ∈ lines', line ≠ "" ∧ sep ∉ line.toList)
    (hsame : join (String.singleton sep) lines = join (String.singleton sep) lines') : lines = lines' := by
  have hsplit {ls : List String} (hls : ∀ line ∈ ls, line ≠ "" ∧ sep ∉ line.toList) :
      (splitOn sep (join (String.singleton sep) ls)).filter (· != "") = ls := by
    by_cases hn : ls = []
    · subst hn
      rfl
    · rw [splitOn_join hn fun line hm => (hls line hm).2, List.filter_eq_self]
      exact fun line hm => bne_iff_ne.2 (hls line hm).1
  rw [← hsplit h, hsame, hsplit h']

namespace Diagnostic

/-- Every id has six characters, so the category stands first on a line and can be told from it. -/
theorem take_text (d : Diagnostic) : d.text.toList.take 6 = d.category.id.toList := by
  obtain ⟨category, message, label, classification⟩ := d
  cases category <;> simp [text, Category.id]

theorem category_eq_of_text_eq {d d' : Diagnostic} (h : d.text = d'.text) : d.category = d'.category := by
  have hids : d.category.id.toList = d'.category.id.toList := by rw [← take_text, h, take_text]
  exact Category.id_injective (String.toList_injective hids)

/-- A reference that can be removed, as it is told of. -/
structure Removal where
  kind : Kind
  label : String
  classification : Classification
  deriving DecidableEq

namespace Removal

def hasCaveat (r : Removal) : Bool := r.kind = .package && r.classification = .removableWithCaveat

/-- What is used is not removed, and only packages bring in others for which there is a caveat. -/
structure IsProper (r : Removal) : Prop where
  removable : r.classification ≠ .used
  caveat : r.classification = .removableWithCaveat → r.kind = .package

def closing (r : Removal) : String :=
  if r.hasCaveat then " can be removed" ++ Diagnostic.caveat else " can be removed"

def diagnostic (r : Removal) : Diagnostic :=
  ⟨Category.ofKind r.kind, r.kind.token ++ " " ++ (r.label ++ r.closing), r.label, some r.classification⟩

variable {r r' : Removal}

theorem text_diagnostic (r : Removal) :
    r.diagnostic.text = (Category.ofKind r.kind).id ++ ": " ++
      (r.kind.token ++ " " ++ (r.label ++ r.closing)) := rfl

theorem lineFeed_not_mem_caveat : '\n' ∉ caveat.toList := by
  simp [caveat]

theorem getLast?_caveat : caveat.toList.getLast? = some ')' := by
  simp [caveat]

theorem lineFeed_not_mem_closing (r : Removal) : '\n' ∉ r.closing.toList := by
  cases hc : r.hasCaveat <;> simp [closing, hc, lineFeed_not_mem_caveat]

theorem getLast?_closing (r : Removal) : r.closing.toList.getLast? = some (if r.hasCaveat then ')' else 'd') := by
  cases hc : r.hasCaveat with
  | true =>
    rw [closing, if_pos hc, String.toList_append, List.getLast?_append, getLast?_caveat]
    rfl
  | false => simp [closing, hc]

theorem lineFeed_not_mem_text (h : '\n' ∉ r.label.toList) : '\n' ∉ r.diagnostic.text.toList := by
  obtain ⟨kind, label, classification⟩ := r
  rw [text_diagnostic]
  cases kind <;> simpa [Category.ofKind, Category.id, Kind.token] using ⟨h, lineFeed_not_mem_closing _⟩

theorem IsProper.classification_eq (h : r.IsProper) :
    r.classification = if r.hasCaveat then .removableWithCaveat else .removable := by
  obtain ⟨kind, label, classification⟩ := r
  obtain ⟨hremovable, hcaveat⟩ := h
  cases classification with
  | used => exact absurd rfl hremovable
  | removable => simp [hasCaveat]
  | removableWithCaveat => simpa [hasCaveat] using hcaveat

/-- A caveat shows at the end of a line, whatever label stands in front of it. -/
theorem hasCaveat_eq (h : r.label ++ r.closing = r'.label ++ r'.closing) : r.hasCaveat = r'.hasCaveat := by
  have hlast (r : Removal) : (r.label ++ r.closing).toList.getLast? = some (if r.hasCaveat then ')' else 'd') := by
    rw [String.toList_append, List.getLast?_append, getLast?_closing, Option.some_or]
  have hsame := hlast r
  rw [h, hlast, Option.some.injEq] at hsame
  cases hr : r.hasCaveat <;> cases hr' : r'.hasCaveat <;> simp_all

theorem eq_of_text_eq (hr : r.IsProper) (hr' : r'.IsProper) (h : r.diagnostic.text = r'.diagnostic.text) :
    r = r' := by
  have hkind : r.kind = r'.kind := Category.ofKind_injective (category_eq_of_text_eq h)
  rw [text_diagnostic, text_diagnostic, hkind, String.append_right_inj, String.append_right_inj] at h
  have hcaveat : r.hasCaveat = r'.hasCaveat := hasCaveat_eq h
  have hclosing : r.closing = r'.closing := by rw [closing, closing, hcaveat]
  rw [hclosing, String.append_left_inj] at h
  have hclassification : r.classification = r'.classification := by
    rw [hr.classification_eq, hr'.classification_eq, hcaveat]
  obtain ⟨kind, label, classification⟩ := r
  cases hkind
  cases h
  cases hclassification
  rfl

end Removal

/-- What can be removed by the verdicts that are not ignored, in order. -/
def removals (ignore : Ignoring) (vs : List Verdict) : List Removal :=
  (vs.filter fun v => v.classification.isRemovable && !ignore v.reference (Category.ofKind v.reference.kind)).map
    fun v => ⟨v.reference.kind, v.reference.label, v.classification⟩

theorem ofVerdict?_eq (v : Verdict) : ofVerdict? v = if v.classification.isRemovable then
    some (Removal.diagnostic ⟨v.reference.kind, v.reference.label, v.classification⟩) else none := by
  obtain ⟨⟨identity, kind, label⟩, classification, ownUsed, transitiveUsed⟩ := v
  rw [ofVerdict?]
  cases kind <;> cases classification <;>
    simp [Classification.isRemovable, say, Category.message?, Category.parts, Category.ofKind, Category.Part.fill?,
      arguments, Removal.diagnostic, Removal.closing, Removal.hasCaveat, Kind.token, String.join,
        String.append_assoc]

theorem ofVerdicts_eq_map (ignore : Ignoring) (vs : List Verdict) :
    ofVerdicts ignore vs = (removals ignore vs).map Removal.diagnostic := by
  rw [ofVerdicts_eq_filterMap, removals, List.map_map, ← List.filterMap_eq_map, List.filterMap_filter,
    List.filterMap_filter]
  refine List.filterMap_congr fun v _ => ?_
  rw [ofVerdict?_eq]
  cases v.classification.isRemovable <;> simp

theorem emit_eq (ignore : Ignoring) (docEnabled : Bool) (vs : List Verdict) : emit ignore docEnabled vs =
    (if docEnabled then [] else [docGeneration]) ++ (removals ignore vs).map Removal.diagnostic := by
  rw [emit, ofVerdicts_eq_map]

theorem text_ne_empty (d : Diagnostic) : d.text ≠ "" := by
  intro h
  have hid := d.take_text
  rw [h] at hid
  revert hid
  cases d.category <;> decide

theorem lineFeed_not_mem_docGeneration : '\n' ∉ docGeneration.text.toList := by
  simp [docGeneration, text, say, Category.message?, Category.parts, Category.Part.fill?, String.join, Category.id]

theorem text_docGeneration_ne (r : Removal) : docGeneration.text ≠ r.diagnostic.text := by
  intro h
  have hcategory : Category.docGeneration = Category.ofKind r.kind := category_eq_of_text_eq h
  revert hcategory
  cases r.kind <;> decide

/-- The lines of diagnostics say whether documentation is missed, and what can be removed. -/
theorem eq_of_lines_eq {docEnabled docEnabled' : Bool} {rs rs' : List Removal} (h : ∀ r ∈ rs, r.IsProper)
    (h' : ∀ r ∈ rs', r.IsProper)
    (hsame : ((if docEnabled then [] else [docGeneration]) ++ rs.map Removal.diagnostic).map text =
      ((if docEnabled' then [] else [docGeneration]) ++ rs'.map Removal.diagnostic).map text) :
    docEnabled = docEnabled' ∧ rs = rs' := by
  have hrest (hsame : (rs.map Removal.diagnostic).map text = (rs'.map Removal.diagnostic).map text) : rs = rs' := by
    rw [List.map_map, List.map_map] at hsame
    exact Lists.eq_of_map_eq (fun r hr r' hr' => Removal.eq_of_text_eq (h r hr) (h' r' hr')) hsame
  have hapart {rs rs' : List Removal} :
      (rs.map Removal.diagnostic).map text ≠ (docGeneration :: rs'.map Removal.diagnostic).map text := by
    cases rs with
    | nil => exact List.cons_ne_nil _ _ ∘ Eq.symm
    | cons r rs => exact fun hsame => text_docGeneration_ne r (List.cons.inj hsame).1.symm
  cases docEnabled <;> cases docEnabled'
  · exact ⟨rfl, hrest (List.cons.inj hsame).2⟩
  · exact absurd hsame.symm hapart
  · exact absurd hsame hapart
  · exact ⟨rfl, hrest hsame⟩

end Diagnostic

namespace Judge
open Diagnostic

theorem reference_of_mem_verdicts {j : Judge} {rs : List Reference} {used : List String} {v : Verdict}
    (h : v ∈ j.verdicts rs used) :
    v.reference ∈ rs ∧ (v.classification = .removableWithCaveat → v.reference.kind = .package) := by
  obtain ⟨s, hs, hv⟩ := List.mem_filterMap.1 h
  have hfirst : v.reference = s.first := reference_of_verdictOn? hv
  rw [hfirst]
  rcases Subject.single_or_package_of_mem hs with ⟨r, hr, -, rfl⟩ | ⟨first, others, hrs, hpackage, rfl⟩
  · refine ⟨hr, fun hcaveat => ?_⟩
    rw [verdictOn?, judge, judgeSingle] at hv
    split at hv
    · cases hv
    · split at hv
      · split at hv <;> cases hv <;> cases hcaveat
      · cases hv
        cases hcaveat
  · have hmem : first ∈ rs.filter (Subject.refersTo (packageKey first.label)) := hrs ▸ List.mem_cons_self
    exact ⟨(List.mem_filter.1 hmem).1, fun _ => hpackage⟩

theorem of_mem_removals {j : Judge} {rs : List Reference} {used : List String} {ignore : Ignoring} {r : Removal}
    (h : r ∈ removals ignore (j.verdicts rs used)) : r.IsProper ∧ ∃ q ∈ rs, q.label = r.label := by
  obtain ⟨v, hv, rfl⟩ := List.mem_map.1 h
  obtain ⟨hv, hkept⟩ := List.mem_filter.1 hv
  obtain ⟨hmem, hcaveat⟩ := reference_of_mem_verdicts hv
  have hremovable : v.classification.isRemovable = true := (Bool.and_eq_true_iff.1 hkept).1
  exact ⟨⟨bne_iff_ne.1 hremovable, hcaveat⟩, v.reference, hmem, rfl⟩

/-- **The printed text tells all.** Each reference that can be removed and is not ignored makes one diagnostic,
in the order of the verdicts. If no label holds a line feed, the text of the diagnostics says which references
these are, and whether documentation is missed. -/
theorem printed_text_tells_all (j j' : Judge) {rs rs' : List Reference} (h : ∀ r ∈ rs, '\n' ∉ r.label.toList)
    (h' : ∀ r ∈ rs', '\n' ∉ r.label.toList) (used used' : List String) (ignore ignore' : Ignoring)
    (docEnabled docEnabled' : Bool) :
    ((emit ignore docEnabled (j.verdicts rs used)).map fun d => (d.category, d.label, d.classification)) =
        (if docEnabled then [] else [(.docGeneration, "", none)]) ++
          (removals ignore (j.verdicts rs used)).map
            (fun r => (Category.ofKind r.kind, r.label, some r.classification)) ∧
      (texts (emit ignore docEnabled (j.verdicts rs used)) =
        texts (emit ignore' docEnabled' (j'.verdicts rs' used')) ↔
        docEnabled = docEnabled' ∧
          removals ignore (j.verdicts rs used) = removals ignore' (j'.verdicts rs' used')) := by
  have hlines {j : Judge} {rs : List Reference} (h : ∀ r ∈ rs, '\n' ∉ r.label.toList) {used : List String}
      {ignore : Ignoring} {docEnabled : Bool} : ∀ line ∈ ((if docEnabled then [] else [docGeneration]) ++
        (removals ignore (j.verdicts rs used)).map Removal.diagnostic).map text, line ≠ "" ∧
          '\n' ∉ line.toList := by
    intro line hline
    obtain ⟨d, hd, rfl⟩ := List.mem_map.1 hline
    refine ⟨d.text_ne_empty, ?_⟩
    rcases List.mem_append.1 hd with hdoc | hremoval
    · obtain rfl : d = docGeneration := by
        cases docEnabled
        · exact List.mem_singleton.1 hdoc
        · cases hdoc
      exact lineFeed_not_mem_docGeneration
    · obtain ⟨r, hr, rfl⟩ := List.mem_map.1 hremoval
      obtain ⟨-, q, hq, hlabel⟩ := of_mem_removals hr
      exact Removal.lineFeed_not_mem_text (hlabel ▸ h q hq)
  simp only [emit_eq]
  constructor
  · cases docEnabled <;> simp [docGeneration, Removal.diagnostic, Function.comp_def]
  · constructor
    · intro hsame
      exact eq_of_lines_eq (fun r hr => (of_mem_removals hr).1) (fun r hr => (of_mem_removals hr).1)
        (Text.join_injective (hlines h) (hlines h') hsame)
    · rintro ⟨rfl, hsame⟩
      rw [hsame]

def wordy : List Reference :=
  [⟨"/a.dll", .direct, "\x7b0\x7d can be removed\u2028RT0000: a"⟩, ⟨"/b.dll", .package, "b" ++ caveat⟩]

def terse : List Reference := [⟨"/a.dll", .direct, "\x7b0\x7d"⟩, ⟨"/b.dll", .package, "b"⟩]

/-- The words of the caveat in a label are not taken for a caveat, nor braces for a place to fill. -/
theorem wordy_printed :
    texts (emit (fun _ _ => false) true ((⟨none, none, []⟩ : Judge).verdicts wordy [])) ≠
      texts (emit (fun _ _ => false) true ((⟨none, none, []⟩ : Judge).verdicts terse [])) := by
  intro hsame
  have hwordy : ∀ r ∈ wordy, '\n' ∉ r.label.toList := by decide
  have hterse : ∀ r ∈ terse, '\n' ∉ r.label.toList := by decide
  obtain ⟨-, hiff⟩ := printed_text_tells_all ⟨none, none, []⟩ ⟨none, none, []⟩ hwordy hterse [] []
    (fun _ _ => false) (fun _ _ => false) true true
  have hremovals := (hiff.1 hsame).2
  revert hremovals
  decide

end Judge
end ReferenceAudit
