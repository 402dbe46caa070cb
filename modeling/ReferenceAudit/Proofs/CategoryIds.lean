import ReferenceAudit.Proofs.Folding
import ReferenceAudit.Proofs.Locations
import ReferenceAudit.Suppression

/-!
# Ids are read alike in lists and alone

A list of ids is searched by folded forms, and a single id is read by its upper case. The two mappings differ,
and either can give several characters for one; but neither makes a character of an id out of anything but the
letters of ids. Main statement: a list names the categories as which its entries are read, so two lists put
together name what one of them names.
-/
namespace ReferenceAudit

namespace Text
open CaseTables
variable {runs : List Run} {expansions : List Expansion}

def idChars : List Char := ['R', 'T', 'r', 't', '0', '1', '2', '3', '9']

def upperIdChars : List Char := ['R', 'T', '0', '1', '2', '3', '9']

def foldedIdChars : List Char := ['r', 't', '0', '1', '2', '3', '9']

/-- The changes of a table that give nothing but some characters are changes of characters of ids. -/
def ChangesOnlyIds (runs : List Run) (expansions : List Expansion) (given : List Char) : Prop :=
  ∀ x ∈ changes runs expansions, (∀ n ∈ x.2, (bits (given.map Char.toNat)).testBit n = true) →
    x.1 ∈ idChars.map Char.toNat

instance (given : List Char) : Decidable (ChangesOnlyIds runs expansions given) :=
  inferInstanceAs (Decidable (∀ x ∈ changes runs expansions, _))

theorem changesOnlyIds : ChangesOnlyIds foldRuns foldExpansions foldedIdChars ∧
    ChangesOnlyIds upperRuns upperExpansions upperIdChars := by
  decide +kernel

theorem mem_map_toNat_of_ofNat_mem {given : List Char} (hzero : '\x00' ∉ given) {n : Nat}
    (h : Char.ofNat n ∈ given) :
    n ∈ given.map Char.toNat := by
  by_cases hvalid : n.isValidChar
  · have hchar : Char.ofNat n = Char.ofNatAux n hvalid := dif_pos hvalid
    exact List.mem_map.2 ⟨_, h, congrArg Char.toNat hchar⟩
  · have hnumber : Char.ofNat n = '\x00' := dif_neg hvalid
    exact absurd (hnumber ▸ h) hzero

theorem ChangesOnlyIds.mem_idChars {given : List Char} (h : ChangesOnlyIds runs expansions given)
    (hzero : '\x00' ∉ given) (hkeeps : given ⊆ idChars) {c : Char}
    (hgiven : ∀ d ∈ mapped runs expansions c, d ∈ given) : c ∈ idChars := by
  rcases mapped_cases runs expansions c with hkept | ⟨image, hchange, hmapped⟩
  · exact hkeeps (hgiven c (hkept ▸ List.mem_singleton_self c))
  · have hbits : ∀ n ∈ image, (bits (given.map Char.toNat)).testBit n = true := by
      intro n hn
      refine testBit_bits (mem_map_toNat_of_ofNat_mem hzero (hgiven _ ?_))
      rw [hmapped]
      exact List.mem_map_of_mem hn
    obtain ⟨c', hc', hnumber⟩ := List.mem_map.1 (h _ hchange hbits)
    exact Char.toNat_inj.1 hnumber ▸ hc'

theorem folded_upper_of_mem_idChars {c : Char} (h : c ∈ idChars) :
    (upperChar c).flatMap foldChar = foldChar c ∧ (foldChar c).flatMap upperChar = upperChar c := by
  -- a list of characters is gone through, where to decide a statement about all of them would go through
  -- every character
  have hfold : idChars.map (fun c => (upperChar c).flatMap foldChar) = idChars.map foldChar := by decide +kernel
  have hupper : idChars.map (fun c => (foldChar c).flatMap upperChar) = idChars.map upperChar := by decide +kernel
  exact ⟨List.map_inj_left.1 hfold c h, List.map_inj_left.1 hupper c h⟩

theorem upperChar_of_mem_upperIdChars {c : Char} (h : c ∈ upperIdChars) : upperChar c = [c] := by
  have hupper : upperIdChars.map upperChar = upperIdChars.map fun c => [c] := by decide +kernel
  exact List.map_inj_left.1 hupper c h

theorem mem_foldedIdChars {c d : Char} (h : c ∈ upperIdChars) (hd : d ∈ foldChar c) : d ∈ foldedIdChars := by
  have hfold : upperIdChars.flatMap foldChar = foldedIdChars := by decide +kernel
  exact hfold ▸ List.mem_flatMap.2 ⟨c, h, hd⟩

theorem toList_upper (s : String) : (upper s).toList = s.toList.flatMap upperChar := String.toList_ofList

theorem folded_upper_of_idChars {s : String} (h : ∀ c ∈ s.toList, c ∈ idChars) :
    fold (upper s) = fold s ∧ upper (fold s) = upper s := by
  constructor <;> apply String.toList_injective
  · rw [toList_fold, toList_fold, toList_upper, List.flatMap_assoc]
    exact List.flatMap_congr fun c hc => (folded_upper_of_mem_idChars (h c hc)).1
  · rw [toList_upper, toList_upper, toList_fold, List.flatMap_assoc]
    exact List.flatMap_congr fun c hc => (folded_upper_of_mem_idChars (h c hc)).2

end Text

namespace Category

theorem mem_all (c : Category) : c ∈ all := by
  cases c <;> decide

theorem id_chars (c : Category) : c.id.toList ⊆ Text.upperIdChars := by
  cases c <;> decide

theorem upper_id (c : Category) : Text.upper c.id = c.id := by
  apply String.toList_injective
  rw [Text.toList_upper, List.flatMap_congr fun x hx => Text.upperChar_of_mem_upperIdChars (id_chars c hx),
    List.flatMap_singleton']

theorem upper_eq_id_iff {text : String} {c : Category} :
    Text.upper text = c.id ↔ Text.fold text = Text.fold c.id := by
  constructor <;> intro h
  · have hchars : ∀ x ∈ text.toList, x ∈ Text.idChars := by
      intro x hx
      refine Text.changesOnlyIds.2.mem_idChars (by decide) (by decide) fun d hd => id_chars c ?_
      rw [← h, Text.toList_upper]
      exact List.mem_flatMap.2 ⟨x, hx, hd⟩
    rw [← (Text.folded_upper_of_idChars hchars).1, h]
  · have hfolded : ∀ d ∈ (Text.fold c.id).toList, d ∈ Text.foldedIdChars := by
      intro d hd
      rw [Text.toList_fold] at hd
      obtain ⟨x, hx, hd⟩ := List.mem_flatMap.1 hd
      exact Text.mem_foldedIdChars (id_chars c hx) hd
    have hchars : ∀ x ∈ text.toList, x ∈ Text.idChars := by
      intro x hx
      refine Text.changesOnlyIds.1.mem_idChars (by decide) (by decide) fun d hd => hfolded d ?_
      rw [← h, Text.toList_fold]
      exact List.mem_flatMap.2 ⟨x, hx, hd⟩
    have hid : ∀ x ∈ c.id.toList, x ∈ Text.idChars := by
      have hupper : Text.upperIdChars ⊆ Text.idChars := by decide
      exact fun x hx => hupper (id_chars c hx)
    calc Text.upper text = Text.upper (Text.fold text) := (Text.folded_upper_of_idChars hchars).2.symm
      _ = Text.upper (Text.fold c.id) := by rw [h]
      _ = Text.upper c.id := (Text.folded_upper_of_idChars hid).2
      _ = c.id := upper_id c

theorem ofId?_eq_some_iff {text : String} {c : Category} :
    ofId? text = some c ↔ Text.fold (Text.trim text) = Text.fold c.id := by
  have hread {found : Category} (h : ofId? text = some found) : found.id = Text.upper (Text.trim text) := by
    have hfound := List.find?_some h
    exact beq_iff_eq.1 hfound
  rw [← upper_eq_id_iff]
  constructor
  · exact fun h => (hread h).symm
  · intro h
    cases hfind : ofId? text with
    | none =>
      have hnone := List.find?_eq_none.1 hfind c (mem_all c)
      exact absurd (beq_iff_eq.2 h.symm) hnone
    | some found => exact congrArg some (id_injective ((hread hfind).trans h))

theorem ofId?_id (c : Category) : ofId? c.id = some c := by
  have htrim : Text.trim c.id = c.id := by
    cases c <;> decide
  rw [ofId?_eq_some_iff, htrim]

end Category

theorem noWarnNames_iff {list : String} {c : Category} :
    noWarnNames list c.id = true ↔ ∃ entry ∈ Text.splitOn ';' list, Category.ofId? entry = some c := by
  simp only [noWarnNames, Bool.and_eq_true, bne_iff_ne, List.any_eq_true, beq_iff_eq, Category.ofId?_eq_some_iff]
  constructor
  · exact fun h => h.2
  · rintro ⟨entry, hentry, hfold⟩
    refine ⟨?_, entry, hentry, hfold⟩
    -- the only entry of an empty list is empty, and no id is
    rintro rfl
    have hempty : Text.splitOn ';' "" = [""] ∧ Text.trim "" = "" ∧ Text.fold "" = "" := by decide +kernel
    rw [hempty.1, List.mem_singleton] at hentry
    rw [hentry, hempty.2.1, hempty.2.2] at hfold
    have hid : c.id = "" := Text.fold_eq_empty_iff.1 hfold.symm
    revert hid
    cases c <;> decide

/-- **Lists of ids and single ids are read alike.** A list names a category exactly if one of its entries, whatever
else stands between the semicolons, is read as that category; and of two lists put together each keeps its own. -/
theorem noWarnNames_as_read (c : Category) :
    (∀ list, noWarnNames list c.id = true ↔ ∃ entry ∈ Text.splitOn ';' list, Category.ofId? entry = some c) ∧
      ∀ list list', noWarnNames (list ++ ";" ++ list') c.id = true ↔
        noWarnNames list c.id = true ∨ noWarnNames list' c.id = true := by
  refine ⟨fun list => noWarnNames_iff, fun list list' => ?_⟩
  have hentries : Text.splitOn ';' (list ++ ";" ++ list') = Text.splitOn ';' list ++ Text.splitOn ';' list' :=
    Text.splitOn_append ';' list list'
  simp only [noWarnNames_iff, hentries, List.mem_append]
  constructor
  · rintro ⟨entry, hentry | hentry, hread⟩
    · exact Or.inl ⟨entry, hentry, hread⟩
    · exact Or.inr ⟨entry, hentry, hread⟩
  · rintro (⟨entry, hentry, hread⟩ | ⟨entry, hentry, hread⟩)
    · exact ⟨entry, Or.inl hentry, hread⟩
    · exact ⟨entry, Or.inr hentry, hread⟩

/-- White space of any kind may stand around an entry; letters that only look alike count for nothing. -/
example : noWarnNames "RT0002;;\u2003rt0001\u00A0" "RT0001" = true ∧ noWarnNames "ʀT0001" "RT0001" = false := by
  decide +kernel

end ReferenceAudit
