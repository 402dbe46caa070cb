import Mathlib.Data.List.DropRight
import ReferenceAudit.Proofs.Folding
import ReferenceAudit.Proofs.Lists
import ReferenceAudit.Store.UsedReport

/-!
# The modules on the lines of a report

A line that starts behind a line end and ends in a line feed is a line of the whole text. The modules of a
report are its lines without the white space around them, and folding a text leaves its white space where it is
and brings no other. Main statement: of the names that stand alone on a line of a report, the report has the
keys of those that have no white space at their ends and no line end inside, and of no others.
-/
namespace ReferenceAudit

namespace Text

section Lines
variable {c : Char} {cs before rest : List Char}

theorem lines_cons (h : c = '\r' → cs.head? ≠ some '\n') :
    lines (c :: cs) = if isLineEnd c then [] :: lines cs else match lines cs with
      | [] => [[c]]
      | l :: ls => (c :: l) :: ls := by
  have hpair : ∀ tail, c = '\r' → cs = '\n' :: tail → False := by
    rintro _ hreturn rfl
    exact h hreturn rfl
  exact lines.eq_3 c cs hpair

theorem ne_return_of_isLineEnd (h : isLineEnd c = false) : c ≠ '\r' := by
  rintro rfl
  exact absurd h (by decide)

theorem lines_ne_nil (c : Char) (cs : List Char) : lines (c :: cs) ≠ [] := by
  by_cases hpair : c = '\r' ∧ cs.head? = some '\n'
  · obtain ⟨rfl, hfeed⟩ := hpair
    obtain ⟨tail, rfl⟩ : ∃ tail, cs = '\n' :: tail := List.head?_eq_some_iff.1 hfeed
    simp [lines]
  · rw [lines_cons fun hreturn hfeed => hpair ⟨hreturn, hfeed⟩]
    split
    · simp
    · split <;> simp

def Unbroken (cs : List Char) : Prop := ∀ c ∈ cs, isLineEnd c = false

theorem unbroken_iff : Unbroken cs ↔ ∀ c, isLineEnd c = true → c ∉ cs := by
  simp only [Unbroken, ← Bool.not_eq_true]
  exact ⟨fun h c hc hm => h c hm hc, fun h c hm hc => h c hc hm⟩

theorem unbroken_of_mem_lines {l : List Char} (h : l ∈ lines cs) : Unbroken l := by
  have hnil : Unbroken [] := by
    intro c hc
    cases hc
  induction cs using lines.induct generalizing l with
  | case1 => cases h
  | case2 cs ih =>
    rw [lines] at h
    rcases List.mem_cons.1 h with rfl | h
    · exact hnil
    · exact ih h
  | case3 c cs hpair hc ih =>
    rw [lines.eq_3 c cs hpair, if_pos hc] at h
    rcases List.mem_cons.1 h with rfl | h
    · exact hnil
    · exact ih h
  | case4 c cs hpair hc hlines _ =>
    rw [lines.eq_3 c cs hpair, if_neg hc, hlines] at h
    rw [List.mem_singleton.1 h]
    simpa [Unbroken] using hc
  | case5 c cs hpair hc first others hlines ih =>
    rw [lines.eq_3 c cs hpair, if_neg hc, hlines] at h
    rcases List.mem_cons.1 h with rfl | h
    · have hfirst : Unbroken first := ih (hlines ▸ List.mem_cons_self)
      simpa [Unbroken, hc] using hfirst
    · exact ih (hlines ▸ List.mem_cons_of_mem _ h)

theorem lines_append_lineFeed (h : Unbroken cs) (rest : List Char) :
    lines (cs ++ '\n' :: rest) = cs :: lines rest := by
  induction cs with
  | nil => rfl
  | cons c cs ih =>
    have hc : isLineEnd c = false := h c List.mem_cons_self
    rw [List.cons_append, lines_cons fun hreturn => absurd hreturn (ne_return_of_isLineEnd hc), hc,
      ih fun x hx => h x (List.mem_cons_of_mem _ hx)]
    rfl

theorem lines_append (hend : ∀ c ∈ before.getLast?, isLineEnd c = true) (hnext : rest.head? ≠ some '\n') :
    lines (before ++ rest) = lines before ++ lines rest := by
  have htail {c : Char} {cs : List Char} (h : ∀ x ∈ (c :: cs).getLast?, isLineEnd x = true) :
      ∀ x ∈ cs.getLast?, isLineEnd x = true := by
    intro x hx
    refine h x ?_
    rw [List.getLast?_cons, Option.mem_def.1 hx]
    rfl
  induction before using lines.induct with
  | case1 => rfl
  | case2 cs ih => simp [lines, ih (htail (htail hend))]
  | case3 c cs hpair hc ih =>
    have hstill : c = '\r' → (cs ++ rest).head? ≠ some '\n' := by
      rintro rfl
      cases cs with
      | nil => exact hnext
      | cons c' cs =>
        intro hfeed
        exact hpair cs rfl (by simpa using hfeed)
    have hbefore : c = '\r' → cs.head? ≠ some '\n' := by
      rintro rfl hfeed
      obtain ⟨tail, rfl⟩ := List.head?_eq_some_iff.1 hfeed
      exact hpair tail rfl rfl
    rw [List.cons_append, lines_cons hstill, lines_cons hbefore, if_pos hc, if_pos hc, ih (htail hend),
      List.cons_append]
  | case4 c cs _ hc hnil _ =>
    cases cs with
    | nil => exact absurd (hend c rfl) hc
    | cons c' cs => exact absurd hnil (lines_ne_nil c' cs)
  | case5 c cs _ hc l ls hlines ih =>
    have hreturn : c ≠ '\r' := ne_return_of_isLineEnd (by simpa using hc)
    rw [List.cons_append, lines_cons fun h => absurd h hreturn, lines_cons fun h => absurd h hreturn, if_neg hc,
      if_neg hc, ih (htail hend), hlines]
    rfl

end Lines

/-- A name alone on a line of a text that a line feed ends. -/
def StandsAlone (name text : String) : Prop :=
  ∃ before after, text.toList = before ++ (name.toList ++ '\n' :: after) ∧ ∀ c ∈ before.getLast?, isLineEnd c = true

theorem mem_lines_of_standsAlone {name text : String} (h : StandsAlone name text) (hne : name ≠ "")
    (hplain : Unbroken name.toList) : name.toList ∈ lines text.toList := by
  obtain ⟨before, after, htext, hend⟩ := h
  have hnext : (name.toList ++ '\n' :: after).head? ≠ some '\n' := by
    cases hname : name.toList with
    | nil => exact absurd (String.toList_eq_nil_iff.1 hname) hne
    | cons c cs =>
      have hc := hplain c (hname ▸ List.mem_cons_self)
      intro hfeed
      have hfeed : c = '\n' := by simpa using hfeed
      rw [hfeed] at hc
      exact absurd hc (by decide)
  rw [htext, lines_append hend hnext, lines_append_lineFeed hplain]
  exact List.mem_append_right _ List.mem_cons_self

section Blanks

def blanks : List Nat :=
  List.range' 0x9 5 ++ List.range' 0x1C 5 ++ List.range' 0x2000 11 ++
    [0x85, 0xA0, 0x1680, 0x2028, 0x2029, 0x202F, 0x205F, 0x3000]

theorem toNat_mem_blanks {c : Char} (h : isBlank c = true) : c.toNat ∈ blanks := by
  simp only [isBlank, Bool.or_eq_true, Bool.and_eq_true, decide_eq_true_eq, beq_iff_eq] at h
  simp only [blanks, List.mem_append, List.mem_range'_1, List.mem_cons, List.not_mem_nil, or_false]
  omega

theorem foldTables_apart_blanks :
    bits (sources CaseTables.foldRuns CaseTables.foldExpansions) &&& bits blanks = 0 ∧
      bits (images CaseTables.foldRuns CaseTables.foldExpansions) &&& bits blanks = 0 := by
  decide +kernel

theorem foldChar_of_isBlank {c : Char} (h : isBlank c = true) : foldChar c = [c] := by
  apply mapped_of_not_mem
  intro hsource
  exact not_mem_of_land_bits foldTables_apart_blanks.1 hsource (toNat_mem_blanks h)

theorem isBlank_of_mem_foldChar {c d : Char} (h : d ∈ foldChar c) : isBlank d = isBlank c := by
  by_cases hc : isBlank c = true
  · rw [foldChar_of_isBlank hc] at h
    rw [List.mem_singleton.1 h]
  · rcases mem_mapped h with ⟨-, rfl⟩ | ⟨n, hn, rfl⟩
    · rfl
    · have himage : ¬ isBlank (Char.ofNat n) = true := by
        intro hblank
        exact not_mem_of_land_bits foldTables_apart_blanks.2 hn
          (toNat_ofNat_of_mem_images hn ▸ toNat_mem_blanks hblank)
      rw [Bool.not_eq_true] at hc himage
      rw [hc, himage]

theorem mem_flatMap_foldChar_of_isBlank {c : Char} {cs : List Char} (h : isBlank c = true) :
    c ∈ cs.flatMap foldChar ↔ c ∈ cs := by
  rw [List.mem_flatMap]
  constructor
  · rintro ⟨source, hsource, hc⟩
    have hblank : isBlank source = true := (isBlank_of_mem_foldChar hc).symm.trans h
    rw [foldChar_of_isBlank hblank] at hc
    rwa [List.mem_singleton.1 hc]
  · exact fun hc => ⟨c, hc, foldChar_of_isBlank h ▸ List.mem_singleton_self c⟩

theorem isBlank_of_isLineEnd {c : Char} (h : isLineEnd c = true) : isBlank c = true := by
  simp only [isLineEnd, isBlank, Bool.or_eq_true, Bool.and_eq_true, decide_eq_true_eq, beq_iff_eq] at h ⊢
  omega

/-- Line ends are blanks, so folding neither brings one nor takes one away. -/
theorem unbroken_flatMap_foldChar {cs : List Char} : Unbroken (cs.flatMap foldChar) ↔ Unbroken cs := by
  rw [unbroken_iff, unbroken_iff]
  refine forall₂_congr fun c hc => ?_
  rw [mem_flatMap_foldChar_of_isBlank (isBlank_of_isLineEnd hc)]

def IsBare (cs : List Char) : Prop :=
  (∀ c ∈ cs.head?, isBlank c = false) ∧ ∀ c ∈ cs.getLast?, isBlank c = false

theorem dropWhile_of_head? {cs : List Char} (h : ∀ c ∈ cs.head?, isBlank c = false) :
    cs.dropWhile isBlank = cs := by
  cases cs with
  | nil => rfl
  | cons c cs =>
    have hc := h c rfl
    exact List.dropWhile_cons_of_neg (by simp [hc])

theorem trimBoth_sublist {cs : List Char} : List.Sublist (trimBoth isBlank cs) cs :=
  (List.rdropWhile_prefix isBlank _).sublist.trans (List.dropWhile_sublist isBlank)

theorem trimBoth_of_isBare {cs : List Char} (h : IsBare cs) : trimBoth isBlank cs = cs := by
  have hlast : ∀ c ∈ cs.reverse.head?, isBlank c = false := by
    rw [List.head?_reverse]
    exact h.2
  rw [trimBoth, dropWhile_of_head? h.1, trimEnd, dropWhile_of_head? hlast, List.reverse_reverse]

theorem isBare_trimBoth (cs : List Char) : IsBare (trimBoth isBlank cs) := by
  have htrim : trimBoth isBlank cs = (cs.dropWhile isBlank).rdropWhile isBlank := rfl
  rw [htrim]
  constructor
  · intro c hc
    obtain ⟨rest, hrest⟩ := List.rdropWhile_prefix isBlank (cs.dropWhile isBlank)
    have hfirst : (cs.dropWhile isBlank).head? = some c := by
      rw [← hrest, List.head?_append, Option.mem_def.1 hc]
      rfl
    have hnot := List.head?_dropWhile_not isBlank cs
    rw [hfirst] at hnot
    exact hnot
  · intro c hc
    obtain ⟨hne, rfl⟩ := List.mem_getLast?_eq_getLast hc
    simpa using List.rdropWhile_last_not isBlank (cs.dropWhile isBlank) hne

theorem head?_flatMap_foldChar (cs : List Char) :
    (cs.flatMap foldChar).head?.map isBlank = cs.head?.map isBlank := by
  cases cs with
  | nil => rfl
  | cons c cs =>
    obtain ⟨d, ds, hfold⟩ := List.exists_cons_of_ne_nil (foldChar_ne_nil c)
    have hd : isBlank d = isBlank c := isBlank_of_mem_foldChar (hfold ▸ List.mem_cons_self)
    simp [List.flatMap_cons, hfold, hd]

theorem getLast?_flatMap_foldChar (cs : List Char) :
    (cs.flatMap foldChar).getLast?.map isBlank = cs.getLast?.map isBlank := by
  induction cs using List.reverseRecOn with
  | nil => rfl
  | append_singleton cs c _ =>
    obtain ⟨d, hlast⟩ : ∃ d, (foldChar c).getLast? = some d :=
      ⟨_, List.getLast?_eq_some_getLast (foldChar_ne_nil c)⟩
    have hd : isBlank d = isBlank c := isBlank_of_mem_foldChar (List.mem_of_getLast? hlast)
    simp [List.flatMap_append, List.getLast?_append, hlast, hd]

theorem isBare_flatMap_foldChar {cs : List Char} : IsBare (cs.flatMap foldChar) ↔ IsBare cs := by
  have hnone (o : Option Char) : (∀ c ∈ o, isBlank c = false) ↔ o.map isBlank ≠ some true := by
    cases o <;> simp
  rw [IsBare, IsBare, hnone, hnone, hnone, hnone, head?_flatMap_foldChar, getLast?_flatMap_foldChar]

end Blanks

end Text

namespace Store

/-- A name as reports have them: no white space at its ends and no line end inside. -/
def IsReportable (name : String) : Prop := Text.IsBare name.toList ∧ Text.Unbroken name.toList

theorem isReportable_of_mem_readUsed {text m : String} (h : m ∈ readUsed text) : IsReportable m := by
  rw [readUsed, List.mem_eraseDups] at h
  obtain ⟨cs, hcs, rfl⟩ := List.mem_map.1 h
  obtain ⟨line, hline, rfl⟩ := List.mem_map.1 (List.mem_filter.1 hcs).1
  rw [IsReportable, String.toList_ofList]
  refine ⟨Text.isBare_trimBoth line, fun c hc => Text.unbroken_of_mem_lines hline c ?_⟩
  exact Text.trimBoth_sublist.subset hc

theorem mem_readUsed_of_mem_lines {text m : String} (h : m.toList ∈ Text.lines text.toList)
    (hbare : Text.IsBare m.toList) (hne : m ≠ "") : m ∈ readUsed text := by
  rw [readUsed, List.mem_eraseDups]
  refine List.mem_map.2 ⟨m.toList, List.mem_filter.2 ⟨?_, ?_⟩, String.ofList_toList⟩
  · exact List.mem_map.2 ⟨m.toList, h, Text.trimBoth_of_isBare hbare⟩
  · simpa using hne

theorem isReportable_of_moduleKey_eq {m name : String} (h : moduleKey m = moduleKey name) (hm : IsReportable m) :
    IsReportable name := by
  have hfold : m.toList.flatMap Text.foldChar = name.toList.flatMap Text.foldChar := by
    simpa [moduleKey] using congrArg String.toList h
  constructor
  · rw [← Text.isBare_flatMap_foldChar, ← hfold, Text.isBare_flatMap_foldChar]
    exact hm.1
  · rw [← Text.unbroken_flatMap_foldChar, ← hfold, Text.unbroken_flatMap_foldChar]
    exact hm.2

/-- A report has the key of a name that stands alone on one of its lines exactly if the name is reportable. -/
theorem moduleKey_mem_readUsed_iff {text name : String} (h : Text.StandsAlone name text) (hne : name ≠ "") :
    moduleKey name ∈ (readUsed text).map moduleKey ↔ IsReportable name := by
  constructor
  · intro hkey
    obtain ⟨m, hm, hsame⟩ := List.mem_map.1 hkey
    exact isReportable_of_moduleKey_eq hsame (isReportable_of_mem_readUsed hm)
  · rintro ⟨hbare, hplain⟩
    have hline := Text.mem_lines_of_standsAlone h hne hplain
    exact List.mem_map_of_mem (mem_readUsed_of_mem_lines hline hbare hne)

end Store
end ReferenceAudit
