import ReferenceAudit.Proofs.ReportedReferences

/-!
# Reports as they are written

A report may name its modules with white space around them, on lines that end in any way, between lines that are
blank. White space in front of a text adds nothing to what its lines hold, so each line can be read on its own.
Main statement: a report gives exactly the modules that its lines name.
-/
namespace ReferenceAudit

namespace Text
variable {c : Char} {cs blanks name gap rest : List Char}

def AllBlank (cs : List Char) : Prop := ∀ c ∈ cs, isBlank c = true

instance : DecidablePred AllBlank := fun cs => decidable_of_iff (cs.all isBlank = true) List.all_eq_true

theorem AllBlank.append (h : AllBlank cs) (h' : AllBlank rest) : AllBlank (cs ++ rest) := by
  intro c hc
  rcases List.mem_append.1 hc with hc | hc
  · exact h c hc
  · exact h' c hc

/-- What lines hold: each without the white space around it, if anything is left. -/
def heldBy (ls : List (List Char)) : List (List Char) := (ls.map (trimBoth isBlank)).filter (!·.isEmpty)

theorem heldBy_cons (l : List Char) (ls : List (List Char)) : heldBy (l :: ls) = heldBy [l] ++ heldBy ls :=
  List.filter_append [trimBoth isBlank l] (ls.map (trimBoth isBlank))

theorem trimBoth_cons_of_isBlank (h : isBlank c = true) (cs : List Char) :
    trimBoth isBlank (c :: cs) = trimBoth isBlank cs := by
  rw [trimBoth, trimBoth, List.dropWhile_cons_of_pos h]

theorem heldBy_cons_blank (h : isBlank c = true) (l : List Char) (ls : List (List Char)) :
    heldBy ((c :: l) :: ls) = heldBy (l :: ls) := by
  rw [heldBy, List.map_cons, trimBoth_cons_of_isBlank h]
  rfl

theorem lines_cons_of_not_isLineEnd (h : isLineEnd c = false) (cs : List Char) :
    lines (c :: cs) = (c :: (lines cs).headD []) :: (lines cs).tail := by
  rw [lines_cons fun hreturn => absurd hreturn (ne_return_of_isLineEnd h), if_neg (by simp [h])]
  cases lines cs <;> rfl

theorem heldBy_lines_cons (h : isBlank c = true) (cs : List Char) :
    heldBy (lines (c :: cs)) = heldBy (lines cs) := by
  by_cases hpair : c = '\r' ∧ cs.head? = some '\n'
  · obtain ⟨rfl, hfeed⟩ := hpair
    obtain ⟨tail, rfl⟩ := List.head?_eq_some_iff.1 hfeed
    -- Both texts start with one line end, of two characters or of one.
    have hempty : Unbroken [] := fun c hc => absurd hc List.not_mem_nil
    have hone : lines ('\n' :: tail) = [] :: lines tail := lines_append_lineFeed hempty tail
    rw [lines, hone]
  · cases hend : isLineEnd c with
    | true =>
      rw [lines_cons fun hreturn hfeed => hpair ⟨hreturn, hfeed⟩, if_pos hend]
      rfl
    | false =>
      rw [lines_cons_of_not_isLineEnd hend, heldBy_cons_blank h]
      cases lines cs <;> rfl

theorem heldBy_lines_append (h : AllBlank blanks) (cs : List Char) :
    heldBy (lines (blanks ++ cs)) = heldBy (lines cs) := by
  induction blanks with
  | nil => rfl
  | cons c blanks ih =>
    rw [List.cons_append, heldBy_lines_cons (h c List.mem_cons_self), ih fun x hx =>
      h x (List.mem_cons_of_mem _ hx)]

theorem lines_gap (h : AllBlank gap) (hend : (∃ c ∈ gap, isLineEnd c = true) ∨ rest = []) :
    AllBlank ((lines (gap ++ rest)).headD []) ∧ heldBy (lines (gap ++ rest)).tail = heldBy (lines rest) := by
  induction gap with
  | nil =>
    obtain rfl : rest = [] := by simpa using hend
    simp [lines, AllBlank]
  | cons c gap ih =>
    have hgap : AllBlank gap := fun x hx => h x (List.mem_cons_of_mem _ hx)
    have hc : isBlank c = true := h c List.mem_cons_self
    rw [List.cons_append]
    cases hbreak : isLineEnd c with
    | true =>
      have hheld : heldBy (lines (gap ++ rest)) = heldBy (lines rest) := heldBy_lines_append hgap rest
      by_cases hpair : c = '\r' ∧ (gap ++ rest).head? = some '\n'
      · obtain ⟨rfl, hfeed⟩ := hpair
        obtain ⟨tail, htail⟩ := List.head?_eq_some_iff.1 hfeed
        have hfeedHeld : heldBy (lines ('\n' :: tail)) = heldBy (lines tail) := heldBy_lines_cons (by decide) tail
        rw [← hheld, htail, hfeedHeld, lines]
        simp [AllBlank]
      · rw [lines_cons fun hreturn hfeed => hpair ⟨hreturn, hfeed⟩, if_pos hbreak]
        exact ⟨by simp [AllBlank], hheld⟩
    | false =>
      have hrest : (∃ x ∈ gap, isLineEnd x = true) ∨ rest = [] := by simpa [hbreak] using hend
      obtain ⟨hfirst, hothers⟩ := ih hgap hrest
      rw [lines_cons_of_not_isLineEnd hbreak]
      refine ⟨?_, hothers⟩
      simpa [AllBlank, hc] using hfirst

/-- A name without line ends stands in front of whatever goes on behind it. -/
theorem lines_append_of_unbroken (h : Unbroken name) (hne : name ≠ []) (cs : List Char) :
    lines (name ++ cs) = (name ++ (lines cs).headD []) :: (lines cs).tail := by
  induction name with
  | nil => exact absurd rfl hne
  | cons c name ih =>
    have hc : isLineEnd c = false := h c List.mem_cons_self
    rw [List.cons_append, lines_cons_of_not_isLineEnd hc]
    cases name with
    | nil => rfl
    | cons c' name => rw [ih (fun x hx => h x (List.mem_cons_of_mem _ hx)) (by simp)]; rfl

theorem trimBoth_append_of_allBlank (hname : IsBare name) (hne : name ≠ []) (h : AllBlank blanks) :
    trimBoth isBlank (name ++ blanks) = name := by
  have hhead : ∀ c ∈ (name ++ blanks).head?, isBlank c = false := by
    rw [List.head?_append_of_ne_nil _ hne]
    exact hname.1
  have hlast : ∀ c ∈ name.reverse.head?, isBlank c = false := by
    rw [List.head?_reverse]
    exact hname.2
  rw [trimBoth, dropWhile_of_head? hhead, trimEnd, List.reverse_append,
    List.dropWhile_append_of_pos fun c hc => h c (List.mem_reverse.1 hc), dropWhile_of_head? hlast,
      List.reverse_reverse]

theorem heldBy_lines_name (hname : IsBare name) (hplain : Unbroken name) (hne : name ≠ []) (h : AllBlank gap)
    (hend : (∃ c ∈ gap, isLineEnd c = true) ∨ rest = []) :
    heldBy (lines (name ++ (gap ++ rest))) = name :: heldBy (lines rest) := by
  obtain ⟨hfirst, hothers⟩ := lines_gap h hend
  have hline : heldBy [name ++ (lines (gap ++ rest)).headD []] = [name] := by
    rw [heldBy, List.map_singleton, trimBoth_append_of_allBlank hname hne hfirst]
    simp [hne]
  rw [lines_append_of_unbroken hplain hne, heldBy_cons, hline, hothers]
  rfl

end Text

namespace Store
open Text (AllBlank heldBy)

/-- What ends a line of a report: one of the characters that do, or a carriage return with its line feed. -/
inductive IsLineEnding : List Char → Prop
  | single {c : Char} (h : Text.isLineEnd c = true) : IsLineEnding [c]
  | pair : IsLineEnding ['\r', '\n']

/-- A line that names one module, with white space around it, or that is blank and names none. -/
inductive LineNames : List String → List Char → Prop
  | blank {line : List Char} (h : AllBlank line) : LineNames [] line
  | module {before after : List Char} (name : String) (hbefore : AllBlank before) (hafter : AllBlank after) :
      LineNames [name] (before ++ name.toList ++ after)

/-- A text whose lines name these modules, one after the other. The last line may go without an end. -/
inductive ReportNames : List String → List Char → Prop
  | last {names : List String} {line : List Char} (h : LineNames names line) : ReportNames names line
  | line {names more : List String} {line ending rest : List Char} (h : LineNames names line)
      (hending : IsLineEnding ending) (hrest : ReportNames more rest) : ReportNames (names ++ more)
      (line ++ ending ++ rest)

variable {names : List String} {line ending rest cs : List Char}

theorem IsLineEnding.allBlank (h : IsLineEnding ending) : AllBlank ending := by
  cases h with
  | single h => simpa [AllBlank] using Text.isBlank_of_isLineEnd h
  | pair => decide

theorem IsLineEnding.exists_isLineEnd (h : IsLineEnding ending) : ∃ c ∈ ending, Text.isLineEnd c = true := by
  cases h with
  | single h => exact ⟨_, List.mem_singleton_self _, h⟩
  | pair => exact ⟨'\n', by simp, by decide⟩

instance : DecidablePred IsReportable := fun name =>
  decidable_of_iff (name.toList.head?.all (!Text.isBlank ·) && name.toList.getLast?.all (!Text.isBlank ·) &&
    name.toList.all (!Text.isLineEnd ·)) (by simp [IsReportable, Text.IsBare, Text.Unbroken, Option.all_eq_true])

/-- Names that come through when they are read from a line of their own. -/
def AllReportable (names : List String) : Prop := ∀ name ∈ names, name ≠ "" ∧ IsReportable name

theorem heldBy_line (h : LineNames names line) (hnames : AllReportable names) (hending : AllBlank ending)
    (hend : (∃ c ∈ ending, Text.isLineEnd c = true) ∨ rest = []) :
    heldBy (Text.lines (line ++ ending ++ rest)) = names.map String.toList ++ heldBy (Text.lines rest) := by
  cases h with
  | blank h => rw [Text.heldBy_lines_append (h.append hending)]; rfl
  | @module before after name hbefore hafter =>
    obtain ⟨hne, hbare, hplain⟩ := hnames name (List.mem_singleton_self name)
    have hchars : name.toList ≠ [] := fun hnil => hne (String.toList_eq_nil_iff.1 hnil)
    have hgap : (∃ c ∈ after ++ ending, Text.isLineEnd c = true) ∨ rest = [] := by
      refine hend.imp_left ?_
      rintro ⟨c, hc, hbreak⟩
      exact ⟨c, List.mem_append_right _ hc, hbreak⟩
    have hshape : before ++ name.toList ++ after ++ ending ++ rest =
        before ++ (name.toList ++ ((after ++ ending) ++ rest)) := by
      simp only [List.append_assoc]
    rw [hshape, Text.heldBy_lines_append hbefore,
      Text.heldBy_lines_name hbare hplain hchars (hafter.append hending) hgap]
    rfl

theorem heldBy_lines_of_reportNames (h : ReportNames names cs) (hnames : AllReportable names) :
    heldBy (Text.lines cs) = names.map String.toList := by
  -- the induction is on the lines
  induction h with
  | @last names line h =>
    have hnone : AllBlank [] := fun c hc => absurd hc List.not_mem_nil
    have hline := heldBy_line h hnames hnone (Or.inr rfl)
    simpa [Text.lines, heldBy] using hline
  | @line names more line ending rest h hending _ ih =>
    have hfirst : AllReportable names := fun name hm => hnames name (List.mem_append_left _ hm)
    have hothers : AllReportable more := fun name hm => hnames name (List.mem_append_right _ hm)
    rw [heldBy_line h hfirst hending.allBlank (Or.inl hending.exists_isLineEnd), ih hothers, List.map_append]

theorem readUsed_of_reportNames {text : String} (h : ReportNames names text.toList) (hnames : AllReportable names) :
    readUsed text = names.eraseDups := by
  have hread : readUsed text = ((heldBy (Text.lines text.toList)).map String.ofList).eraseDups := rfl
  rw [hread, heldBy_lines_of_reportNames h hnames, List.map_map]
  simp [Function.comp_def]

/-- **A report gives back what was reported.** Whatever text names modules on lines of their own, in any order
and any number of times, with any line ends, white space around them and blank lines between them: what is
loaded from it are these modules, each once, and no others. -/
theorem loadUsed_of_reportNames {d : Disk} {path : Path} {t : Nat} {modules names : List String} {text : String}
    (hmodules : AllReportable modules) (hsame : ∀ m, m ∈ names ↔ m ∈ modules)
    (htext : ReportNames names text.toList)
    (hfile : d.find? path.text = some (.file (Text.Utf8.encode text) t)) :
    ∃ used, loadUsed d path = .ok used ∧ used.Nodup ∧ ∀ m, m ∈ used ↔ m ∈ modules := by
  have hnames : AllReportable names := fun name hm => hmodules name ((hsame name).1 hm)
  refine ⟨names.eraseDups, ?_, Lists.nodup_eraseDups names, fun m => ?_⟩
  · rw [loadUsed_of_find? hfile (Text.Utf8.decode_encode text), readUsed_of_reportNames htext hnames]
  · rw [List.mem_eraseDups, hsame]

/-- Two modules, one of them named twice, with white space, blank lines and five kinds of line ends about them. -/
def strewnReport : String := "\u00a0x.dll \r\n\r \n\u2028Lib/A b.dll\u0085\tx.dll"

theorem strewnReport_loaded : AllReportable ["Lib/A b.dll", "x.dll"] ∧
    ReportNames ["x.dll", "Lib/A b.dll", "x.dll"] strewnReport.toList ∧
    ∃ used, loadUsed (Judge.reportDisk (Text.Utf8.encode strewnReport)) (Path.ofString "u") = .ok used ∧
      used.Nodup ∧ ∀ m, m ∈ used ↔ m ∈ ["Lib/A b.dll", "x.dll"] := by
  have hreportable : AllReportable ["Lib/A b.dll", "x.dll"] := by
    simp only [AllReportable, List.forall_mem_cons]
    exact ⟨⟨by decide, by decide +kernel⟩, ⟨by decide, by decide +kernel⟩, fun name hm =>
      absurd hm List.not_mem_nil⟩
  have hfirst : LineNames ["x.dll"] ("\u00a0".toList ++ "x.dll".toList ++ " ".toList) :=
    .module "x.dll" (by decide) (by decide)
  have hsecond : LineNames ["Lib/A b.dll"] ([] ++ "Lib/A b.dll".toList ++ []) :=
    .module "Lib/A b.dll" (by decide) (by decide)
  have hthird : LineNames ["x.dll"] ("\t".toList ++ "x.dll".toList ++ []) := .module "x.dll" (by decide) (by decide)
  have hnone : LineNames [] [] := .blank (by decide)
  have hspace : LineNames [] [' '] := .blank (by decide)
  have hending {c : Char} (h : Text.isLineEnd c = true) : IsLineEnding [c] := .single h
  have htext : ReportNames ["x.dll", "Lib/A b.dll", "x.dll"] strewnReport.toList := by
    have hlines := ReportNames.line hfirst .pair <| .line hnone (hending (c := '\r') rfl) <|
      .line hspace (hending (c := '\n') rfl) <| .line hnone (hending (c := '\u2028') rfl) <|
      .line hsecond (hending (c := '\u0085') rfl) (.last hthird)
    convert hlines using 1
    · rfl
    · decide +kernel
  have hfile : (Judge.reportDisk (Text.Utf8.encode strewnReport)).find? (Path.ofString "u").text =
      some (.file (Text.Utf8.encode strewnReport) 1) := by
    decide +kernel
  have hsame : ∀ m, m ∈ ["x.dll", "Lib/A b.dll", "x.dll"] ↔ m ∈ ["Lib/A b.dll", "x.dll"] := fun m => by grind
  exact ⟨hreportable, htext, loadUsed_of_reportNames hreportable hsame htext hfile⟩

end Store
end ReferenceAudit
