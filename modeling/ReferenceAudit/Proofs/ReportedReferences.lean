import ReferenceAudit.Judgement
import ReferenceAudit.Proofs.ReportLines
import ReferenceAudit.Proofs.SavedReferences

/-!
# References that a report names

The file of declared references and the report of used modules are two texts with rules of their own. A saved
reference that the report names has a used module's key, unless the report loses white space of its identity. Main
statement: the verdict on such a reference.
-/
namespace ReferenceAudit

theorem Store.loadUsed_of_find? {d : Disk} {path : Path} {bytes : List UInt8} {t : Nat} {text : String}
    (hfile : d.find? path.text = some (.file bytes t)) (hdecode : Text.Utf8.decode bytes = .ok text) :
    loadUsed d path = .ok (readUsed text) := by
  rw [loadUsed, if_pos (Disk.isThere_of_find? hfile), Disk.read_of_find? hfile]
  simp only [bind, Except.bind, hdecode]
  rfl

namespace Judge

theorem verdicts_single {j : Judge} (hj : j.implicit = []) {r : Reference} (hkind : r.kind ≠ .package)
    (hne : r.identity ≠ "") (used : List String) : j.verdicts [r] used =
      [if moduleKey r.identity ∈ used.map moduleKey then ⟨r, .used, [r.identity], []⟩ else
        ⟨r, .removable, [], []⟩] := by
  have hsubjects : Subject.ofReferences [r] = [.single r] := by simp [Subject.ofReferences, Subject.collect, hkind]
  have himplicit : j.isImplicit r = false := by simp [isImplicit, hj]
  have hresolved : r.isResolved = true := by simp [Reference.isResolved, hne]
  rw [verdicts, hsubjects, List.filterMap_cons, List.filterMap_nil, verdictOn?, judge, judgeSingle]
  simp only [himplicit, hresolved, List.contains_iff_mem]
  by_cases hused : moduleKey r.identity ∈ used.map moduleKey
  · simp only [hused, if_true]
    rfl
  · simp only [hused, if_false]
    rfl

/-- **A reference that is saved, and that the report names on a line of its own.** It is loaded again, and by
the report it is used if its identity has no white space at its ends and no line end inside. Otherwise the
report has it trimmed or divided, and it is removable. -/
theorem saved_reference_judged {d d' : Disk} {path : Path} {r : Reference} {wrote : Bool}
    (hsave : Effect.runOn (Store.saveReferences path [r]) d = (.ok wrote, d')) (hkind : r.kind ≠ .package)
    (hne : r.identity ≠ "") {report : Path} {bytes : List UInt8} {t : Nat} {text : String}
    (hfile : d'.find? report.text = some (.file bytes t)) (hdecode : Text.Utf8.decode bytes = .ok text)
    (hline : Text.StandsAlone r.identity text) (j : Judge) (hj : j.implicit = []) :
    Store.loadReferences d' path = .ok [r] ∧ ∃ used, Store.loadUsed d' report = .ok used ∧
      (Store.IsReportable r.identity → j.verdicts [r] used = [⟨r, .used, [r.identity], []⟩]) ∧
      (¬ Store.IsReportable r.identity → j.verdicts [r] used = [⟨r, .removable, [], []⟩]) := by
  have hkey := Store.moduleKey_mem_readUsed_iff hline hne
  refine ⟨Store.loadReferences_of_saveReferences hsave, Store.readUsed text,
    Store.loadUsed_of_find? hfile hdecode, ?_, ?_⟩
  · intro hreportable
    rw [verdicts_single hj hkind hne, if_pos (hkey.2 hreportable)]
  · intro hlost
    rw [verdicts_single hj hkind hne, if_neg fun hmem => hlost (hkey.1 hmem)]

def reportDisk (report : List UInt8) : Disk := (Disk.empty ["w"]).addFile ["w", "u"] report

/-- The disk once references have been saved beside the report. -/
def savedBeside (report : List UInt8) (rs : List Reference) : Disk :=
  (Effect.runOn (Store.saveReferences (Path.ofString "r") rs) (reportDisk report)).2

def reportText : String := "x.dll\r\n\nLib/A.dll\n"

def reportedReference : Reference := ⟨"Lib/A.dll", .project, "A"⟩

/-- A reference that the report names behind another module and a blank line. -/
theorem reportedReference_used :
    let report := Text.Utf8.encode reportText
    Effect.runOn (Store.saveReferences (Path.ofString "r") [reportedReference]) (reportDisk report) =
      (.ok true, savedBeside report [reportedReference]) ∧
    Text.StandsAlone reportedReference.identity reportText ∧ Store.IsReportable reportedReference.identity ∧
    ∃ used, Store.loadUsed (savedBeside report [reportedReference]) (Path.ofString "u") = .ok used ∧
      (Judge.ofResolved none []).verdicts [reportedReference] used =
        [⟨reportedReference, .used, ["Lib/A.dll"], []⟩] := by
  intro report
  have hsave : Effect.runOn (Store.saveReferences (Path.ofString "r") [reportedReference]) (reportDisk report) =
      (.ok true, savedBeside report [reportedReference]) := by
    decide +kernel
  have hfile : (savedBeside report [reportedReference]).find? (Path.ofString "u").text = some (.file report 1) := by
    decide +kernel
  have hplain : Text.Unbroken reportedReference.identity.toList := by
    have hall : reportedReference.identity.toList.all (fun c => !Text.isLineEnd c) = true := by decide +kernel
    simpa [Text.Unbroken] using hall
  have hline : Text.StandsAlone reportedReference.identity reportText := by
    refine ⟨"x.dll\r\n\n".toList, [], by decide +kernel, fun c hc => ?_⟩
    have hlast : "x.dll\r\n\n".toList.getLast? = some '\n' := by decide +kernel
    cases hlast.symm.trans hc
    rfl
  have hbare : Text.IsBare reportedReference.identity.toList := by
    have hfirst : reportedReference.identity.toList.head? = some 'L' := by decide +kernel
    have hlast : reportedReference.identity.toList.getLast? = some 'l' := by decide +kernel
    constructor
    · intro c hc
      cases hfirst.symm.trans hc
      rfl
    · intro c hc
      cases hlast.symm.trans hc
      rfl
  obtain ⟨-, used, hused, hverdict, -⟩ := saved_reference_judged hsave (by decide) (by decide) hfile
    (Text.Utf8.decode_encode reportText) hline (Judge.ofResolved none []) rfl
  exact ⟨hsave, hline, ⟨hbare, hplain⟩, used, hused, hverdict ⟨hbare, hplain⟩⟩

/-- A reference is saved and loaded beside a report, and this is what the report makes of it. -/
structure JudgedBeside (report : List UInt8) (r : Reference) (judged : Except Fault (List Verdict)) : Prop where
  saved : Effect.runOn (Store.saveReferences (Path.ofString "r") [r]) (reportDisk report) =
    (.ok true, savedBeside report [r])
  loaded : Store.loadReferences (savedBeside report [r]) (Path.ofString "r") = .ok [r]
  verdicts : (Store.loadUsed (savedBeside report [r]) (Path.ofString "u")).map
    ((Judge.ofResolved none []).verdicts [r]) = judged

/-- A reference alone on a line of its report is removable if its identity begins with white space, or holds a
character that ends lines there; and a report with bytes that are no text is not read at all. -/
theorem reported_lines_lost :
    (Text.StandsAlone " A.dll" " A.dll\n" ∧ JudgedBeside (Text.Utf8.encode " A.dll\n") ⟨" A.dll", .direct, "A"⟩
      (.ok [⟨⟨" A.dll", .direct, "A"⟩, .removable, [], []⟩])) ∧
    (Text.StandsAlone "A\u2028.dll" "A\u2028.dll\n" ∧
      JudgedBeside (Text.Utf8.encode "A\u2028.dll\n") ⟨"A\u2028.dll", .project, "A"⟩
        (.ok [⟨⟨"A\u2028.dll", .project, "A"⟩, .removable, [], []⟩])) ∧
    JudgedBeside (0xFF :: Text.Utf8.encode "\nA.dll\n") ⟨"A.dll", .direct, "A"⟩
      (.error (.reportEncoding "u" ⟨0, [0xFF], .startByte⟩)) := by
  refine ⟨⟨⟨[], [], by simp, by simp⟩, ?_⟩, ⟨⟨[], [], by simp, by simp⟩, ?_⟩, ?_⟩ <;> constructor <;> decide +kernel

end Judge
end ReferenceAudit
