import ReferenceAudit.Proofs.ReferenceFormat
import ReferenceAudit.Proofs.SafeSaves

/-!
# Loaded references in their canonical form

A line that is loaded is the line of its reference but for the returns at its end, so saving what was loaded
leaves the lines as they were, without the blank ones and without those returns. What the reader takes and the
writer refuses are returns further in. Main statement: saved over the file that they come from, references leave
it alone exactly if it was in that form.
-/
namespace ReferenceAudit

theorem Text.mem_of_mem_trimEnd {blank : Char → Bool} {cs : List Char} {c : Char} (h : c ∈ trimEnd blank cs) :
    c ∈ cs := by
  rw [trimEnd, List.mem_reverse] at h
  exact List.mem_reverse.1 (List.dropWhile_subset _ h)

namespace Reference
variable {r : Reference} {line : List Char} {lines : List (List Char)} {rs : List Reference}

theorem isOn_iff : r.IsOn line ↔ line = r.line.toList ∧ tab ∉ r.identity.toList := by
  rw [toList_line]
  exact ⟨fun h => ⟨h.line, h.identity⟩, fun h => ⟨h.1, h.2⟩⟩

theorem isOn_lines_of_forall₂ (h : List.Forall₂ (fun line (r : Reference) => r.IsOn line) lines rs) :
    lines = rs.map (·.line.toList) ∧ ∀ r ∈ rs, r.IsOn r.line.toList := by
  have hlines : lines = rs.map (·.line.toList) := by
    rw [← List.forall₂_eq_eq_eq, List.forall₂_map_right_iff]
    exact h.imp fun _ _ hon => (isOn_iff.1 hon).1
  subst hlines
  exact ⟨rfl, List.forall₂_same.1 (List.forall₂_map_left_iff.1 h)⟩

theorem IsOn.hasLine_iff (h : r.IsOn line) (hfeed : '\n' ∉ line) : r.HasLine ↔ '\r' ∉ line := by
  obtain ⟨hline, htab⟩ := isOn_iff.1 h
  constructor
  · intro hr hreturn
    rw [hline] at hreturn
    cases isBreak_of_mem_line hr hreturn
  · intro hreturn
    have hbreak : ∀ c ∈ line, isBreak c = false := by
      intro c hc
      have hne : c ≠ '\r' := fun he => hreturn (he ▸ hc)
      have hne' : c ≠ '\n' := fun he => hfeed (he ▸ hc)
      simp [isBreak, hne, hne']
    rw [h.line] at hbreak
    exact ⟨fun c hc => hbreak c (by simp [hc]), fun c hc => hbreak c (by simp [hc]), htab⟩

end Reference

namespace Store
open Text.Utf8 (encode)
variable {d d' : Disk} {path : Path} {bytes : List UInt8} {t : Nat} {s : String} {rs : List Reference}

/-- The form in which what is loaded from a text is saved. -/
def canonicalText (s : String) : String := linesText ((bareLines s).map String.ofList)

theorem lineFeed_not_mem_of_mem_bareLines {line : List Char} (h : line ∈ bareLines s) : '\n' ∉ line := by
  obtain ⟨hline, -⟩ := List.mem_filter.1 h
  obtain ⟨piece, hpiece, rfl⟩ := List.mem_map.1 hline
  intro hfeed
  have hnot := Text.not_mem_of_mem_pieces hpiece '\n' (Text.mem_of_mem_trimEnd hfeed)
  simp at hnot

theorem canonicalText_eq (h : bareLines s = rs.map (·.line.toList)) :
    canonicalText s = linesText (rs.map Reference.line) := by
  rw [canonicalText, h, List.map_map]
  simp [Function.comp_def]

/-- The references of a text have lines exactly if no return is left in the lines of the text. -/
theorem forall_hasLine_iff (h : bareLines s = rs.map (·.line.toList)) (hon : ∀ r ∈ rs, r.IsOn r.line.toList) :
    (∀ r ∈ rs, r.HasLine) ↔ ∀ line ∈ bareLines s, '\r' ∉ line := by
  have hfeed : ∀ r ∈ rs, '\n' ∉ r.line.toList := by
    intro r hr
    apply lineFeed_not_mem_of_mem_bareLines (s := s)
    rw [h]
    exact List.mem_map_of_mem hr
  rw [h, List.forall_mem_map]
  exact forall₂_congr fun r hr => (hon r hr).hasLine_iff (hfeed r hr)

/-- References are refused as such exactly if one of them has no line, whatever the disk. -/
theorem exists_badRecord_iff : (∃ fault, Effect.runOn (saveReferences path rs) d = (.error (.badRecord fault), d)) ↔
    ¬ ∀ r ∈ rs, r.HasLine := by
  constructor
  · rintro ⟨fault, hrun⟩ hlines
    rw [saveReferences_of_hasLine hlines] at hrun
    cases refusedOnly_writeIfChanged _ _ _ d _ d hrun
  · intro hno
    obtain ⟨fault, hthrow⟩ := exists_saveReferences_eq_throw (by simpa using hno) path
    exact ⟨fault, by rw [hthrow]; rfl⟩

theorem holds_iff_of_find? (hfile : d.find? path.text = some (.file bytes t)) {bytes' : List UInt8} :
    d.Holds path bytes' ↔ bytes = bytes' := by
  simp [Disk.Holds, hfile]

/-- **Loading and saving again.** References that were loaded from a file are saved unless a return is left in
one of its lines: then as those lines that are not blank, without the returns at their ends, from which they are
loaded again. Over the file itself nothing is written exactly if it was in that form. -/
theorem loaded_saved_canonically (hp : ∀ part ∈ path.parts, Path.IsComponent part)
    (hfile : d.find? path.text = some (.file bytes t)) (hload : loadReferences d path = .ok rs) :
    ∃ s, bytes = encode s ∧
      (∀ (target : Path) (d₀ : Disk),
        (∃ fault, Effect.runOn (saveReferences target rs) d₀ = (.error (.badRecord fault), d₀)) ↔
          ∃ line ∈ bareLines s, '\r' ∈ line) ∧
      ((∀ line ∈ bareLines s, '\r' ∉ line) →
        (∀ (target : Path) (d₀ d₁ : Disk) (wrote : Bool),
          Effect.runOn (saveReferences target rs) d₀ = (.ok wrote, d₁) →
            d₁.Holds target (encode (canonicalText s)) ∧ loadReferences d₁ target = .ok rs) ∧
        ∃ wrote d', Effect.runOn (saveReferences path rs) d = (.ok wrote, d') ∧
          (wrote = false ↔ bytes = encode (canonicalText s)) ∧ (d' = d ↔ bytes = encode (canonicalText s))) := by
  obtain ⟨s, hs, hforall⟩ := readReferences_eq_ok_iff.1 (readReferences_of_loadReferences hfile hload)
  obtain ⟨hbare, hon⟩ := Reference.isOn_lines_of_forall₂ hforall
  have hlines := forall_hasLine_iff hbare hon
  refine ⟨s, hs, fun target d₀ => ?_, fun hno => ?_⟩
  · rw [exists_badRecord_iff, hlines]
    simp
  · rw [← hlines] at hno
    simp only [saveReferences_of_hasLine hno, canonicalText_eq hbare]
    refine ⟨fun target d₀ d₁ wrote hrun => ?_, ?_⟩
    · obtain ⟨t₁, hheld⟩ := find?_of_writeIfChanged hrun
      exact ⟨⟨t₁, hheld⟩, loadReferences_of_find? hheld
        (readReferences_encode (referencesText_eq_ok_iff.2 ⟨hno, rfl⟩))⟩
    · obtain ⟨wrote, d', hrun, hsaves⟩ := exists_runOn_writeIfChanged hp (Disk.admits_of_find? hp hfile)
        (linesText (rs.map Reference.line))
      have hwrote := hsaves.wrote_eq_false_iff
      rw [holds_iff_of_find? hfile] at hwrote
      exact ⟨wrote, d', hrun, hwrote, hsaves.eq_iff.trans hwrote⟩

def strayText : String := "a\r\tReference\tb\r\n"

/-- The loose text is put into its form, which is left alone then; a stray return is loaded and not saved. -/
theorem loose_stray_saved :
    (∃ d', Effect.runOn (saveReferences filePath looseReferences) (fileDisk (encode looseText)) = (.ok true, d') ∧
      d'.Holds filePath (encode (canonicalText looseText)) ∧ loadReferences d' filePath = .ok looseReferences) ∧
    Effect.runOn (saveReferences filePath looseReferences) (fileDisk (encode (canonicalText looseText))) =
      (.ok false, fileDisk (encode (canonicalText looseText))) ∧
    loadReferences (fileDisk (encode strayText)) filePath = .ok [⟨"a\r", .direct, "b"⟩] ∧
    ∃ fault, Effect.runOn (saveReferences filePath [⟨"a\r", .direct, "b"⟩]) (fileDisk (encode strayText)) =
      (.error (.badRecord fault), fileDisk (encode strayText)) := by
  have hp : ∀ part ∈ filePath.parts, Path.IsComponent part := fun _ => Path.isComponent_of_mem_ofString
  have hthere (bytes : List UInt8) : (fileDisk bytes).find? filePath.text = some (.file bytes 1) := by rfl
  have hstray : loadReferences (fileDisk (encode strayText)) filePath = .ok [⟨"a\r", .direct, "b"⟩] := by
    decide +kernel
  refine ⟨?_, ?_, hstray, ?_⟩
  · obtain ⟨s, hs, -, hsaved⟩ := loaded_saved_canonically hp (hthere _)
      (by decide +kernel : loadReferences (fileDisk (encode looseText)) filePath = .ok looseReferences)
    obtain rfl := Text.Utf8.encode_inj.1 hs
    obtain ⟨hall, wrote, d', hrun, hwrote, -⟩ := hsaved (by decide +kernel)
    have hchanged : encode looseText ≠ encode (canonicalText looseText) := by decide +kernel
    cases wrote with
    | false => exact absurd (hwrote.1 rfl) hchanged
    | true => exact ⟨d', hrun, hall _ _ _ _ hrun⟩
  · obtain ⟨s, hs, -, hsaved⟩ := loaded_saved_canonically hp (hthere _)
      (by decide +kernel : loadReferences (fileDisk (encode (canonicalText looseText))) filePath =
        .ok looseReferences)
    obtain rfl := Text.Utf8.encode_inj.1 hs
    obtain ⟨-, wrote, d', hrun, hwrote, hsame⟩ := hsaved (by decide +kernel)
    have hform : encode (canonicalText looseText) = encode (canonicalText (canonicalText looseText)) := by
      decide +kernel
    rw [hwrote.2 hform, hsame.2 hform] at hrun
    exact hrun
  · obtain ⟨s, hs, hrefused, -⟩ := loaded_saved_canonically hp (hthere _) hstray
    obtain rfl := Text.Utf8.encode_inj.1 hs
    exact (hrefused filePath _).2 (by decide +kernel)

end Store
end ReferenceAudit
