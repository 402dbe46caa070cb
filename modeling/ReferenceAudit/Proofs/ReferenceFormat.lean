import Mathlib.Order.Bounds.Defs
import ReferenceAudit.Proofs.SavedReferences

/-!
# The format of a file of references

A line shows a reference, or is blank, or something is wrong with it: its bytes, its fields or its token. Line
feeds stand for themselves in the bytes of a text, so a file is a text exactly if all its lines are. Main
statement: a file is loaded exactly if it is a text of such lines, the references are those shown, and otherwise
the first line with which something is wrong is told.
-/
namespace ReferenceAudit

namespace Text
variable {α : Type} [BEq α] [LawfulBEq α] {sep : α}

theorem pieces_of_not_mem {xs : List α} (h : sep ∉ xs) : pieces (· == sep) xs = [xs] := by
  rw [pieces_eq_splitOnP]
  exact List.splitOn_eq_singleton h

theorem intercalate_pieces (sep : α) (xs : List α) : [sep].intercalate (pieces (· == sep) xs) = xs := by
  rw [pieces_eq_splitOnP]
  exact List.intercalate_splitOn sep

theorem pieces_intercalate {qs : List (List α)} (hne : qs ≠ []) (h : ∀ q ∈ qs, sep ∉ q) :
    pieces (· == sep) ([sep].intercalate qs) = qs := by
  rw [pieces_eq_splitOnP]
  exact List.splitOn_intercalate sep h hne

end Text

theorem Kind.token_of_ofToken? {token : String} {kind : Kind} (h : ofToken? token = some kind) :
    kind.token = token := by
  unfold ofToken? at h
  split at h <;> cases h <;> rfl

theorem Kind.ofToken?_eq_none_iff {token : String} : ofToken? token = none ↔ ∀ kind : Kind, kind.token ≠ token := by
  constructor
  · rintro h kind rfl
    rw [ofToken?_token] at h
    cases h
  · intro h
    cases hkind : ofToken? token with
    | none => rfl
    | some kind => exact absurd (token_of_ofToken? hkind) (h kind)

namespace Reference

/-- A reference is on a line: its identity up to the first tab, the token of its kind up to the second, and its
label in all that follows. -/
structure IsOn (r : Reference) (line : List Char) : Prop where
  line : line = r.identity.toList ++ tab :: (r.kind.token.toList ++ tab :: r.label.toList)
  identity : tab ∉ r.identity.toList

/-- Why no reference is on a line. -/
inductive IsMissing (line : List Char) : LineFault → Prop
  | fieldCount (few : line.count tab < 2) : IsMissing line (.fieldCount (line.count tab + 1))
  | unknownToken {identity token label : List Char} (hline : line = identity ++ tab :: (token ++ tab :: label))
    (hidentity : tab ∉ identity) (htoken : tab ∉ token)
    (unknown : ∀ kind : Kind, kind.token ≠ String.ofList token) :
    IsMissing line (.unknownToken (String.ofList token))

variable {line identity token : List Char} {r : Reference}

theorem tabs_cases (line : List Char) : line.count tab < 2 ∨
    ∃ identity token label, line = identity ++ tab :: (token ++ tab :: label) ∧ tab ∉ identity ∧ tab ∉ token := by
  by_cases hfirst : tab ∈ line
  · obtain ⟨identity, rest, rfl, hidentity⟩ := List.eq_append_cons_of_mem hfirst
    by_cases hsecond : tab ∈ rest
    · obtain ⟨token, label, rfl, htoken⟩ := List.eq_append_cons_of_mem hsecond
      exact Or.inr ⟨identity, token, label, rfl, hidentity, htoken⟩
    · left
      simp [List.count_eq_zero_of_not_mem hidentity, List.count_eq_zero_of_not_mem hsecond]
  · left
    simp [List.count_eq_zero_of_not_mem hfirst]

theorem length_fields_of_count (h : line.count tab < 2) : (fields line).length = line.count tab + 1 := by
  by_cases hfirst : tab ∈ line
  · obtain ⟨identity, rest, rfl, hidentity⟩ := List.eq_append_cons_of_mem hfirst
    have hsecond : tab ∉ rest := by
      rw [List.count_append, List.count_cons_self] at h
      exact List.count_eq_zero.1 (by omega)
    rw [fields, Text.pieces_append_cons hidentity, Text.pieces_of_not_mem hsecond]
    simp [List.count_eq_zero_of_not_mem hidentity, List.count_eq_zero_of_not_mem hsecond]
  · rw [fields, Text.pieces_of_not_mem hfirst]
    simp [List.count_eq_zero_of_not_mem hfirst]

theorem ofLine?_of_count (h : line.count tab < 2) :
    ofLine? (String.ofList line) = .error (.fieldCount (line.count tab + 1)) := by
  have hlength := length_fields_of_count h
  rw [ofLine?, String.toList_ofList]
  split
  · rename_i hfields
    rw [hfields] at hlength
    simp only [List.length_cons, List.length_nil] at hlength
    omega
  · rw [hlength]

theorem ofLine?_of_fields (hidentity : tab ∉ identity) (htoken : tab ∉ token) (label : List Char) :
    ofLine? (String.ofList (identity ++ tab :: (token ++ tab :: label))) =
      match Kind.ofToken? (String.ofList token) with
      | some kind => .ok ⟨String.ofList identity, kind, String.ofList label⟩
      | none => .error (.unknownToken (String.ofList token)) := by
  rewrite [ofLine?, String.toList_ofList, fields_append hidentity htoken]
  rfl

theorem ofLine?_eq_ok_iff : ofLine? (String.ofList line) = .ok r ↔ r.IsOn line := by
  constructor
  · intro h
    rcases tabs_cases line with hcount | ⟨identity, token, label, rfl, hidentity, htoken⟩
    · rw [ofLine?_of_count hcount] at h
      cases h
    · rw [ofLine?_of_fields hidentity htoken] at h
      split at h
      · rename_i kind hkind
        cases h
        exact ⟨by simp [Kind.token_of_ofToken? hkind], by simpa using hidentity⟩
      · cases h
  · rintro ⟨rfl, hidentity⟩
    have htoken : tab ∉ r.kind.token.toList := by cases r.kind <;> decide
    rw [ofLine?_of_fields hidentity htoken, String.ofList_toList, Kind.ofToken?_token]
    simp

theorem ofLine?_eq_error_iff {fault : LineFault} :
    ofLine? (String.ofList line) = .error fault ↔ IsMissing line fault := by
  constructor
  · intro h
    rcases tabs_cases line with hcount | ⟨identity, token, label, rfl, hidentity, htoken⟩
    · rw [ofLine?_of_count hcount] at h
      cases h
      exact .fieldCount hcount
    · rw [ofLine?_of_fields hidentity htoken] at h
      split at h
      · cases h
      · rename_i hnone
        cases h
        exact .unknownToken rfl hidentity htoken (Kind.ofToken?_eq_none_iff.1 hnone)
  · intro h
    cases h with
    | fieldCount few => exact ofLine?_of_count few
    | unknownToken hline hidentity htoken unknown =>
      rw [hline, ofLine?_of_fields hidentity htoken, Kind.ofToken?_eq_none_iff.2 unknown]

theorem IsOn.ne_nil (h : r.IsOn line) : line ≠ [] := by
  rw [h.line]
  simp

end Reference

namespace Store
open Text (pieces)
open Text.Utf8 (encode encodeChar)

/-- The lines of a text that are not blank, without the returns at their ends. -/
def bareLines (s : String) : List (List Char) :=
  ((pieces (· == '\n') s.toList).map withoutReturns).filter (· ≠ [])

/-- The bytes of a text in which every line is blank or has a reference on it. -/
def IsReferenceFile (bytes : List UInt8) : Prop :=
  ∃ s, bytes = encode s ∧
    ∀ line ∈ pieces (· == '\n') s.toList, withoutReturns line = [] ∨ ∃ r : Reference, r.IsOn (withoutReturns line)

/-- What is wrong with the bytes of a line: they are no text, or a text that is not
blank without a reference on it. -/
inductive Breaks (bytes : List UInt8) : LineFault → Prop
  | notUtf8 {fault : Text.Utf8.Fault} (noText : ∀ s, bytes ≠ encode s)
      (told : Text.Utf8.decode bytes = .error fault) :
    Breaks bytes (.notUtf8 fault.reason)
  | noReference {s : String} {fault : LineFault} (text : bytes = encode s) (nonblank : withoutReturns s.toList ≠ [])
    (missing : Reference.IsMissing (withoutReturns s.toList) fault) : Breaks bytes fault

/-- The numbers of the lines with which something is wrong. Lines count from 1, the blank ones too. -/
def brokenLines (bytes : List UInt8) : Set Nat :=
  {number | ∃ i line fault, number = i + 1 ∧ (pieces (· == lineFeed) bytes)[i]? = some line ∧ Breaks line fault}

/-! ## One line -/

section
variable {bytes : List UInt8} {s : String} {r : Reference} {fault : LineFault}

theorem readLine_of_blank (h : withoutReturns s.toList = []) : readLine (encode s) = .ok none := by
  rw [readLine, Text.Utf8.decode_encode]
  dsimp only
  rw [h]

theorem readLine_of_nonblank (h : withoutReturns s.toList ≠ []) :
    readLine (encode s) = (Reference.ofLine? (String.ofList (withoutReturns s.toList))).map some := by
  obtain ⟨c, cs, hcs⟩ := List.exists_cons_of_ne_nil h
  rw [readLine, Text.Utf8.decode_encode]
  dsimp only
  rw [hcs]

theorem readLine_of_no_text {fault : Text.Utf8.Fault} (h : Text.Utf8.decode bytes = .error fault) :
    readLine bytes = .error (.notUtf8 fault.reason) := by
  rw [readLine, h]

theorem readLine_eq_none_iff : readLine bytes = .ok none ↔ ∃ s, bytes = encode s ∧
    withoutReturns s.toList = [] := by
  constructor
  · intro h
    cases hs : Text.Utf8.decode bytes with
    | error fault =>
      rw [readLine_of_no_text hs] at h
      cases h
    | ok s =>
      obtain rfl := Text.Utf8.decode_eq_ok_iff.1 hs
      by_cases hblank : withoutReturns s.toList = []
      · exact ⟨s, rfl, hblank⟩
      · rw [readLine_of_nonblank hblank] at h
        cases hr : Reference.ofLine? (String.ofList (withoutReturns s.toList)) <;> rw [hr] at h <;> cases h
  · rintro ⟨s, rfl, hblank⟩
    exact readLine_of_blank hblank

theorem readLine_eq_some_iff :
    readLine bytes = .ok (some r) ↔ ∃ s, bytes = encode s ∧ r.IsOn (withoutReturns s.toList) := by
  constructor
  · intro h
    cases hs : Text.Utf8.decode bytes with
    | error fault =>
      rw [readLine_of_no_text hs] at h
      cases h
    | ok s =>
      obtain rfl := Text.Utf8.decode_eq_ok_iff.1 hs
      by_cases hblank : withoutReturns s.toList = []
      · rw [readLine_of_blank hblank] at h
        cases h
      · rw [readLine_of_nonblank hblank] at h
        cases hr : Reference.ofLine? (String.ofList (withoutReturns s.toList)) <;> rw [hr] at h <;> cases h
        exact ⟨s, rfl, Reference.ofLine?_eq_ok_iff.1 hr⟩
  · rintro ⟨s, rfl, hon⟩
    rw [readLine_of_nonblank hon.ne_nil, Reference.ofLine?_eq_ok_iff.2 hon]
    rfl

theorem readLine_eq_error_iff : readLine bytes = .error fault ↔ Breaks bytes fault := by
  constructor
  · intro h
    cases hs : Text.Utf8.decode bytes with
    | error found =>
      rw [readLine_of_no_text hs] at h
      cases h
      refine .notUtf8 (fun s he => ?_) hs
      rw [he, Text.Utf8.decode_encode] at hs
      cases hs
    | ok s =>
      obtain rfl := Text.Utf8.decode_eq_ok_iff.1 hs
      by_cases hblank : withoutReturns s.toList = []
      · rw [readLine_of_blank hblank] at h
        cases h
      · rw [readLine_of_nonblank hblank] at h
        cases hr : Reference.ofLine? (String.ofList (withoutReturns s.toList)) <;> rw [hr] at h <;> cases h
        exact .noReference rfl hblank (Reference.ofLine?_eq_error_iff.1 hr)
  · intro h
    cases h with
    | notUtf8 _ told => exact readLine_of_no_text told
    | noReference text nonblank missing =>
      rw [text, readLine_of_nonblank nonblank, Reference.ofLine?_eq_error_iff.2 missing]
      rfl

end

/-! ## The lines of a text, and of its bytes -/

theorem lineFeed_mem_encodeChar_iff {cs : List Char} : lineFeed ∈ cs.flatMap encodeChar ↔ '\n' ∈ cs := by
  constructor
  · intro h
    by_contra hno
    refine lineFeed_not_mem_encode (s := String.ofList cs) ?_ ?_
    · simpa using hno
    · simpa [encode] using h
  · intro h
    refine List.mem_flatMap.2 ⟨'\n', h, ?_⟩
    decide

theorem flatMap_encodeChar_intercalate (ls : List (List Char)) :
    (['\n'].intercalate ls).flatMap encodeChar = [lineFeed].intercalate (ls.map (·.flatMap encodeChar)) :=
  Lists.flatMap_intercalate (by decide) ls

theorem pieces_encode (s : String) :
    pieces (· == lineFeed) (encode s) = (pieces (· == '\n') s.toList).map (·.flatMap encodeChar) := by
  have hfree : ∀ bytes ∈ (pieces (· == '\n') s.toList).map (·.flatMap encodeChar), lineFeed ∉ bytes := by
    intro bytes hbytes
    obtain ⟨line, hline, rfl⟩ := List.mem_map.1 hbytes
    rw [lineFeed_mem_encodeChar_iff]
    intro hm
    have hnot := Text.not_mem_of_mem_pieces hline '\n' hm
    simp at hnot
  have hne : (pieces (· == '\n') s.toList).map (·.flatMap encodeChar) ≠ [] := by
    simpa using Text.pieces_ne_nil _ _
  have hbytes : encode s = [lineFeed].intercalate ((pieces (· == '\n') s.toList).map (·.flatMap encodeChar)) := by
    rw [← flatMap_encodeChar_intercalate, Text.intercalate_pieces, encode]
  rw [hbytes, Text.pieces_intercalate hne hfree]

theorem exists_encode_of_pieces {bytes : List UInt8}
    (h : ∀ line ∈ pieces (· == lineFeed) bytes, ∃ s, line = encode s) :
    ∃ s, bytes = encode s := by
  have hall (ls : List (List UInt8)) (h : ∀ line ∈ ls, ∃ s, line = encode s) :
      ∃ ts : List (List Char), ls = ts.map (·.flatMap encodeChar) := by
    induction ls with
    | nil => exact ⟨[], rfl⟩
    | cons l ls ih =>
      obtain ⟨s, rfl⟩ := h l List.mem_cons_self
      obtain ⟨ts, rfl⟩ := ih fun x hx => h x (List.mem_cons_of_mem _ hx)
      exact ⟨s.toList :: ts, rfl⟩
  obtain ⟨ts, hts⟩ := hall _ h
  refine ⟨String.ofList (['\n'].intercalate ts), ?_⟩
  rw [encode, String.toList_ofList, flatMap_encodeChar_intercalate, ← hts, Text.intercalate_pieces]

/-! ## All lines -/

section
variable {number n : Nat} {line : List UInt8} {ls : List (List UInt8)} {rs : List Reference} {fault : LineFault}

theorem readLines_cons_of_error (h : readLine line = .error fault) :
    readLines number (line :: ls) = .error (number, fault) := by
  rw [readLines, h]

theorem readLines_cons_of_ok {found : Option Reference} (h : readLine line = .ok found) :
    readLines number (line :: ls) = (readLines (number + 1) ls).map (found.toList ++ ·) := by
  rw [readLines, h]
  cases found with
  | none => cases readLines (number + 1) ls <;> rfl
  | some r => rfl

theorem exists_readLine_of_mem (h : readLines number ls = .ok rs) :
    ∀ line ∈ ls, ∃ found, readLine line = .ok found := by
  induction ls generalizing number rs with
  | nil => simp
  | cons l ls ih =>
    cases hl : readLine l with
    | error fault =>
      rw [readLines_cons_of_error hl] at h
      cases h
    | ok found =>
      rw [readLines_cons_of_ok hl] at h
      obtain ⟨rest, hrest, -⟩ := map_eq_ok.1 h
      simpa [hl] using ih hrest

theorem exists_of_readLines_eq_error (h : readLines number ls = .error (n, fault)) : ∃ before line after,
    ls = before ++ line :: after ∧ (∀ l ∈ before, ∃ found, readLine l = .ok found) ∧ readLine line = .error fault ∧
      n = number + before.length := by
  induction ls generalizing number with
  | nil => cases h
  | cons l ls ih =>
    cases hl : readLine l with
    | error found =>
      rw [readLines_cons_of_error hl] at h
      cases h
      exact ⟨[], l, ls, rfl, by simp, hl, rfl⟩
    | ok found =>
      rw [readLines_cons_of_ok hl] at h
      obtain ⟨before, line, after, rfl, hbefore, hline, rfl⟩ := ih (map_eq_error.1 h)
      refine ⟨l :: before, line, after, rfl, by simpa [hl] using hbefore, hline, ?_⟩
      simp only [List.length_cons]
      omega

theorem readLines_texts_eq_ok_iff {ts : List (List Char)} :
    readLines number (ts.map (·.flatMap encodeChar)) = .ok rs ↔
    List.Forall₂ (fun line r => r.IsOn line) ((ts.map withoutReturns).filter (· ≠ [])) rs := by
  induction ts generalizing number rs with
  | nil => simp [readLines, eq_comm]
  | cons t ts ih =>
    have hencode : t.flatMap encodeChar = encode (String.ofList t) := by rw [encode, String.toList_ofList]
    rw [List.map_cons, List.map_cons, hencode]
    by_cases hblank : withoutReturns t = []
    · have hline : readLine (encode (String.ofList t)) = .ok none := readLine_of_blank (by simpa using hblank)
      rw [readLines_cons_of_ok hline, List.filter_cons_of_neg (by simpa using hblank), ← @ih (number + 1),
        map_eq_ok]
      simp
    · have hline : readLine (encode (String.ofList t)) = _ := readLine_of_nonblank (by simpa using hblank)
      rw [String.toList_ofList] at hline
      rw [List.filter_cons_of_pos (by simpa using hblank), List.forall₂_cons_left_iff]
      cases hr : Reference.ofLine? (String.ofList (withoutReturns t)) with
      | error fault =>
        rw [hr] at hline
        rw [readLines_cons_of_error hline]
        simp [← Reference.ofLine?_eq_ok_iff, hr]
      | ok r =>
        rw [hr] at hline
        rw [readLines_cons_of_ok hline, map_eq_ok]
        simp [← Reference.ofLine?_eq_ok_iff, hr, ih, eq_comm]

theorem readReferences_eq_ok_iff {bytes : List UInt8} : readReferences bytes = .ok rs ↔
    ∃ s, bytes = encode s ∧ List.Forall₂ (fun line r => r.IsOn line) (bareLines s) rs := by
  constructor
  · intro h
    have htexts : ∀ line ∈ pieces (· == lineFeed) bytes, ∃ s, line = encode s := by
      intro line hline
      obtain ⟨found, hfound⟩ := exists_readLine_of_mem h line hline
      cases found with
      | none =>
        obtain ⟨s, hs, -⟩ := readLine_eq_none_iff.1 hfound
        exact ⟨s, hs⟩
      | some r =>
        obtain ⟨s, hs, -⟩ := readLine_eq_some_iff.1 hfound
        exact ⟨s, hs⟩
    obtain ⟨s, rfl⟩ := exists_encode_of_pieces htexts
    rw [readReferences, pieces_encode, readLines_texts_eq_ok_iff] at h
    exact ⟨s, rfl, h⟩
  · rintro ⟨s, rfl, h⟩
    rw [readReferences, pieces_encode, readLines_texts_eq_ok_iff]
    exact h

theorem exists_readReferences_iff {bytes : List UInt8} :
    (∃ rs, readReferences bytes = .ok rs) ↔ IsReferenceFile bytes := by
  have hlines (s : String) : (∃ rs, List.Forall₂ (fun line (r : Reference) => r.IsOn line) (bareLines s) rs) ↔
      ∀ line ∈ pieces (· == '\n') s.toList,
        withoutReturns line = [] ∨ ∃ r : Reference, r.IsOn (withoutReturns line) := by
    rw [Lists.exists_forall₂_iff]
    simp [bareLines, or_iff_not_imp_left]
  simp only [readReferences_eq_ok_iff, IsReferenceFile, ← hlines]
  constructor
  · rintro ⟨rs, s, hs, h⟩
    exact ⟨s, hs, rs, h⟩
  · rintro ⟨s, hs, rs, h⟩
    exact ⟨rs, s, hs, h⟩

theorem isLeast_of_readReferences_eq_error {bytes : List UInt8} (h : readReferences bytes = .error (n, fault)) :
    IsLeast (brokenLines bytes) n ∧ ∃ line, (pieces (· == lineFeed) bytes)[n - 1]? = some line ∧
      Breaks line fault := by
  obtain ⟨before, line, after, hlines, hbefore, hline, rfl⟩ := exists_of_readLines_eq_error h
  have hbreaks : Breaks line fault := readLine_eq_error_iff.1 hline
  have hat : (pieces (· == lineFeed) bytes)[before.length]? = some line := by simp [hlines]
  refine ⟨⟨⟨before.length, line, fault, Nat.add_comm 1 _, hat, hbreaks⟩, ?_⟩, line, by simpa using hat, hbreaks⟩
  rintro _ ⟨i, other, fault', rfl, hi, hother⟩
  by_contra hearlier
  have hlt : i < before.length := by omega
  rw [hlines, List.getElem?_append_left hlt] at hi
  obtain ⟨found, hfound⟩ := hbefore other (List.mem_of_getElem? hi)
  rw [readLine_eq_error_iff.2 hother] at hfound
  cases hfound

end

theorem loadReferences_eq_of_find? {d : Disk} {path : Path} {bytes : List UInt8} {t : Nat}
    (hfile : d.find? path.text = some (.file bytes t)) : loadReferences d path =
      (readReferences bytes).mapError fun (number, fault) => .badLine path.text number fault := by
  rw [loadReferences, if_pos (Disk.isThere_of_find? hfile), Disk.read_of_find? hfile]
  rfl

theorem readReferences_of_loadReferences {d : Disk} {path : Path} {bytes : List UInt8} {t : Nat}
    {rs : List Reference} (hfile : d.find? path.text = some (.file bytes t))
    (h : loadReferences d path = .ok rs) :
    readReferences bytes = .ok rs := by
  rw [loadReferences_eq_of_find? hfile] at h
  cases hread : readReferences bytes with
  | ok found =>
    rw [hread] at h
    cases h
    rfl
  | error fault =>
    rw [hread] at h
    cases h

/-- **What is loaded from a file.** References are loaded exactly if the file is a text
in which every line, without the returns at its end, is blank or has a reference on it;
and they are those on the lines that are not blank, in order. From any other file comes
a fault, of the first line that is no text, has too few fields or an unknown token. -/
theorem loadReferences_format {d : Disk} {path : Path} {bytes : List UInt8} {t : Nat}
    (hfile : d.find? path.text = some (.file bytes t)) :
    ((∃ rs, loadReferences d path = .ok rs) ↔ IsReferenceFile bytes) ∧
      (∀ rs, loadReferences d path = .ok rs →
        ∃ s, bytes = encode s ∧ List.Forall₂ (fun line r => r.IsOn line) (bareLines s) rs) ∧
      (¬ IsReferenceFile bytes → ∃ (number : Nat) (fault : LineFault),
        loadReferences d path = .error (.badLine path.text number fault) ∧ IsLeast (brokenLines bytes) number ∧
          ∃ line, (pieces (· == lineFeed) bytes)[number - 1]? = some line ∧ Breaks line fault) := by
  rw [loadReferences_eq_of_find? hfile, ← exists_readReferences_iff]
  cases h : readReferences bytes with
  | ok rs =>
    refine ⟨by simp [Except.mapError], ?_, fun hno => absurd ⟨rs, rfl⟩ hno⟩
    rintro _ ⟨⟩
    exact readReferences_eq_ok_iff.1 h
  | error found =>
    obtain ⟨number, fault⟩ := found
    refine ⟨by simp [Except.mapError], ?_, fun _ => ⟨number, fault, rfl, isLeast_of_readReferences_eq_error h⟩⟩
    rintro _ ⟨⟩

def fileDisk (bytes : List UInt8) : Disk := (Disk.empty ["w"]).addFile ["w", "r"] bytes

def filePath : Path := Path.ofString "r"

/-- A text with a line of returns, a blank one, tabs in a label and no line feed at its end. -/
def looseText : String := "\r\r\na\tReference\t b\tc\r\r\n\n\tPackageReference\t"

def looseReferences : List Reference := [⟨"a", .direct, " b\tc"⟩, ⟨"", .package, ""⟩]

/-- Bytes with three faults, of which the first is on a line that is no text. -/
def brokenBytes : List UInt8 :=
  Text.Utf8.encode "\r\na\tReference\tb\n" ++ 0xC0 :: 0x80 :: Text.Utf8.encode "\na\tPackage\tb\na"

/-- The text is loaded; of the bytes the third line is told. -/
theorem loadReferences_loose_broken :
    IsReferenceFile (Text.Utf8.encode looseText) ∧
      loadReferences (fileDisk (Text.Utf8.encode looseText)) filePath = .ok looseReferences ∧
      ¬ IsReferenceFile brokenBytes ∧
      loadReferences (fileDisk brokenBytes) filePath = .error (.badLine "r" 3 (.notUtf8 .startByte)) ∧
      IsLeast (brokenLines brokenBytes) 3 := by
  have hthere (bytes : List UInt8) : (fileDisk bytes).find? filePath.text = some (.file bytes 1) := by rfl
  obtain ⟨hloose, -, -⟩ := loadReferences_format (hthere (Text.Utf8.encode looseText))
  obtain ⟨hbroken, -, hfault⟩ := loadReferences_format (hthere brokenBytes)
  have hloaded : loadReferences (fileDisk (Text.Utf8.encode looseText)) filePath = .ok looseReferences := by
    decide +kernel
  have htold : loadReferences (fileDisk brokenBytes) filePath = .error (.badLine "r" 3 (.notUtf8 .startByte)) := by
    decide +kernel
  have hno : ¬ IsReferenceFile brokenBytes := by
    rw [← hbroken, htold]
    simp
  obtain ⟨number, fault, hnumber, hleast, -⟩ := hfault hno
  rw [htold] at hnumber
  cases hnumber
  exact ⟨hloose.1 ⟨_, hloaded⟩, hloaded, hno, htold, hleast⟩

end Store
end ReferenceAudit
