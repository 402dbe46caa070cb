import ReferenceAudit.Proofs.Lists
import ReferenceAudit.Proofs.Locations
import ReferenceAudit.Proofs.Utf8
import ReferenceAudit.Store.References

/-!
# References read back from their lines

A reference that has a line is on it as it was: the two tabs that part the fields are the line's first two, since
no tab stands in the identity. No byte of a line ends it, so the lines of a text are found again in its bytes.
Main statement: the references that a text was written for are read back from its bytes.
-/
namespace ReferenceAudit

namespace Text

variable {α : Type} [BEq α] [LawfulBEq α] {sep : α}

theorem pieces_append_cons {xs : List α} (h : sep ∉ xs) (rest : List α) :
    pieces (· == sep) (xs ++ sep :: rest) = xs :: pieces (· == sep) rest := by
  rw [pieces_eq_splitOnP, pieces_eq_splitOnP]
  exact List.splitOn_append_cons_self_of_not_mem h rest

theorem pieces_flatMap {ls : List (List α)} (h : ∀ l ∈ ls, sep ∉ l) :
    pieces (· == sep) (ls.flatMap (· ++ [sep])) = ls ++ [[]] := by
  induction ls with
  | nil => rfl
  | cons l ls ih =>
    have hrest : pieces (· == sep) (ls.flatMap (· ++ [sep])) = ls ++ [[]] := ih fun x hx =>
      h x (List.mem_cons_of_mem _ hx)
    rw [List.flatMap_cons, List.append_assoc, List.singleton_append,
      pieces_append_cons (h l List.mem_cons_self), hrest,
      List.cons_append]

namespace Utf8

theorem toNat_eq_of_mem_encodeChar {c : Char} {b : UInt8} (hb : b ∈ encodeChar c) (hlt : b.toNat < 0x80) :
    c.toNat = b.toNat := by
  obtain ⟨first, run, hbytes, hspells⟩ := exists_spells c
  have hnotail : b ∉ run := fun hm => by
    have htail := hspells.tail b hm
    simp only [isTail, Bool.and_eq_true, decide_eq_true_eq] at htail
    omega
  rw [hbytes] at hb
  obtain rfl : b = first := (List.mem_cons.1 hb).resolve_right hnotail
  have hnone : run = [] := by
    have howed : some 0 = some run.length := by rw [← hspells.owed, owed, if_pos hlt]
    exact List.length_eq_zero_iff.1 (Option.some.inj howed).symm
  subst hnone
  exact hspells.code.symm

end Utf8

end Text

namespace Reference

/-- What a line must not lose: where it ends, and where its identity does. -/
structure HasLine (r : Reference) : Prop where
  identity : ∀ c ∈ r.identity.toList, isBreak c = false
  label : ∀ c ∈ r.label.toList, isBreak c = false
  tab : tab ∉ r.identity.toList

theorem line?_eq_ok_iff {r : Reference} {l : String} : r.line? = .ok l ↔ r.HasLine ∧ l = r.line := by
  have hany (cs : List Char) : cs.any isBreak = true ↔ ¬ ∀ c ∈ cs, isBreak c = false := by simp
  have htab : r.identity.toList.contains tab = true ↔ tab ∈ r.identity.toList := List.contains_iff_mem
  simp only [line?, hany, htab]
  constructor
  · intro h
    split at h
    · cases h
    rename_i hidentity
    split at h
    · cases h
    rename_i hlabel
    split at h
    · cases h
    rename_i hnotab
    exact ⟨⟨not_not.1 hidentity, not_not.1 hlabel, hnotab⟩, (Except.ok.inj h).symm⟩
  · rintro ⟨h, rfl⟩
    rw [if_neg (not_not.2 h.identity), if_neg (not_not.2 h.label), if_neg h.tab]

theorem toList_line (r : Reference) :
    r.line.toList = r.identity.toList ++ tab :: (r.kind.token.toList ++ tab :: r.label.toList) := by
  have htab : "\t".toList = [tab] := rfl
  simp only [line, String.toList_append, htab, List.append_assoc, List.cons_append, List.nil_append]

theorem fields_append {identity token label : List Char} (hi : tab ∉ identity) (ht : tab ∉ token) :
    fields (identity ++ tab :: (token ++ tab :: label)) = [identity, token, label] := by
  rw [fields, Text.pieces_append_cons hi, Text.pieces_append_cons ht]
  have hlabel : [tab].intercalate (Text.pieces (· == tab) label) = label := by
    rw [Text.pieces_eq_splitOnP]
    exact List.intercalate_splitOn tab
  cases hpieces : Text.pieces (· == tab) label with
  | nil => exact absurd hpieces (Text.pieces_ne_nil _ _)
  | cons first more => rw [← hlabel, hpieces]

theorem ofLine?_line {r : Reference} (h : r.HasLine) : ofLine? r.line = .ok r := by
  have htoken : tab ∉ r.kind.token.toList := by cases r.kind <;> decide
  rw [ofLine?, toList_line, fields_append h.tab htoken]
  simp only [String.ofList_toList, Kind.ofToken?_token]

theorem isBreak_of_mem_line {r : Reference} (h : r.HasLine) {c : Char} (hc : c ∈ r.line.toList) :
    isBreak c = false := by
  have htab : isBreak tab = false := rfl
  have htoken : r.kind.token.toList.any isBreak = false := by cases r.kind <;> decide
  rw [toList_line] at hc
  simp only [List.mem_append, List.mem_cons] at hc
  rcases hc with hidentity | rfl | hkind | rfl | hlabel
  · exact h.identity c hidentity
  · exact htab
  · exact Bool.eq_false_iff.2 (List.any_eq_false.1 htoken c hkind)
  · exact htab
  · exact h.label c hlabel

end Reference

namespace Store

variable {r : Reference} {rs : List Reference} {text : String}

theorem lineFeed_not_mem_encode {s : String} (h : '\n' ∉ s.toList) : lineFeed ∉ Text.Utf8.encode s := by
  intro hm
  obtain ⟨c, hc, hb⟩ := List.mem_flatMap.1 hm
  have hcode : c.toNat = '\n'.toNat := Text.Utf8.toNat_eq_of_mem_encodeChar hb (by decide)
  obtain rfl : c = '\n' := Char.toNat_inj.1 hcode
  exact h hc

theorem withoutReturns_of_not_mem {cs : List Char} (h : '\r' ∉ cs) : withoutReturns cs = cs := by
  have hstay : cs.reverse.dropWhile (· == '\r') = cs.reverse := by
    cases hr : cs.reverse with
    | nil => rfl
    | cons c more =>
      have hm : c ∈ cs := List.mem_reverse.1 (hr ▸ List.mem_cons_self)
      have hne : (c == '\r') = false := beq_eq_false_iff_ne.2 fun he => h (he ▸ hm)
      rw [List.dropWhile_cons_of_neg (by simp [hne])]
  rw [withoutReturns, Text.trimEnd, hstay, List.reverse_reverse]

theorem readLine_line (h : r.HasLine) : readLine (Text.Utf8.encode r.line) = .ok (some r) := by
  have hreturn : '\r' ∉ r.line.toList := fun hm => by cases Reference.isBreak_of_mem_line h hm
  have hsome : ∃ c cs, r.line.toList = c :: cs := by
    apply List.exists_cons_of_ne_nil
    simp [Reference.toList_line]
  obtain ⟨c, cs, hcs⟩ := hsome
  rw [readLine, Text.Utf8.decode_encode]
  dsimp only
  rw [withoutReturns_of_not_mem hreturn, hcs]
  dsimp only
  rw [← hcs, String.ofList_toList, Reference.ofLine?_line h]
  rfl

/-- The lines of references are read one by one; the nothing after the last of them is blank. -/
theorem readLines_lines (h : ∀ r ∈ rs, r.HasLine) (number : Nat) :
    readLines number ((rs.map fun r => Text.Utf8.encode r.line) ++ [[]]) = .ok rs := by
  induction rs generalizing number with
  | nil =>
    have hblank : readLine [] = .ok none := by decide +kernel
    rw [List.map_nil, List.nil_append, readLines, hblank]
    rfl
  | cons r rs ih =>
    have hrest := ih (fun x hx => h x (List.mem_cons_of_mem _ hx)) (number + 1)
    rw [List.map_cons, List.cons_append, readLines, readLine_line (h r List.mem_cons_self)]
    dsimp only
    rw [hrest]
    rfl

theorem encode_linesText (ls : List String) :
    Text.Utf8.encode (linesText ls) = (ls.map Text.Utf8.encode).flatMap (· ++ [lineFeed]) := by
  have hfeed : Text.Utf8.encodeChar '\n' = [lineFeed] := by decide
  simp [linesText, Text.Utf8.encode, String.toList_join, List.flatMap_map, List.flatMap_assoc, hfeed]

theorem mapM_line?_eq_ok_iff {ls : List String} :
    rs.mapM Reference.line? = .ok ls ↔ (∀ r ∈ rs, r.HasLine) ∧ ls = rs.map Reference.line := by
  have hmap : List.Forall₂ (fun r l => l = Reference.line r) rs ls ↔ ls = rs.map Reference.line := by
    rw [eq_comm, ← List.forall₂_eq_eq_eq, List.forall₂_map_left_iff]
    simp only [eq_comm]
  simp only [Lists.mapM_eq_ok_iff, Reference.line?_eq_ok_iff, List.forall₂_and_left, hmap]

theorem referencesText_eq_ok_iff :
    referencesText rs = .ok text ↔ (∀ r ∈ rs, r.HasLine) ∧ text = linesText (rs.map Reference.line) := by
  have hlines : referencesText rs = .ok text ↔ ∃ ls, rs.mapM Reference.line? = .ok ls ∧ text = linesText ls := by
    rw [referencesText]
    cases rs.mapM Reference.line? <;> simp [Except.map, eq_comm]
  rw [hlines]
  constructor
  · rintro ⟨ls, hls, rfl⟩
    obtain ⟨h, rfl⟩ := mapM_line?_eq_ok_iff.1 hls
    exact ⟨h, rfl⟩
  · rintro ⟨h, rfl⟩
    exact ⟨_, mapM_line?_eq_ok_iff.2 ⟨h, rfl⟩, rfl⟩

theorem readReferences_encode (h : referencesText rs = .ok text) :
    readReferences (Text.Utf8.encode text) = .ok rs := by
  obtain ⟨hlines, rfl⟩ := referencesText_eq_ok_iff.1 h
  have hfeed : ∀ bytes ∈ (rs.map Reference.line).map Text.Utf8.encode, lineFeed ∉ bytes := by
    intro bytes hm
    rw [List.map_map, List.mem_map] at hm
    obtain ⟨r, hr, rfl⟩ := hm
    exact lineFeed_not_mem_encode fun hc => by cases Reference.isBreak_of_mem_line (hlines r hr) hc
  rw [readReferences, encode_linesText, Text.pieces_flatMap hfeed, List.map_map]
  exact readLines_lines hlines 1

end Store
end ReferenceAudit
