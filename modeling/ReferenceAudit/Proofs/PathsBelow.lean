import ReferenceAudit.Proofs.Folding
import ReferenceAudit.Proofs.Lists
import ReferenceAudit.Proofs.Locations

/-!
# Paths below others

Whether a path is below a directory is seen from their folded texts: the one starts with the other and a slash.
Main statement: of paths that lead from the root, that are those whose components, folded, start with the
directory's, and go on.
-/
namespace ReferenceAudit

namespace Text

theorem slash_not_folded : '/'.toNat ∉ images CaseTables.foldRuns CaseTables.foldExpansions ∧
    foldChar '/' = ['/'] := by
  decide +kernel

theorem slash_mem_fold_iff {s : String} : '/' ∈ (fold s).toList ↔ '/' ∈ s.toList := by
  rw [toList_fold, List.mem_flatMap]
  constructor
  · rintro ⟨c, hc, hslash⟩
    exact eq_of_mem_foldChar hslash slash_not_folded.1 ▸ hc
  · exact fun h => ⟨'/', h, slash_not_folded.2 ▸ List.mem_singleton_self _⟩

theorem join_cons {parts : List String} (hn : parts ≠ []) (sep part : String) :
    join sep (part :: parts) = part ++ (sep ++ join sep parts) := by
  rw [join, String.intercalate_cons_of_ne_nil hn, String.append_assoc, join]

theorem join_append {parts parts' : List String} (hn : parts ≠ []) (hn' : parts' ≠ []) (sep : String) :
    join sep (parts ++ parts') = join sep parts ++ (sep ++ join sep parts') := by
  induction parts with
  | nil => exact absurd rfl hn
  | cons part parts ih =>
    by_cases hlast : parts = []
    · rw [hlast, List.singleton_append, join_cons hn']
      simp [join]
    · have hmore : parts ++ parts' ≠ [] := List.append_ne_nil_of_left_ne_nil hlast _
      rw [List.cons_append, join_cons hmore, ih hlast, join_cons hlast]
      simp only [String.append_assoc]

theorem fold_join {sep : Char} (h : foldChar sep = [sep]) (parts : List String) :
    fold (join (String.singleton sep) parts) = join (String.singleton sep) (parts.map fold) := by
  apply String.toList_injective
  rw [toList_fold, join, join, String.toList_intercalate, String.toList_intercalate, String.toList_singleton,
    Lists.flatMap_intercalate h, List.map_map, List.map_map]
  simp only [Function.comp_def, toList_fold]

theorem fold_join_slash (parts : List String) : fold (join "/" parts) = join "/" (parts.map fold) :=
  fold_join slash_not_folded.2 parts

theorem join_slash_prefix_iff {parts parts' : List String} (hn : parts ≠ []) (hs : ∀ p ∈ parts, '/' ∉ p.toList)
    (hs' : ∀ p ∈ parts', '/' ∉ p.toList) :
    (join "/" parts ++ "/").toList <+: (join "/" parts').toList ↔ parts <+: parts' ∧ parts ≠ parts' := by
  constructor
  · rintro ⟨rest, hrest⟩
    have hn' : parts' ≠ [] := by
      rintro rfl
      simp [join] at hrest
    have hpieces : parts' = parts ++ (rest.splitOn '/').map String.ofList := by
      have hchars : (join "/" parts').toList = (join "/" parts).toList ++ '/' :: rest := by
        rw [← hrest]
        simp
      calc parts' = splitOn '/' (join "/" parts') := (splitOn_join hn' hs').symm
        _ = splitOn '/' (join "/" parts) ++ (rest.splitOn '/').map String.ofList := by
          rw [splitOn_eq, splitOn_eq, hchars, List.splitOn_append_cons_self, List.map_append]
        _ = parts ++ (rest.splitOn '/').map String.ofList := congrArg (· ++ _) (splitOn_join hn hs)
    refine ⟨⟨_, hpieces.symm⟩, fun he => ?_⟩
    simp [← he] at hpieces
  · rintro ⟨⟨rest, rfl⟩, hne⟩
    have hrest : rest ≠ [] := by
      rintro rfl
      exact hne (List.append_nil _).symm
    rw [join_append hn hrest, ← String.append_assoc, String.toList_append (s := join "/" parts ++ "/")]
    exact List.prefix_append _ _

end Text

theorem Path.exists_getLast?_join {parts : List String} (hn : parts ≠ [])
    (hparts : ∀ part ∈ parts, IsComponent part) :
    ∃ c, (Text.join "/" parts).toList.getLast? = some c ∧ c ≠ '/' := by
  obtain ⟨before, last, rfl⟩ := (List.eq_nil_or_concat parts).resolve_left hn
  rw [List.concat_eq_append] at hparts ⊢
  obtain ⟨hproper, hslash⟩ := hparts last (by simp)
  obtain ⟨text, htext⟩ : ∃ text, Text.join "/" (before ++ [last]) = text ++ last := by
    by_cases hbefore : before = []
    · exact ⟨"", by simp [hbefore, Text.join]⟩
    · refine ⟨Text.join "/" before ++ "/", ?_⟩
      rw [Text.join_append hbefore (List.cons_ne_nil _ _)]
      simp [Text.join, String.append_assoc]
  have hchars : last.toList ≠ [] := by
    rw [Ne, String.toList_eq_nil_iff]
    rintro rfl
    exact absurd hproper (by decide)
  rw [htext, String.toList_append, List.getLast?_append, List.getLast?_eq_some_getLast hchars, Option.some_or]
  exact ⟨_, rfl, fun he => hslash (he ▸ List.getLast_mem hchars)⟩

namespace Disk
variable {d : Disk} {root path : String}

/-- A path leads from the root by names: it is absolute with one slash in front, or starts at a place with names. -/
def IsRooted (d : Disk) (path : String) : Prop :=
  (Path.ofString path).root = .single ∨
    ((Path.ofString path).root = .relative ∧ ∀ part ∈ d.cwd, Path.IsComponent part)

/-- Whether a path is below a directory, by their folded absolute forms: the path's
starts with the directory's and a slash. -/
def IsBelow (d : Disk) (root path : String) : Prop :=
  (Text.fold (Path.joinText (Path.absolute d.here root) "")).toList <+:
    (Text.fold (Path.absolute d.here path)).toList

instance (d : Disk) (root path : String) : Decidable (d.IsBelow root path) := inferInstanceAs (Decidable (_ <+: _))

theorem isComponent_of_mem_lexical (h : d.IsRooted path) {part : String} (hm : part ∈ d.lexical path) :
    Path.IsComponent part := by
  have hparts : part ∈ (d.here.append (Path.ofString path)).parts :=
    (Path.mem_foldl_push hm).resolve_left List.not_mem_nil
  rw [Path.append] at hparts
  rcases h with hsingle | ⟨hrelative, hcwd⟩
  · rw [if_pos (by simp [Path.isAbsolute, hsingle])] at hparts
    exact Path.isComponent_of_mem_ofString hparts
  · rw [if_neg (by simp [Path.isAbsolute, hrelative])] at hparts
    rcases List.mem_append.1 hparts with hhere | hparts
    · exact hcwd part hhere
    · exact Path.isComponent_of_mem_ofString hparts

theorem absolute_eq_of_isRooted (h : d.IsRooted path) :
    Path.absolute d.here path = "/" ++ Text.join "/" (d.lexical path) := by
  have hroot : (d.here.append (Path.ofString path)).root = .single := by
    rw [Path.append]
    rcases h with hsingle | ⟨hrelative, -⟩
    · rw [if_pos (by simp [Path.isAbsolute, hsingle]), hsingle]
    · rw [if_neg (by simp [Path.isAbsolute, hrelative])]
      rfl
  rw [Path.absolute, Path.text, Path.normal, hroot, if_neg (by simp), lexical, Path.normal, hroot]
  rfl

theorem joinText_empty {parts : List String} (hn : parts ≠ []) (hparts : ∀ part ∈ parts, Path.IsComponent part) :
    Path.joinText ("/" ++ Text.join "/" parts) "" = "/" ++ (Text.join "/" parts ++ "/") := by
  obtain ⟨c, hc, hne⟩ := Path.exists_getLast?_join hn hparts
  have hlast : ("/" ++ Text.join "/" parts).toList.getLast? ≠ some '/' := by
    rw [String.toList_append, List.getLast?_append, hc]
    simpa using hne
  rw [Path.joinText, if_neg (by simp), if_neg (not_or.2 ⟨by simp, hlast⟩), String.append_empty, String.append_assoc]

theorem isBelow_iff (hroot : d.IsRooted root) (hpath : d.IsRooted path) (hne : d.lexical root ≠ []) :
    d.IsBelow root path ↔ (d.lexical root).map Text.fold <+: (d.lexical path).map Text.fold ∧
      (d.lexical root).map Text.fold ≠ (d.lexical path).map Text.fold := by
  have hplain {path : String} (h : d.IsRooted path) : ∀ p ∈ (d.lexical path).map Text.fold, '/' ∉ p.toList := by
    intro p hp
    obtain ⟨part, hpart, rfl⟩ := List.mem_map.1 hp
    rw [Text.slash_mem_fold_iff]
    exact (isComponent_of_mem_lexical h hpart).2
  have hslash : Text.fold "/" = "/" := by decide +kernel
  rw [IsBelow, absolute_eq_of_isRooted hroot, absolute_eq_of_isRooted hpath,
    joinText_empty hne fun part hm => isComponent_of_mem_lexical hroot hm]
  simp only [Text.fold_append, Text.fold_join_slash, hslash, String.toList_append (s := "/"),
    List.prefix_append_right_inj]
  exact Text.join_slash_prefix_iff (by simpa using hne) (hplain hroot) (hplain hpath)

/-- A name that goes on where the directory's ends is another name. -/
example : (Disk.empty ["w"]).IsBelow "/p/lib" "/P/Lib/a.dll" ∧
    ¬(Disk.empty ["w"]).IsBelow "/p/lib" "/p/library/a.dll" := by
  decide +kernel

end Disk
end ReferenceAudit
