import Mathlib.Data.List.Nodup
import ReferenceAudit.Proofs.DumpedListings
import ReferenceAudit.Proofs.PathsBelow
import ReferenceAudit.Proofs.ReportLines

/-!
# Listings of modules written in other case

Listings are compared up to case, but their lines stand in the order of code points, where case counts. Main
statement: after modules were replaced by the same ones in other case, a listing is written again exactly if its
modules, up to case, have come to stand in another order.
-/
namespace ReferenceAudit

namespace Text

theorem foldChar_lineFeed : foldChar '\n' = ['\n'] := foldChar_of_isBlank (by decide)

theorem lineFeed_mem_fold_iff {s : String} : '\n' ∈ (fold s).toList ↔ '\n' ∈ s.toList := by
  rw [toList_fold]
  exact mem_flatMap_foldChar_of_isBlank (by decide)

theorem join_inj {sep : Char} {xs ys : List String} (hlength : xs.length = ys.length)
    (hxs : ∀ x ∈ xs, sep ∉ x.toList) (hys : ∀ y ∈ ys, sep ∉ y.toList) :
    join (String.singleton sep) xs = join (String.singleton sep) ys ↔ xs = ys := by
  refine ⟨fun h => ?_, congrArg _⟩
  by_cases hempty : xs = []
  · subst hempty
    exact (List.length_eq_zero_iff.1 hlength.symm).symm
  · have hempty' : ys ≠ [] := by
      rintro rfl
      exact hempty (List.length_eq_zero_iff.1 hlength)
    rw [← splitOn_join hempty hxs, h, splitOn_join hempty' hys]

end Text

namespace Store
variable {f : String → String} {modules used offered old new : List String} {rewritten : Prop}

/-- Each module is replaced by the same one in other case, and different ones by different ones. -/
structure Recasing (f : String → String) (modules : List String) : Prop where
  fold_eq : ∀ m ∈ modules, Text.fold (f m) = Text.fold m
  injective : ∀ m ∈ modules, ∀ m' ∈ modules, f m = f m' → m = m'

/-- What becomes of a listing when its modules are replaced: the new one has them in
some order, and is written if its text differs by more than case. That is if they
stand in another order, as long as no module has a line feed. -/
structure Relisted (f : String → String) (old new : List String) (rewritten : Prop) : Prop where
  perm : new.Perm (old.map f)
  rewritten_iff : rewritten ↔ Text.fold (listingText new) ≠ Text.fold (listingText old)
  reordered_iff : (∀ m ∈ old, '\n' ∉ m.toList) → (rewritten ↔ new.map Text.fold ≠ old.map Text.fold)

theorem fold_listingText (modules : List String) :
    Text.fold (listingText modules) = listingText (modules.map Text.fold) :=
  Text.fold_join Text.foldChar_lineFeed modules

theorem fold_listingText_congr (h : new.map Text.fold = old.map Text.fold) :
    Text.fold (listingText new) = Text.fold (listingText old) := by
  rw [fold_listingText, fold_listingText, h]

theorem map_fold_map (hf : ∀ m ∈ old, Text.fold (f m) = Text.fold m) :
    (old.map f).map Text.fold = old.map Text.fold := by
  rw [List.map_map]
  exact List.map_congr_left hf

theorem relisted_of_perm (hf : ∀ m ∈ old, Text.fold (f m) = Text.fold m) (hperm : new.Perm (old.map f))
    (h : rewritten ↔ Text.fold (listingText new) ≠ Text.fold (listingText old)) : Relisted f old new rewritten := by
  refine ⟨hperm, h, fun hbare => ?_⟩
  have hfolded : (new.map Text.fold).Perm (old.map Text.fold) := map_fold_map hf ▸ hperm.map Text.fold
  have hold : ∀ m ∈ old.map Text.fold, '\n' ∉ m.toList := by
    simp only [List.mem_map, forall_exists_index, and_imp, forall_apply_eq_imp_iff₂, Text.lineFeed_mem_fold_iff]
    exact hbare
  have hnew : ∀ m ∈ new.map Text.fold, '\n' ∉ m.toList := fun m hm => hold m (hfolded.subset hm)
  rw [h, fold_listingText, fold_listingText]
  exact not_congr (Text.join_inj hfolded.length_eq hnew hold)

theorem IsListing.relisted {p p' : String → Prop} (hold : IsListing old p) (hnew : IsListing new p')
    (hf : Recasing f modules) (hmem : ∀ m ∈ old, m ∈ modules) (hp : ∀ m', p' m' ↔ ∃ m, p m ∧ f m = m')
    (h : rewritten ↔ Text.fold (listingText new) ≠ Text.fold (listingText old)) : Relisted f old new rewritten := by
  refine relisted_of_perm (fun m hm => hf.fold_eq m (hmem m hm)) ?_ h
  have hnodup : (old.map f).Nodup := (Text.nodup_of_pairwise_lt hold.ordered).map_on fun m hm m' hm' =>
    hf.injective m (hmem m hm) m' (hmem m' hm')
  refine (List.perm_ext_iff_of_nodup (Text.nodup_of_pairwise_lt hnew.ordered) hnodup).2 fun m' => ?_
  rw [hnew.mem_iff, hp, List.mem_map]
  simp only [hold.mem_iff]

theorem Relisted.not_rewritten (h : Relisted f old new rewritten) (hf : ∀ m ∈ old, Text.fold (f m) = Text.fold m)
    (hold : old.Pairwise (· < ·)) (hnew : new.Pairwise (· < ·))
    (hmono : ∀ m ∈ old, ∀ m' ∈ old, m < m' → f m < f m') :
    ¬ rewritten := by
  have hmap : (old.map f).Pairwise (· < ·) := List.pairwise_map.2 (hold.imp_of_mem fun hm hm' => hmono _ hm _ hm')
  have heq : new = old.map f := h.perm.eq_of_pairwise (fun a b _ _ hab hba => absurd hba (String.lt_asymm hab))
      hnew hmap
  rw [h.rewritten_iff, not_not]
  exact fold_listingText_congr (heq ▸ map_fold_map hf)

theorem Recasing.unused_iff (hf : Recasing f (used ++ offered)) (m' : String) :
    (m' ∈ offered.map f ∧ ∀ u ∈ used.map f, Text.fold u ≠ Text.fold m') ↔
      ∃ m, (m ∈ offered ∧ ∀ u ∈ used, Text.fold u ≠ Text.fold m) ∧ f m = m' := by
  have hused : ∀ u ∈ used, Text.fold (f u) = Text.fold u := fun u hu => hf.fold_eq u (List.mem_append_left _ hu)
  have hoffered : ∀ m ∈ offered, Text.fold (f m) = Text.fold m := fun m hm =>
    hf.fold_eq m (List.mem_append_right _ hm)
  constructor
  · rintro ⟨hm', hnone⟩
    obtain ⟨m, hm, rfl⟩ := List.mem_map.1 hm'
    refine ⟨m, ⟨hm, fun u hu heq => ?_⟩, rfl⟩
    exact hnone (f u) (List.mem_map_of_mem hu) (by rw [hused u hu, hoffered m hm, heq])
  · rintro ⟨m, ⟨hm, hnone⟩, rfl⟩
    refine ⟨List.mem_map_of_mem hm, fun u' hu' => ?_⟩
    obtain ⟨u, hu, rfl⟩ := List.mem_map.1 hu'
    rw [hused u hu, hoffered m hm]
    exact hnone u hu

variable {directory : Path} {d d₁ : Disk} {written : List Path}

/-- **Case alone can have listings written again.** After listings were dumped and their modules replaced by the
same ones in other case, both can be dumped, and each is written exactly if its modules, up to case, come to
stand in another order. So none is if replacing keeps the order of code points, and then nothing changes. -/
theorem redump_recased (hp : ∀ part ∈ directory.parts, Path.IsComponent part) (hf : Recasing f (used ++ offered))
    (h : Effect.runOn (dump directory used offered) d = (.ok written, d₁)) :
    ∃ again d₂, Effect.runOn (dump directory (used.map f) (offered.map f)) d₁ = (.ok again, d₂) ∧
      again.Sublist [directory.child usedFileName, directory.child unusedFileName] ∧ (again = [] → d₂ = d₁) ∧
      Relisted f (usedListing used) (usedListing (used.map f)) (directory.child usedFileName ∈ again) ∧
      Relisted f (unusedListing used offered) (unusedListing (used.map f) (offered.map f))
        (directory.child unusedFileName ∈ again) ∧
      ((∀ m ∈ used ++ offered, ∀ m' ∈ used ++ offered, m < m' → f m < f m') → again = []) := by
  have hdumps := dumps_of_runOn hp h
  obtain ⟨again, d₂, hrun, hredumps, husedIff, hunusedIff⟩ := exists_runOn_dump_of_shows hp hdumps.used_shows
    hdumps.unused_shows (used.map f) (offered.map f)
  have husedMem : ∀ m ∈ usedListing used, m ∈ used ++ offered := fun m hm =>
    List.mem_append_left _ (((isListing_usedListing used).mem_iff m).1 hm)
  have hunusedMem : ∀ m ∈ unusedListing used offered, m ∈ used ++ offered := fun m hm =>
    List.mem_append_right _ (((isListing_unusedListing used offered).mem_iff m).1 hm).1
  have hused := (isListing_usedListing used).relisted (isListing_usedListing (used.map f)) hf husedMem
    (fun _ => List.mem_map) husedIff
  have hunused := (isListing_unusedListing used offered).relisted (isListing_unusedListing _ _) hf hunusedMem
    hf.unused_iff hunusedIff
  refine ⟨again, d₂, hrun, hredumps.sublist, hredumps.kept, hused, hunused, fun hmono => ?_⟩
  have hkeeps {modules : List String} (hmem : ∀ m ∈ modules, m ∈ used ++ offered) (m : String) (hm : m ∈ modules)
      (m' : String) (hm' : m' ∈ modules) : m < m' → f m < f m' := hmono m (hmem m hm) m' (hmem m' hm')
  have hnotUsed := hused.not_rewritten (fun m hm => hf.fold_eq m (husedMem m hm))
    (isListing_usedListing _).ordered (isListing_usedListing _).ordered (hkeeps husedMem)
  have hnotUnused := hunused.not_rewritten (fun m hm => hf.fold_eq m (hunusedMem m hm))
    (isListing_unusedListing _ _).ordered (isListing_unusedListing _ _).ordered (hkeeps hunusedMem)
  refine List.eq_nil_iff_forall_not_mem.2 fun path hpath => ?_
  have hboth := hredumps.sublist.subset hpath
  simp only [List.mem_cons, List.not_mem_nil, or_false] at hboth
  rcases hboth with rfl | rfl
  · exact hnotUsed hpath
  · exact hnotUnused hpath

/-- Two letters in the other case. -/
def swapCase (m : String) : String :=
  if m = "a" then "A" else if m = "b" then "B" else if m = "B" then "b" else m

def logsPath : Path := Path.ofString "logs"

/-- A directory with a listing of used modules and one of no others. -/
def loggedDisk (text : String) : Disk :=
  ((Disk.empty ["w"]).addFile ["w", "logs", usedFileName] (Text.Utf8.encode text)).addFile
    ["w", "logs", unusedFileName] []

/-- In other case the letters stay in order, and nothing is written again. -/
theorem letters_not_rewritten :
    Effect.runOn (dump logsPath ["a", "b"] []) (Disk.empty ["w"]) =
      (.ok [logsPath.child usedFileName, logsPath.child unusedFileName], loggedDisk "a\nb") ∧
    Effect.runOn (dump logsPath ["A", "B"] []) (loggedDisk "a\nb") = (.ok [], loggedDisk "a\nb") := by
  have hp : ∀ part ∈ logsPath.parts, Path.IsComponent part := fun _ => Path.isComponent_of_mem_ofString
  have hf : Recasing swapCase (["a", "b"] ++ []) := ⟨by decide +kernel, by decide +kernel⟩
  have hlisted : usedListing ["a", "b"] = ["a", "b"] :=
    (Text.eq_sortedSet (by decide +kernel) fun m => by grind).symm
  have hrun : Effect.runOn (dump logsPath ["a", "b"] []) (Disk.empty ["w"]) =
      (.ok [logsPath.child usedFileName, logsPath.child unusedFileName], loggedDisk "a\nb") := by
    rw [dump, hlisted]
    decide +kernel
  obtain ⟨again, d₂, hagain, -, hkept, -, -, hnone⟩ := redump_recased hp hf hrun
  obtain rfl := hnone (by decide +kernel)
  obtain rfl := hkept rfl
  exact ⟨hrun, hagain⟩

/-- Lower-case letters come behind upper-case ones, so in other case these two change
places, and their listing is written again. -/
theorem recased_rewritten :
    ¬ ∀ (f : String → String) (used offered : List String) (directory : Path) (d d₁ : Disk) (written : List Path),
      (∀ part ∈ directory.parts, Path.IsComponent part) → Recasing f (used ++ offered) →
      Effect.runOn (dump directory used offered) d = (.ok written, d₁) →
      Effect.runOn (dump directory (used.map f) (offered.map f)) d₁ = (.ok [], d₁) := by
  intro h
  have hp : ∀ part ∈ logsPath.parts, Path.IsComponent part := fun _ => Path.isComponent_of_mem_ofString
  have hf : Recasing swapCase (["a", "B"] ++ []) := ⟨by decide +kernel, by decide +kernel⟩
  have hlisted : usedListing ["a", "B"] = ["B", "a"] :=
    (Text.eq_sortedSet (by decide +kernel) fun m => by grind).symm
  have hrelisted : usedListing (["a", "B"].map swapCase) = ["A", "b"] := by
    have hmap : ["a", "B"].map swapCase = ["A", "b"] := by decide +kernel
    rw [hmap]
    exact (Text.eq_sortedSet (by decide +kernel) fun m => by grind).symm
  have hrun : Effect.runOn (dump logsPath ["a", "B"] []) (Disk.empty ["w"]) =
      (.ok [logsPath.child usedFileName, logsPath.child unusedFileName], loggedDisk "B\na") := by
    rw [dump, hlisted]
    decide +kernel
  have hagain := h swapCase ["a", "B"] [] logsPath _ _ _ hp hf hrun
  rw [dump, hrelisted] at hagain
  exact absurd hagain (by decide +kernel)

end Store
end ReferenceAudit
