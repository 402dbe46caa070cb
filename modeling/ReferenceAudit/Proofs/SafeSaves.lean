import ReferenceAudit.Proofs.Directories
import ReferenceAudit.Proofs.Refusals
import ReferenceAudit.Proofs.SavedReferences

/-!
# What saving references changes

References are saved all together: their text is made before anything is looked at, and nothing is written that
is there already. Main statement: references of which one has no line leave the disk as it was, and all others
are saved wherever the disk admits a file, with no other change than the directories made for it.
-/
namespace ReferenceAudit

namespace Disk
variable {d d' : Disk} {path : Path} {bytes : List UInt8} {t : Nat}

/-- A file with these bytes is at a path. -/
def Holds (d : Disk) (path : Path) (bytes : List UInt8) : Prop := ∃ t, d.find? path.text = some (.file bytes t)

/-- A disk, and what it is after bytes were saved at a path and it was told whether that took a write. -/
structure Saves (path : Path) (bytes : List UInt8) (d d' : Disk) (wrote : Bool) : Prop where
  holds : d'.Holds path bytes
  others : ∀ loc, loc ≠ d.destination path → d'.entryAt? loc = d.entryAt? loc ∨
    (loc ∈ d.above path ∧ d.entryAt? loc = none ∧ d'.entryAt? loc = some .directory)
  loops : d'.loops = d.loops
  wrote_eq_false_iff : wrote = false ↔ d.Holds path bytes
  kept : wrote = false → d' = d
  written : wrote = true →
    d'.entryAt? (d.destination path) = some (.file bytes (d.clock + 1)) ∧ d'.clock = d.clock + 1

/-- A disk, and what it is after a file was put at a path, the directories above it made first. -/
structure Gains (path : Path) (bytes : List UInt8) (d d' : Disk) : Prop where
  plain : path.IsPlain
  cwd : d'.cwd = d.cwd
  clock : d'.clock = d.clock + 1
  loops : d'.loops = d.loops
  above : ∀ loc ∈ d.above path, d'.entryAt? loc = some .directory
  place : d'.entryAt? (d.destination path) = some (.file bytes (d.clock + 1))
  others : ∀ loc, loc ≠ d.destination path → d'.entryAt? loc = d.entryAt? loc ∨
    (loc ∈ d.above path ∧ d.entryAt? loc = none ∧ d'.entryAt? loc = some .directory)

/-- Only a write changes the disk, by the time of the file if by nothing else. -/
theorem Saves.eq_iff {wrote : Bool} (h : d.Saves path bytes d' wrote) : d' = d ↔ wrote = false := by
  constructor
  · rintro rfl
    cases wrote with
    | false => rfl
    | true =>
      have hclock := (h.written rfl).2
      omega
  · exact h.kept

theorem admits_of_find? (hp : ∀ part ∈ path.parts, Path.IsComponent part)
    (h : d.find? path.text = some (.file bytes t)) : d.Admits path := by
  obtain ⟨loc, hloc, hfile⟩ := find?_eq_some_iff.1 h
  have hne : path.parts ≠ [] := parts_ne_nil_of_locate hloc (by simp [hfile])
  obtain ⟨hplain, habove, rfl⟩ := (locate_eq_ok_iff hp hne).1 hloc
  refine ⟨hplain, habove _ (start_mem_through d _ _), fun l hl => isOpen_of_directory (habove l hl), ⟨?_, ?_⟩,
    fun hmem => ?_⟩
  · simp [hfile]
  · exact isLooped_of_entryAt? hfile
  · rw [habove _ hmem] at hfile
    cases hfile

theorem Gains.holds (h : d.Gains path bytes d') (hp : ∀ part ∈ path.parts, Path.IsComponent part)
    (hne : path.parts ≠ []) : d'.Holds path bytes := by
  have hloc : d'.locate path.text = .ok (d.destination path) := by
    rw [locate_eq_ok_iff hp hne, Disk.above, through_of_cwd h.cwd]
    exact ⟨h.plain, h.above, (destination_of_cwd h.cwd path).symm⟩
  exact ⟨_, find?_eq_some_iff.2 ⟨_, hloc, h.place⟩⟩

end Disk

namespace Effect
open Disk
variable {d d' : Disk} {path : Path} {bytes : List UInt8} {fault : Fault}

theorem grows_of_runOn_save (hp : ∀ part ∈ path.parts, Path.IsComponent part)
    (h : runOn (save path bytes) d = (.error fault, d')) : d.Grows (d.above path) d' := by
  have hparent : ∀ x ∈ path.parts.dropLast, Path.IsComponent x := fun x hx => hp x (List.dropLast_subset _ hx)
  have hgrows := grows_makeDirectories d path.root hparent
  rcases run_bind_eq_error.1 h with hmake | ⟨_, d₁, hmake, hwrite⟩
  · have hmade : runOn (makeDirectories path.root path.parts.dropLast.reverse) d = (.error fault, d') := hmake
    rw [hmade] at hgrows
    exact hgrows
  · have hmade : runOn (makeDirectories path.root path.parts.dropLast.reverse) d = (.ok _, d₁) := hmake
    rw [hmade] at hgrows
    rw [← disk_of_runOn_writeFile hwrite] at hgrows
    exact hgrows

theorem exists_gains_of_admits (hp : ∀ part ∈ path.parts, Path.IsComponent part) (h : d.Admits path)
    (bytes : List UInt8) : ∃ d', runOn (save path bytes) d = (.ok (), d') ∧ d.Gains path bytes d' := by
  obtain ⟨d₁, hgrows, hsave, hfree, hloc⟩ := exists_runOn_save hp h bytes
  refine ⟨_, hsave, h.plain, hgrows.cwd, ?_, hgrows.loops, fun loc hmem => ?_, ?_, fun loc hother => ?_⟩
  · simp [putFile, hgrows.clock]
  · obtain ⟨-, habove, -⟩ := (locate_eq_ok_iff hp h.parts_ne_nil).1 hloc
    rw [Disk.above, hgrows.through_eq] at habove
    exact (keepsDirectories_putFile hfree.directory bytes).directories loc (habove loc hmem)
  · rw [hfree.entryAt?_putFile, hgrows.clock]
  · rw [entryAt?_putFile_of_ne hother]
    exact hgrows.entries loc

end Effect

namespace Store
variable {d d' : Disk} {path : Path} {text : String} {ignoreCase wrote : Bool}

theorem isUnchanged_iff_holds : isUnchanged d path false text = .ok true ↔
    d.Holds path (Text.Utf8.encode text) := by
  simp [isUnchanged_eq_true_iff, Disk.Holds, holds]

theorem exists_isUnchanged_of_admits (hp : ∀ part ∈ path.parts, Path.IsComponent part) (h : d.Admits path)
    (ignoreCase : Bool) (text : String) : ∃ unchanged, isUnchanged d path ignoreCase text = .ok unchanged := by
  cases hloc : d.locate path.text with
  | error deadEnd =>
    refine ⟨false, if_neg ?_⟩
    simp [Disk.isThere, Disk.find?, hloc, Except.toOption]
  | ok loc =>
    have hne := h.parts_ne_nil
    obtain ⟨-, -, rfl⟩ := (Disk.locate_eq_ok_iff hp hne).1 hloc
    exact exists_isUnchanged hloc h.place.directory ignoreCase text

theorem runOn_writeIfChanged_of_isUnchanged (h : isUnchanged d path ignoreCase text = .ok true) :
    Effect.runOn (writeIfChanged path text ignoreCase) d = (.ok false, d) := by
  rw [runOn_writeIfChanged_eq_ok_iff, h]
  simp

theorem runOn_writeIfChanged_of_holds (h : d.Holds path (Text.Utf8.encode text)) :
    Effect.runOn (writeIfChanged path text false) d = (.ok false, d) :=
  runOn_writeIfChanged_of_isUnchanged (isUnchanged_iff_holds.2 h)

theorem admits_of_runOn_writeIfChanged (hp : ∀ part ∈ path.parts, Path.IsComponent part)
    (h : Effect.runOn (writeIfChanged path text ignoreCase) d = (.ok wrote, d')) : d.Admits path := by
  rcases runOn_writeIfChanged_eq_ok_iff.1 h with ⟨hunchanged, -, -⟩ | ⟨-, -, hsave⟩
  · obtain ⟨bytes, t, hfile, -⟩ := isUnchanged_eq_true_iff.1 hunchanged
    exact Disk.admits_of_find? hp hfile
  · exact Effect.admits_of_runOn_save hp hsave

/-- Where the disk admits a file, the file stays as it is or a new one is put in its place. -/
theorem runOn_writeIfChanged_of_admits (hp : ∀ part ∈ path.parts, Path.IsComponent part) (h : d.Admits path)
    (ignoreCase : Bool) (text : String) :
    (isUnchanged d path ignoreCase text = .ok true ∧
      Effect.runOn (writeIfChanged path text ignoreCase) d = (.ok false, d)) ∨
    (isUnchanged d path ignoreCase text = .ok false ∧ ∃ d',
      Effect.runOn (writeIfChanged path text ignoreCase) d = (.ok true, d') ∧
        d.Gains path (Text.Utf8.encode text) d') := by
  obtain ⟨unchanged, hunchanged⟩ := exists_isUnchanged_of_admits hp h ignoreCase text
  cases unchanged with
  | true => exact Or.inl ⟨hunchanged, runOn_writeIfChanged_of_isUnchanged hunchanged⟩
  | false =>
    obtain ⟨d', hsave, hgains⟩ := Effect.exists_gains_of_admits hp h (Text.Utf8.encode text)
    exact Or.inr ⟨hunchanged, d', runOn_writeIfChanged_eq_ok_iff.2 (Or.inr ⟨hunchanged, rfl, hsave⟩), hgains⟩

theorem exists_runOn_writeIfChanged (hp : ∀ part ∈ path.parts, Path.IsComponent part) (h : d.Admits path)
    (text : String) : ∃ wrote d', Effect.runOn (writeIfChanged path text false) d = (.ok wrote, d') ∧
      d.Saves path (Text.Utf8.encode text) d' wrote := by
  rcases runOn_writeIfChanged_of_admits hp h false text with ⟨hunchanged, hrun⟩ | ⟨hchanged, d', hrun, hgains⟩
  · have hheld := isUnchanged_iff_holds.1 hunchanged
    refine ⟨false, d, hrun, hheld, fun _ _ => Or.inl rfl, rfl, ?_, fun _ => rfl, ?_⟩
    · simpa using hheld
    · simp
  · refine ⟨true, d', hrun, hgains.holds hp h.parts_ne_nil, hgains.others, hgains.loops, ?_, by simp,
      fun _ => ⟨hgains.place, hgains.clock⟩⟩
    have hnot : ¬ d.Holds path (Text.Utf8.encode text) := by
      rw [← isUnchanged_iff_holds, hchanged]
      simp
    simpa using hnot

theorem exists_refusal_of_writeIfChanged (hp : ∀ part ∈ path.parts, Path.IsComponent part) (h : ¬ d.Admits path)
    (ignoreCase : Bool) (text : String) : ∃ fault d',
      Effect.runOn (writeIfChanged path text ignoreCase) d = (.error fault, d') ∧
      fault.isRefusal = true ∧ d.Grows (d.above path) d' := by
  cases hrun : Effect.runOn (writeIfChanged path text ignoreCase) d with
  | mk result d' => cases result with
    | ok wrote => exact absurd (admits_of_runOn_writeIfChanged hp hrun) h
    | error fault =>
      refine ⟨fault, d', rfl, refusedOnly_writeIfChanged path text ignoreCase d fault d' hrun, ?_⟩
      rcases runOn_writeIfChanged_eq_error hrun with ⟨-, rfl⟩ | hsave
      · exact .refl _ d'
      · exact Effect.grows_of_runOn_save hp hsave

/-! ## References -/

variable {rs : List Reference}

theorem saveReferences_of_hasLine (h : ∀ r ∈ rs, r.HasLine) (path : Path) :
    saveReferences path rs = writeIfChanged path (linesText (rs.map Reference.line)) false := by
  rw [saveReferences, referencesText_eq_ok_iff.2 ⟨h, rfl⟩]

theorem exists_saveReferences_eq_throw (h : ∃ r ∈ rs, ¬ r.HasLine) (path : Path) :
    ∃ fault, saveReferences path rs = throw (.badRecord fault) := by
  obtain ⟨r, hr, hno⟩ := h
  cases htext : referencesText rs with
  | ok text => exact absurd ((referencesText_eq_ok_iff.1 htext).1 r hr) hno
  | error fault => exact ⟨fault, by rw [saveReferences, htext]⟩

def blockedPath : Path := Path.ofString "new/r.tsv/x"

end Store
end ReferenceAudit
