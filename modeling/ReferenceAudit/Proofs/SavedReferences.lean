import ReferenceAudit.Proofs.DiskWrites
import ReferenceAudit.Proofs.ReferenceLines

/-!
# Saved references are loaded again

What was saved is loaded, in its order, whatever the file held and whether or not it had to be written: saving
leaves the bytes of the references' lines, and reading them gives the references.
-/
namespace ReferenceAudit.Store

theorem loadReferences_of_find? {d : Disk} {path : Path} {bytes : List UInt8} {t : Nat} {rs : List Reference}
    (hfile : d.find? path.text = some (.file bytes t)) (hread : readReferences bytes = .ok rs) :
    loadReferences d path = .ok rs := by
  rw [loadReferences, if_pos (Disk.isThere_of_find? hfile), Disk.read_of_find? hfile]
  simp only [bind, Except.bind, hread, Except.mapError]

/-- Once references are saved, they are what is loaded. -/
theorem loadReferences_of_saveReferences {d d' : Disk} {path : Path} {rs : List Reference} {wrote : Bool}
    (h : Effect.runOn (saveReferences path rs) d = (.ok wrote, d')) : loadReferences d' path = .ok rs := by
  rw [saveReferences] at h
  cases htext : referencesText rs with
  | error fault =>
    rw [htext] at h
    cases h
  | ok text =>
    rw [htext] at h
    obtain ⟨t, hfile⟩ := find?_of_writeIfChanged h
    exact loadReferences_of_find? hfile (readReferences_encode htext)

/-- References with the texts that are the hardest to keep: none at all, tabs, white space at the ends, and the
characters that end lines elsewhere. -/
def oddReferences : List Reference :=
  [⟨"", .package, ""⟩, ⟨" a\u0085", .direct, "\tb\t\t"⟩, ⟨"\u2028", .project, "c \u000B\u00A0 "⟩,
    ⟨"", .package, ""⟩]

def oddPath : Path := Path.ofString "new/r.tsv"

def oddDisk : Disk := (Effect.runOn (saveReferences oddPath oddReferences) (Disk.empty ["w"])).2

/-- They are loaded once they are written, and saved again they are found to be there. -/
theorem oddReferences_loaded :
    Effect.runOn (saveReferences oddPath oddReferences) (Disk.empty ["w"]) = (.ok true, oddDisk) ∧
      loadReferences oddDisk oddPath = .ok oddReferences ∧
      Effect.runOn (saveReferences oddPath oddReferences) oddDisk = (.ok false, oddDisk) := by
  have hwritten : Effect.runOn (saveReferences oddPath oddReferences) (Disk.empty ["w"]) = (.ok true, oddDisk) := by
    decide +kernel
  exact ⟨hwritten, loadReferences_of_saveReferences hwritten, by decide +kernel⟩

end ReferenceAudit.Store
