import ReferenceAudit.Proofs.CacheLinks
import ReferenceAudit.Proofs.ResolvedPaths
import ReferenceAudit.Proofs.Utf8

/-!
# What a cache keeps is still so

A manifest is kept with the time of its file. As long as a file of that time reads as the manifest that is kept,
a call gives what the path reads as, by whatever spelling of the path the manifest was read. Main statement:
then a target is given as if it were read and resolved afresh, and all that is kept stays as good as it was.
-/
namespace ReferenceAudit

namespace Disk

theorem time?_of_find? {d : Disk} {path : String} {bytes : List UInt8} {t : Nat}
    (h : d.find? path = some (.file bytes t)) : d.time? path = some t := by
  rw [time?, h]

theorem find?_of_time? {d : Disk} {path : String} {t : Nat} (h : d.time? path = some t) :
    ∃ bytes, d.find? path = some (.file bytes t) := by
  rw [time?] at h
  split at h
  · rename_i bytes time hfind
    cases h
    exact ⟨bytes, hfind⟩
  · cases h

end Disk

namespace Manifest

/-- Bytes are a manifest wherever they are read from; only the faults name the path. -/
theorem read_eq_ok {p : Path} {bytes : List UInt8} {m : Manifest} (h : read p bytes = .ok m) (q : Path) :
    read q bytes = .ok m := by
  rw [read] at *
  cases hdecode : Text.Utf8.decode (Text.Utf8.withoutMark bytes) with
  | error fault => rw [hdecode] at h; cases h
  | ok text => rw [hdecode] at h; exact h

theorem read_encode {text : String} (h : Text.Utf8.withoutMark (Text.Utf8.encode text) = Text.Utf8.encode text)
    (path : Path) : read path (Text.Utf8.encode text) = parse text := by
  rw [read, h, Text.Utf8.decode_encode]

theorem load_of_find? {d : Disk} {path : Path} {bytes : List UInt8} {t : Nat}
    (h : d.find? path.text = some (.file bytes t)) : load d path = read path bytes := by
  rw [load, if_pos (Disk.isThere_of_find? h), Disk.read_of_find? h]
  rfl

theorem find?_of_load {d : Disk} {path : Path} {m : Manifest} (h : load d path = .ok m) :
    ∃ bytes t, d.find? path.text = some (.file bytes t) := by
  rw [load] at h
  split at h
  · cases hloc : d.locate path.text with
    | error deadEnd => simp [Disk.read, hloc, Except.mapError, bind, Except.bind] at h
    | ok loc =>
      cases hentry : d.entryAt? loc with
      | none => simp [Disk.read, hloc, hentry, Except.mapError, bind, Except.bind] at h
      | some entry => cases entry with
        | directory => simp [Disk.read, hloc, hentry, Except.mapError, bind, Except.bind] at h
        | file bytes t => exact ⟨bytes, t, Disk.find?_eq_some_iff.2 ⟨loc, hloc, hentry⟩⟩
  · cases h

end Manifest

/-- While the file of a place has the time that the manifest is kept with, it reads as that manifest. -/
def KeptManifest.IsOf (k : KeptManifest) (d : Disk) (loc : Location) : Prop :=
  ∃ t, k.time = some t ∧
    ∀ bytes, d.entryAt? loc = some (.file bytes t) → ∀ path, Manifest.read path bytes = .ok k.manifest

namespace ManifestCache
variable {ι : Type} {Known : Location → KeptManifest → Prop} {namings : ι → ModuleNaming} {d : Disk} {path : Path}
  {key : String} {k : KeptManifest} {c : ManifestCache ι}

/-- A manifest is kept under the name of its file's place, and it is not out of date.
Of the two more may be known. -/
def Keeps (Known : Location → KeptManifest → Prop) (d : Disk) (key : String) (k : KeptManifest) : Prop :=
  ∃ loc, (∀ part ∈ loc, Path.IsComponent part) ∧ key = placeKey loc ∧ k.IsOf d loc ∧ Known loc k

theorem isOf_of_load (hd : d.Rooted) (hp : ∀ part ∈ path.parts, Path.IsComponent part) {m : Manifest}
    (h : Manifest.load d path = .ok m) (token : Nat) :
    (KeptManifest.mk (d.time? path.text) token m).IsOf d (d.placeOf path) := by
  obtain ⟨bytes, t, hfind⟩ := Manifest.find?_of_load h
  have hread : Manifest.read path bytes = .ok m := by rw [← Manifest.load_of_find? hfind]; exact h
  have hfile := Disk.entryAt?_placeOf hd hp hfind
  refine ⟨t, Disk.time?_of_find? hfind, ?_⟩
  intro bytes' hfile' path'
  rw [hfile] at hfile'
  cases hfile'
  exact Manifest.read_eq_ok hread path'

theorem load_of_isOf (hd : d.Rooted) (hp : ∀ part ∈ path.parts, Path.IsComponent part)
    (hof : k.IsOf d (d.placeOf path)) (htime : k.time = d.time? path.text) :
    Manifest.load d path = .ok k.manifest := by
  obtain ⟨t, hkept, hread⟩ := hof
  obtain ⟨bytes, hfind⟩ := Disk.find?_of_time? (htime.symm.trans hkept)
  rw [Manifest.load_of_find? hfind]
  exact hread bytes (Disk.entryAt?_placeOf hd hp hfind) path

theorem keeps_of_load (hd : d.Rooted) (hp : ∀ part ∈ path.parts, Path.IsComponent part)
    (hkey : pathKey d path = .ok key) {m : Manifest} (h : Manifest.load d path = .ok m) (token : Nat)
    (hknown : Known (d.placeOf path) ⟨d.time? path.text, token, m⟩) :
    Keeps Known d key ⟨d.time? path.text, token, m⟩ :=
  ⟨d.placeOf path, fun _ hm => Disk.isComponent_of_mem_placeOf hd hp hm, eq_placeKey_of_pathKey hkey,
    isOf_of_load hd hp h token, hknown⟩

theorem load_of_keeps (hd : d.Rooted) (hp : ∀ part ∈ path.parts, Path.IsComponent part)
    (hkey : pathKey d path = .ok key) (h : Keeps Known d key k) (htime : k.time = d.time? path.text) :
    Manifest.load d path = .ok k.manifest := by
  obtain ⟨loc, hparts, hname, hof, -⟩ := h
  have hplace : d.placeOf path = loc :=
    eq_of_placeKey_eq (fun _ hm => Disk.isComponent_of_mem_placeOf hd hp hm) hparts
      ((eq_placeKey_of_pathKey hkey).symm.trans hname)
  exact load_of_isOf hd hp (hplace ▸ hof) htime

/-- **A call gives what the disk has.** Whatever is known of the manifests that are kept is known again
afterwards, if it is known of those that are read. -/
theorem resolve_of_keeps [DecidableEq ι] (alloc : Allocation) (hd : d.Rooted)
    (hp : ∀ part ∈ path.parts, Path.IsComponent part) (hkey : pathKey d path = .ok key)
    (h : Linked (Keeps Known d) (Answers d namings) c)
    (hread : ∀ m token, Manifest.load d path = .ok m → Known (d.placeOf path) ⟨d.time? path.text, token, m⟩)
    (hnames : ∀ loc k, Known loc k → k.manifest.HasDistinctTargets) (selector : Selector)
    (ignored : Except Fault (List String)) (naming : ι) :
    (c.resolve alloc d namings path selector ignored naming).1 =
        Analysis.resolveAfresh d path selector ignored (namings naming) ∧
      Linked (Keeps Known d) (Answers d namings) (c.resolve alloc d namings path selector ignored naming).2 := by
  refine h.resolve_spec alloc hkey (fun m token hload => ?_) (fun k hk htime => load_of_keeps hd hp hkey hk htime)
    (fun _ k hk => ?_) selector ignored naming
  · exact keeps_of_load hd hp hkey hload token (hread m token hload)
  · obtain ⟨loc, -, -, -, hknown⟩ := hk
    exact hnames loc k hknown

end ManifestCache
end ReferenceAudit
