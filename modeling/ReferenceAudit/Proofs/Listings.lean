import ReferenceAudit.Proofs.DiskWrites
import ReferenceAudit.Proofs.Lists
import ReferenceAudit.Store.Dump

/-!
# Where listings can be written

The listings stand beside a file, so their directory is there and none has to be made. Main statement: both are
written, or found to be there, unless a directory or a loop has the name of one of them.
-/
namespace ReferenceAudit

namespace Disk

variable {d d' : Disk} {path directory : Path} {loc : Location}

theorem step_of_isName (h : d.entryAt? loc = some .directory) {name : String} (hname : Path.IsName name) :
    d.step loc name = .ok (loc ++ [name]) := by
  have hproper := hname.component.1
  simp only [Path.isProper, Bool.and_eq_true, bne_iff_ne] at hproper
  simp [step, h, hproper, hname.up]

theorem locate_text (hp : ∀ part ∈ path.parts, Path.IsComponent part) (hne : path.parts ≠ [])
    (hplain : path.IsPlain) :
    d.locate path.text = path.parts.foldlM d.step (if path.root = .relative then d.cwd else []) := by
  have hsplit : Text.splitOn '/' (Text.join "/" path.parts) = path.parts :=
    Text.splitOn_join hne fun part hm => (hp part hm).2
  have hslash (s : String) : Text.splitOn '/' ("/" ++ s) = "" :: Text.splitOn '/' s := Text.splitOn_cons_sep '/' s
  have hstay : d.step [] "" = .ok [] := by simp [step, entryAt?_root]
  have hempty : path.text ≠ "" := by
    intro h
    have hparts := Path.filter_splitOn_text hp
    rw [h] at hparts
    exact hne (hparts.symm.trans (by decide +kernel))
  have hnull := Path.isPlain_iff_text.1 hplain
  have hhead := Path.head?_text hp
  obtain ⟨root, parts⟩ := path
  rw [locate, if_neg hempty, if_neg hnull]
  cases root with
  | relative =>
    have hparts : parts ≠ [] := hne
    have htext : Path.text ⟨.relative, parts⟩ = Text.join "/" parts := by simp [Path.text, Path.Root.text, hparts]
    rw [if_neg (by simpa using hhead), if_pos rfl, htext, hsplit]
  | single =>
    have htext : Path.text ⟨.single, parts⟩ = "/" ++ Text.join "/" parts := by simp [Path.text, Path.Root.text]
    rw [if_pos (by simpa using hhead), if_neg (by simp), htext, hslash, hsplit, List.foldlM_cons, hstay]
    rfl
  | double =>
    have htext : Path.text ⟨.double, parts⟩ = "/" ++ ("/" ++ Text.join "/" parts) := by
      simp [Path.text, Path.Root.text, ← String.append_assoc]
    rw [if_pos (by simpa using hhead), if_neg (by simp), htext, hslash, hslash, hsplit, List.foldlM_cons, hstay]
    dsimp only [bind, Except.bind]
    rw [List.foldlM_cons, hstay]
    rfl

theorem entryAt?_of_locate_bare {root : Path.Root} (h : d.locate (Path.text ⟨root, []⟩) = .ok loc) :
    d.entryAt? loc = some .directory := by
  have h := (locate_eq_ok_iff_foldlM.1 h).2.2
  cases root with
  | relative =>
    have hsplit : Text.splitOn '/' (Path.text ⟨.relative, []⟩) = ["."] := by decide +kernel
    have hhead : ¬ (Path.text ⟨.relative, []⟩).toList.head? = some '/' := by decide +kernel
    rw [if_neg hhead, hsplit, List.foldlM_cons] at h
    obtain ⟨next, hstep, hrest⟩ := bind_eq_ok.1 h
    have hnext : next = d.cwd := advance_of_step hstep
    cases hrest
    rw [hnext]
    exact entryAt?_of_step hstep
  | single =>
    have hhead : (Path.text ⟨.single, []⟩).toList.head? = some '/' := by decide +kernel
    have hsplit : Text.splitOn '/' (Path.text ⟨.single, []⟩) = ["", ""] := by decide +kernel
    rw [if_pos hhead, hsplit] at h
    have hloc : loc = [] := foldl_advance_of_foldlM_step h
    rw [hloc]
    exact entryAt?_root d
  | double =>
    have hhead : (Path.text ⟨.double, []⟩).toList.head? = some '/' := by decide +kernel
    have hsplit : Text.splitOn '/' (Path.text ⟨.double, []⟩) = ["", "", ""] := by decide +kernel
    rw [if_pos hhead, hsplit] at h
    have hloc : loc = [] := foldl_advance_of_foldlM_step h
    rw [hloc]
    exact entryAt?_root d

theorem parts_ne_nil_of_locate (hloc : d.locate path.text = .ok loc) (h : d.entryAt? loc ≠ some .directory) :
    path.parts ≠ [] := by
  obtain ⟨root, parts⟩ := path
  rintro rfl
  exact h (entryAt?_of_locate_bare hloc)

/-- A directory is there, and names below it lead to what is in it. -/
structure Offers (d : Disk) (directory : Path) (loc : Location) : Prop where
  isThere : d.entryAt? loc = some .directory
  locate : directory.parts ≠ [] → d.locate directory.text = .ok loc
  locate_child : ∀ name, Path.IsName name → d.locate (directory.child name).text = .ok (loc ++ [name])

theorem Offers.keep (h : d.Offers directory loc) (hkeeps : KeepsDirectories d d') : d'.Offers directory loc := by
  constructor
  · exact hkeeps.directories loc h.isThere
  · exact fun hne => hkeeps.locate (h.locate hne)
  · exact fun name hname => hkeeps.locate (h.locate_child name hname)

theorem exists_offers_parent (hp : ∀ part ∈ path.parts, Path.IsComponent part) {bytes : List UInt8} {t : Nat}
    (h : d.find? path.text = some (.file bytes t)) : ∃ loc, d.Offers path.parent loc := by
  obtain ⟨place, hplace, hfile⟩ := find?_eq_some_iff.1 h
  have hne : path.parts ≠ [] := parts_ne_nil_of_locate hplace (by simp [hfile])
  have hsub : ∀ part ∈ path.parts.dropLast, Path.IsComponent part := fun part hm =>
    hp part (List.dropLast_subset _ hm)
  have hplain : path.IsPlain := isPlain_of_locate hplace
  have hparent : path.parent.IsPlain := fun part hm => hplain part (List.dropLast_subset _ hm)
  rw [locate_text hp hne hplain, ← List.dropLast_append_getLast hne, List.foldlM_append] at hplace
  obtain ⟨loc, hloc, hlast⟩ := bind_eq_ok.1 hplace
  have hdirectory : d.entryAt? loc = some .directory := by
    rw [List.foldlM_cons] at hlast
    obtain ⟨_, hstep, -⟩ := bind_eq_ok.1 hlast
    exact entryAt?_of_step hstep
  refine ⟨loc, hdirectory, ?_, ?_⟩
  · intro hsome
    exact (locate_text hsub hsome hparent).trans hloc
  · intro name hname
    have hchild : ∀ part ∈ (path.parent.child name).parts, Path.IsComponent part :=
      Path.isComponent_child hsub hname.component
    have hstep : [name].foldlM d.step loc = .ok (loc ++ [name]) := by
      rw [List.foldlM_cons, step_of_isName hdirectory hname]
      rfl
    refine (locate_text hchild (by simp [Path.child]) (hparent.child hname)).trans ?_
    rw [Path.child, List.foldlM_append]
    exact bind_eq_ok.2 ⟨loc, hloc, hstep⟩

end Disk

namespace Effect
variable {d : Disk} {path directory : Path} {loc : Location}

theorem runOn_makeDirectory (hloc : d.locate path.text = .ok loc) (h : d.entryAt? loc = some .directory) :
    runOn (makeDirectory path) d = (.ok (), d) := by
  rw [makeDirectory, runOn_get_bind]
  simp only [hloc, h]
  rfl

theorem runOn_makeDirectories (h : d.Offers directory loc) :
    runOn (makeDirectories directory.root directory.parts.reverse) d = (.ok (), d) := by
  cases hparts : directory.parts.reverse with
  | nil => rfl
  | cons part above =>
    have hback : (part :: above).reverse = directory.parts := by rw [← hparts, List.reverse_reverse]
    have hne : directory.parts ≠ [] := by rw [← hback]; simp
    have hmade : (makeDirectory directory).run.run d = (.ok (), d) := runOn_makeDirectory (h.locate hne) h.isThere
    rw [runOn, makeDirectories, run_tryCatch, hback, hmade]

theorem runOn_writeFile (hloc : d.locate path.text = .ok loc) (h : d.IsFree loc) (bytes : List UInt8) :
    runOn (writeFile path bytes) d = (.ok (), d.putFile loc bytes) := by
  rw [writeFile, runOn_get_bind]
  simp only [hloc, if_neg h.directory, h.loop]
  rfl

theorem runOn_save {place : Location} (hparent : d.Offers path.parent loc) (hplace : d.locate path.text = .ok place)
    (h : d.IsFree place) (bytes : List UInt8) :
    runOn (save path bytes) d = (.ok (), d.putFile place bytes) :=
  runOn_bind_eq_ok.2 ⟨(), d, runOn_makeDirectories hparent, runOn_writeFile hplace h bytes⟩

end Effect

namespace Store
variable {d : Disk} {path directory : Path} {loc : Location} {name : String}

theorem exists_isUnchanged (hloc : d.locate path.text = .ok loc) (h : d.entryAt? loc ≠ some .directory)
    (ignoreCase : Bool) (text : String) : ∃ unchanged, isUnchanged d path ignoreCase text = .ok unchanged := by
  rw [isUnchanged]
  cases hentry : d.entryAt? loc with
  | none =>
    have hgone : ¬ d.isThere path.text = true := by simp [Disk.isThere, Disk.find?, hloc, hentry, Except.toOption]
    exact ⟨false, if_neg hgone⟩
  | some entry => cases entry with
    | directory => exact absurd hentry h
    | file bytes t =>
      have hfound := Disk.find?_eq_some_iff.2 ⟨loc, hloc, hentry⟩
      rw [if_pos (Disk.isThere_of_find? hfound), Disk.read_of_find? hfound]
      exact ⟨_, rfl⟩

theorem exists_runOn_writeListing (h : d.Offers directory loc) (hname : Path.IsName name)
    (hfree : d.IsFree (loc ++ [name])) (modules : List String) : ∃ written d',
      Effect.runOn (writeListing (directory.child name) modules) d = (.ok written, d') ∧
        (d' = d ∨ ∃ bytes, d' = d.putFile (loc ++ [name]) bytes) := by
  have hloc := h.locate_child name hname
  obtain ⟨unchanged, hunchanged⟩ := exists_isUnchanged hloc hfree.directory true (listingText modules)
  cases unchanged with
  | true =>
    have hwrite : Effect.runOn (writeIfChanged (directory.child name) (listingText modules) true) d =
        (.ok false, d) :=
      runOn_writeIfChanged_eq_ok_iff.2 (Or.inl ⟨hunchanged, rfl, rfl⟩)
    exact ⟨[], d, Effect.runOn_bind_eq_ok.2 ⟨false, d, hwrite, rfl⟩, Or.inl rfl⟩
  | false =>
    have hparent : d.Offers (directory.child name).parent loc := by simpa [Path.child, Path.parent] using h
    have hsave := Effect.runOn_save hparent hloc hfree (Text.Utf8.encode (listingText modules))
    have hwrite : Effect.runOn (writeIfChanged (directory.child name) (listingText modules) true) d =
        (.ok true, _) :=
      runOn_writeIfChanged_eq_ok_iff.2 (Or.inr ⟨hunchanged, rfl, hsave⟩)
    exact ⟨[directory.child name], _, Effect.runOn_bind_eq_ok.2 ⟨true, _, hwrite, rfl⟩, Or.inr ⟨_, rfl⟩⟩

theorem isName_usedFileName : Path.IsName usedFileName := by
  constructor <;> decide +kernel

theorem isName_unusedFileName : Path.IsName unusedFileName := by
  constructor <;> decide +kernel

/-- Beside a file that is there both listings can be written, if neither has a directory or a loop in its place. -/
theorem exists_runOn_dump (hp : ∀ part ∈ path.parts, Path.IsComponent part) {bytes : List UInt8} {t : Nat}
    (hfile : d.find? path.text = some (.file bytes t)) (hfree : ∀ name ∈ [usedFileName, unusedFileName],
      d.isDirectory (path.parent.child name).text = false ∧ d.isLoop (path.parent.child name).text = false)
    (used offered : List String) : ∃ dumped d', Effect.runOn (dump path.parent used offered) d =
      (.ok dumped, d') := by
  obtain ⟨loc, hoffers⟩ := Disk.exists_offers_parent hp hfile
  have hplace : ∀ name ∈ [usedFileName, unusedFileName], Path.IsName name → d.IsFree (loc ++ [name]) :=
    fun name hm hname => Disk.isFree_of_locate (hoffers.locate_child name hname) (hfree name hm).1 (hfree name hm).2
  have hused := hplace usedFileName (by simp) isName_usedFileName
  have hunused := hplace unusedFileName (by simp) isName_unusedFileName
  obtain ⟨first, d₁, hfirst, hleft⟩ :=
    exists_runOn_writeListing hoffers isName_usedFileName hused (usedListing used)
  have hoffers₁ : d₁.Offers path.parent loc := by
    rcases hleft with rfl | ⟨bytes, rfl⟩
    · exact hoffers
    · exact hoffers.keep (Disk.keepsDirectories_putFile hused.directory bytes)
  -- The first listing is of another name, so it leaves the place of the second one as it was.
  have hunused₁ : d₁.IsFree (loc ++ [unusedFileName]) := by
    rcases hleft with rfl | ⟨bytes, rfl⟩
    · exact hunused
    · have hother : loc ++ [unusedFileName] ≠ loc ++ [usedFileName] := by simp [usedFileName, unusedFileName]
      exact ⟨(Disk.entryAt?_putFile_of_ne hother d bytes) ▸ hunused.directory, hunused.loop⟩
  obtain ⟨second, d₂, hsecond, -⟩ :=
    exists_runOn_writeListing hoffers₁ isName_unusedFileName hunused₁ (unusedListing used offered)
  exact ⟨first ++ second, d₂,
    Effect.runOn_bind_eq_ok.2 ⟨first, d₁, hfirst, Effect.runOn_bind_eq_ok.2 ⟨second, d₂, hsecond, rfl⟩⟩⟩

end Store
end ReferenceAudit
