import ReferenceAudit.ManifestCache
import ReferenceAudit.Proofs.DiskWrites

/-!
# Paths resolved

A path is resolved by its components, and of what is on the disk only the loops are looked at. Main statement: a
path that leads to something can be resolved, and it leads to what is at the place that comes out. So nothing is
at a path that cannot be resolved.
-/
namespace ReferenceAudit

theorem Path.push_of_root {root : Root} (hr : root ≠ .relative) : push root = push .single := by
  funext done part
  simp [push, hr]

namespace Disk
variable {d : Disk} {loc place : Location} {parts : List String} {path : Path} {e : Entry} {fault : Fault}

theorem isComponent_of_mem_placeOf (hd : d.Rooted) (hp : ∀ part ∈ path.parts, Path.IsComponent part) {part : String}
    (h : part ∈ d.placeOf path) : Path.IsComponent part := by
  have hall : ∀ part ∈ (d.here.append path).parts, Path.IsComponent part :=
    Path.isComponent_of_mem_append hd.here hp
  rcases Path.mem_foldl_push h with hnil | hm
  · cases hnil
  · exact hall part hm

theorem entryAt?_placeOf (hd : d.Rooted) (hp : ∀ part ∈ path.parts, Path.IsComponent part)
    (h : d.find? path.text = some e) : d.entryAt? (d.placeOf path) = some e := by
  obtain ⟨loc, hloc, hentry⟩ := find?_eq_some_iff.1 h
  rwa [← placeOf_of_locate hd.upward hp hloc]

theorem eq_foldl_of_resolveFrom (h : d.resolveFrom loc parts = .ok place) :
    place = parts.foldl (Path.push .single) loc := by
  induction parts generalizing loc with
  | nil => exact (Except.ok.inj h).symm
  | cons part parts ih =>
    rw [resolveFrom] at h
    dsimp only at h
    split_ifs at h
    · exact (Except.ok.inj h).symm
    · exact ih h

theorem eq_placeOf_of_resolve (h : d.resolve path = .ok place) : place = d.placeOf path := by
  rw [eq_foldl_of_resolveFrom h, placeOf, Path.append]
  cases hr : path.isAbsolute with
  | true => rw [if_pos rfl, if_pos rfl, Path.normal, Path.push_of_root (bne_iff_ne.1 hr)]
  | false =>
    rw [if_neg Bool.false_ne_true, if_neg Bool.false_ne_true, Path.normal, Path.normal]
    exact List.foldl_append.symm

theorem isInput_of_resolveFrom (h : d.resolveFrom loc parts = .error fault) : fault.isInput = false := by
  induction parts generalizing loc with
  | nil => cases h
  | cons part parts ih =>
    rw [resolveFrom] at h
    dsimp only at h
    split_ifs at h
    · cases h
      rfl
    · cases h
      rfl
    · cases h
      rfl
    · exact ih h

theorem foldlM_step_filter {cs : List String} (h : cs.foldlM d.step loc = .ok place) :
    (cs.filter Path.isProper).foldlM d.step loc = .ok place := by
  induction cs generalizing loc with
  | nil => exact h
  | cons c cs ih =>
    obtain ⟨next, hstep, hrest⟩ := bind_eq_ok.1 h
    cases hc : Path.isProper c with
    | true =>
      rw [List.filter_cons_of_pos hc]
      exact bind_eq_ok.2 ⟨next, hstep, ih hrest⟩
    | false =>
      have hstay : next = loc := by
        have himproper : c = "" ∨ c = "." := by
          simpa [Path.isProper, Decidable.not_and_iff_or_not, Decidable.or_iff_not_imp_left] using hc
        rw [advance_of_step hstep, Path.advance, if_pos himproper]
      rw [List.filter_cons_of_neg (by simp [hc]), ← hstay]
      exact ih hrest

/-- Where components lead to something, all that they lead through is there too, so no loop is met. -/
theorem resolveFrom_of_foldlM_step (hup : ".." ∉ loc) (hp : ∀ part ∈ parts, Path.isProper part = true)
    (hplain : ∀ part ∈ parts, Path.null ∉ part.toList) (h : parts.foldlM d.step loc = .ok place)
    (he : d.entryAt? place = some e) : d.resolveFrom loc parts = .ok place := by
  induction parts generalizing loc with
  | nil =>
    cases h
    rfl
  | cons part parts ih =>
    obtain ⟨next, hstep, hrest⟩ := bind_eq_ok.1 h
    have hnext : next = Path.advance loc part := advance_of_step hstep
    have hpush : Path.push .single loc part = next :=
      (Path.push_eq_advance (by decide) hup (hp part List.mem_cons_self)).trans hnext.symm
    have hfree : d.isLooped next = false := by
      cases parts with
      | nil =>
        cases hrest
        exact isLooped_of_entryAt? he
      | cons q qs =>
        obtain ⟨_, hstep', -⟩ := bind_eq_ok.1 hrest
        exact isLooped_of_entryAt? (entryAt?_of_step hstep')
    have hlater := ih (hnext ▸ Path.up_not_mem_advance hup part) (fun q hq => hp q (List.mem_cons_of_mem _ hq))
      (fun q hq => hplain q (List.mem_cons_of_mem _ hq)) hrest
    simp [resolveFrom, hplain part List.mem_cons_self, hpush, hfree, hlater]

theorem resolve_of_find? (hd : d.Rooted) (hp : ∀ part ∈ path.parts, Path.IsComponent part)
    (h : d.find? path.text = some e) : d.resolve path = .ok (d.placeOf path) := by
  obtain ⟨loc, hloc, hentry⟩ := find?_eq_some_iff.1 h
  have hsteps := foldlM_step_filter (locate_eq_ok_iff_foldlM.1 hloc).2.2
  have hhere : d.here.normal.parts = d.cwd := Path.foldl_push_of_not_mem hd.upward []
  rw [Path.filter_splitOn_text hp] at hsteps
  rw [← placeOf_of_locate hd.upward hp hloc, resolve, hhere]
  have hproper : ∀ part ∈ path.parts, Path.isProper part = true := fun part hm => (hp part hm).1
  have hplain : path.IsPlain := isPlain_of_locate hloc
  by_cases hr : path.root = .relative
  · have hhead : ¬path.text.toList.head? = some '/' := fun hs => (Path.head?_text hp).1 hs hr
    have hrelative : ¬path.isAbsolute = true := by simp [Path.isAbsolute, hr]
    rw [if_neg hhead] at hsteps
    rw [if_neg hrelative]
    exact resolveFrom_of_foldlM_step hd.upward hproper hplain hsteps hentry
  · have habsolute : path.isAbsolute = true := bne_iff_ne.2 hr
    rw [if_pos ((Path.head?_text hp).2 hr)] at hsteps
    rw [if_pos habsolute]
    exact resolveFrom_of_foldlM_step List.not_mem_nil hproper hplain hsteps hentry

theorem find?_eq_none_of_resolve (hd : d.Rooted) (hp : ∀ part ∈ path.parts, Path.IsComponent part)
    (h : d.resolve path = .error fault) : d.find? path.text = none := by
  rw [Option.eq_none_iff_forall_ne_some]
  intro e he
  rw [resolve_of_find? hd hp he] at h
  cases h

end Disk

namespace ManifestCache
variable {d : Disk} {path : Path} {key : String} {fault : Fault}

/-- The name under which the manifest of a place is kept. -/
def placeKey (loc : Location) : String := Path.text ⟨.single, loc⟩

theorem eq_of_placeKey_eq {loc loc' : Location} (h : ∀ part ∈ loc, Path.IsComponent part)
    (h' : ∀ part ∈ loc', Path.IsComponent part) (hkey : placeKey loc = placeKey loc') : loc = loc' :=
  Path.eq_of_text_eq h h' hkey

theorem eq_placeKey_of_pathKey (h : pathKey d path = .ok key) : key = placeKey (d.placeOf path) := by
  obtain ⟨place, hplace, rfl⟩ := map_eq_ok.1 h
  rw [Disk.eq_placeOf_of_resolve hplace, placeKey]

theorem isInput_of_pathKey (h : pathKey d path = .error fault) : fault.isInput = false :=
  Disk.isInput_of_resolveFrom (map_eq_error.1 h)

theorem pathKey_of_find? (hd : d.Rooted) (hp : ∀ part ∈ path.parts, Path.IsComponent part) {e : Entry}
    (h : d.find? path.text = some e) : pathKey d path = .ok (placeKey (d.placeOf path)) := by
  rw [pathKey, Disk.resolve_of_find? hd hp h]
  rfl

theorem load_of_pathKey (hd : d.Rooted) (hp : ∀ part ∈ path.parts, Path.IsComponent part)
    (h : pathKey d path = .error fault) :
    Manifest.load d path = .error (.inputMissing "Lock manifest" (some path.text)) := by
  have hnone : d.find? path.text = none := Disk.find?_eq_none_of_resolve hd hp (map_eq_error.1 h)
  have hgone : ¬d.isThere path.text = true := by simp [Disk.isThere, hnone]
  rw [Manifest.load, if_neg hgone]

end ManifestCache
end ReferenceAudit
