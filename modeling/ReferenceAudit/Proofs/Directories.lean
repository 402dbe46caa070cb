import Mathlib.Data.List.Infix
import ReferenceAudit.Proofs.Listings

/-!
# Directories made for a file

A path leads on from directories only, so it leads anywhere exactly if a directory is at each place above. Where
nothing is, one is made. Main statement: a file is saved exactly if the disk admits one at its path: no file and
no loop is in the way of its directories, and its own place is no loop and neither is a directory nor has to
become one.
-/
namespace ReferenceAudit

namespace Disk
variable {d d' d'' : Disk} {loc next : Location} {places places' : List Location}

/-- Where a path's components start to lead. -/
def start (d : Disk) (root : Path.Root) : Location := if root = .relative then d.cwd else []

/-- Where components lead by themselves, if there is a directory wherever one is needed. -/
def along (d : Disk) (root : Path.Root) (parts : List String) : Location := parts.foldl Path.advance (d.start root)

/-- The place of a path by its components. -/
def destination (d : Disk) (path : Path) : Location := d.along path.root path.parts

/-- The places of directories that components lead through, from the start on. -/
def through (d : Disk) (root : Path.Root) (parts : List String) : List Location := parts.inits.map (d.along root)

/-- The places of the directories above a path. -/
def above (d : Disk) (path : Path) : List Location := d.through path.root path.parts.dropLast

/-- A directory is at a place, or can be made there. -/
structure IsOpen (d : Disk) (loc : Location) : Prop where
  file : ∀ bytes t, d.entryAt? loc ≠ some (.file bytes t)
  loop : d.isLooped loc = false

/-- A file can be put at a path, once the directories above are made. -/
structure Admits (d : Disk) (path : Path) : Prop where
  plain : path.IsPlain
  start : d.entryAt? (d.start path.root) = some .directory
  above : ∀ loc ∈ d.above path, d.IsOpen loc
  place : d.IsFree (d.destination path)
  apart : d.destination path ∉ d.above path

/-- A disk, and what it is when directories have been made at some of the places, where nothing was. -/
structure Grows (places : List Location) (d d' : Disk) : Prop where
  cwd : d'.cwd = d.cwd
  clock : d'.clock = d.clock
  loops : d'.loops = d.loops
  entries : ∀ loc, d'.entryAt? loc = d.entryAt? loc ∨
    (loc ∈ places ∧ d.entryAt? loc = none ∧ d'.entryAt? loc = some .directory)

theorem Grows.refl (places : List Location) (d : Disk) : Grows places d d := ⟨rfl, rfl, rfl, fun _ => Or.inl rfl⟩

theorem Grows.trans (h : Grows places d d') (h' : Grows places d' d'') : Grows places d d'' := by
  refine ⟨h'.cwd.trans h.cwd, h'.clock.trans h.clock, h'.loops.trans h.loops, fun loc => ?_⟩
  rcases h.entries loc with hsame | ⟨hplace, hnone, hmade⟩
  · rw [← hsame]
    exact h'.entries loc
  · rcases h'.entries loc with hsame' | ⟨-, hnone', -⟩
    · exact Or.inr ⟨hplace, hnone, hsame'.trans hmade⟩
    · rw [hmade] at hnone'
      cases hnone'

theorem Grows.mono (h : Grows places d d') (hsub : ∀ loc ∈ places, loc ∈ places') : Grows places' d d' :=
  ⟨h.cwd, h.clock, h.loops, fun loc => (h.entries loc).imp_right fun ⟨hplace, hmade⟩ => ⟨hsub loc hplace, hmade⟩⟩

theorem Grows.keepsDirectories (h : Grows places d d') : KeepsDirectories d d' := by
  refine ⟨h.cwd, fun loc hloc => ?_⟩
  rcases h.entries loc with hsame | ⟨-, hnone, -⟩
  · rw [hsame, hloc]
  · rw [hloc] at hnone
    cases hnone

theorem Grows.file (h : Grows places d d') {bytes : List UInt8} {t : Nat} :
    d'.entryAt? loc = some (.file bytes t) ↔ d.entryAt? loc = some (.file bytes t) := by
  rcases h.entries loc with hsame | ⟨-, hnone, hmade⟩
  · rw [hsame]
  · simp [hnone, hmade]

theorem isLooped_of_loops (h : d'.loops = d.loops) (loc : Location) : d'.isLooped loc = d.isLooped loc := by
  rw [isLooped, h, ← isLooped]

theorem Grows.isOpen (h : Grows places d d') (hopen : d.IsOpen loc) : d'.IsOpen loc :=
  ⟨fun bytes t hfile => hopen.file bytes t (h.file.1 hfile), (isLooped_of_loops h.loops loc).trans hopen.loop⟩

theorem isOpen_of_directory (h : d.entryAt? loc = some .directory) : d.IsOpen loc :=
  ⟨by simp [h], isLooped_of_entryAt? h⟩

theorem along_of_cwd (h : d'.cwd = d.cwd) (root : Path.Root) : d'.along root = d.along root := by
  funext parts
  simp only [along, start, h]

theorem destination_of_cwd (h : d'.cwd = d.cwd) (path : Path) : d'.destination path = d.destination path := by
  rw [destination, along_of_cwd h, ← destination]

theorem through_of_cwd (h : d'.cwd = d.cwd) (root : Path.Root) : d'.through root = d.through root := by
  funext parts
  simp only [through, along_of_cwd h]

theorem Grows.along_eq (h : Grows places d d') (root : Path.Root) : d'.along root = d.along root :=
  along_of_cwd h.cwd root

theorem grows_put (h : d.entryAt? loc = none) (hloop : d.isLooped loc = false) (hplace : loc ∈ places) :
    Grows places d (d.put loc .directory) := by
  have hroot : loc ≠ [] := by
    rintro rfl
    rw [entryAt?_root] at h
    cases h
  refine ⟨rfl, rfl, rfl, fun l => ?_⟩
  rw [entryAt?_put]
  by_cases hl : l = loc
  · simp [hl, h, hroot, hloop, hplace]
  · by_cases hempty : l = []
    · simp [hempty, entryAt?_root]
    · simp [hl, hempty]

/-! ## Where paths lead -/

theorem step_eq_ok_iff {component : String} :
    d.step loc component = .ok next ↔ d.entryAt? loc = some .directory ∧ next = Path.advance loc component := by
  constructor
  · exact fun h => ⟨entryAt?_of_step h, advance_of_step h⟩
  · rintro ⟨hdirectory, rfl⟩
    simp only [step, hdirectory, Path.advance]
    split
    · rfl
    · split <;> rfl

theorem foldlM_step_eq_ok_iff {parts : List String} : parts.foldlM d.step loc = .ok next ↔
    (∀ before part, before ++ [part] <+: parts → d.entryAt? (before.foldl Path.advance loc) = some .directory) ∧
      next = parts.foldl Path.advance loc := by
  induction parts generalizing loc with
  | nil => simpa [pure, Except.pure] using eq_comm
  | cons part parts ih =>
    rw [List.foldlM_cons, bind_eq_ok]
    simp only [step_eq_ok_iff, ih, List.foldl_cons]
    constructor
    · rintro ⟨_, ⟨hdirectory, rfl⟩, hrest, hnext⟩
      refine ⟨fun before last hprefix => ?_, hnext⟩
      cases before with
      | nil => exact hdirectory
      | cons first before =>
        rw [List.cons_append, List.cons_prefix_cons] at hprefix
        obtain ⟨rfl, hprefix⟩ := hprefix
        exact hrest before last hprefix
    · rintro ⟨hall, hnext⟩
      refine ⟨_, ⟨hall [] part (by simp), rfl⟩, fun before last hprefix => ?_, hnext⟩
      exact hall (part :: before) last (by simpa using hprefix)

theorem eq_missing_of_foldlM_step {parts : List String} {deadEnd : DeadEnd}
    (hopen : ∀ before part, before ++ [part] <+: parts → d.IsOpen (before.foldl Path.advance loc))
    (h : parts.foldlM d.step loc = .error deadEnd) : deadEnd = .missing := by
  induction parts generalizing loc with
  | nil => cases h
  | cons part parts ih =>
    rw [List.foldlM_cons, bind_eq_error] at h
    rcases h with hstep | ⟨next, hstep, hrest⟩
    · rw [step] at hstep
      split at hstep
      · split at hstep
        · cases hstep
        · split at hstep <;> cases hstep
      · rename_i bytes t hfile
        exact absurd hfile ((hopen [] part (by simp)).file bytes t)
      · have hloop : d.isLooped loc = false := (hopen [] part (by simp)).loop
        cases hstep
        simp [Disk.deadEnd, hloop]
    · obtain ⟨-, rfl⟩ := step_eq_ok_iff.1 hstep
      refine ih (fun before last hprefix => ?_) hrest
      simpa using hopen (part :: before) last (by simpa using hprefix)

variable {path : Path}

theorem Admits.parts_ne_nil (h : d.Admits path) : path.parts ≠ [] := by
  intro hnil
  apply h.place.directory
  rw [destination, hnil]
  exact h.start

theorem mem_through_iff {root : Path.Root} {parts : List String} :
    loc ∈ d.through root parts ↔ ∃ before, before <+: parts ∧ d.along root before = loc := by
  simp [through, List.mem_inits]

theorem start_mem_through (d : Disk) (root : Path.Root) (parts : List String) :
    d.start root ∈ d.through root parts :=
  mem_through_iff.2 ⟨[], List.nil_prefix, rfl⟩

theorem prefix_dropLast_iff {parts before : List String} (hne : parts ≠ []) :
    before <+: parts.dropLast ↔ ∃ part, before ++ [part] <+: parts := by
  constructor
  · rintro ⟨rest, hrest⟩
    rw [← List.dropLast_append_getLast hne, ← hrest]
    cases rest with
    | nil => exact ⟨parts.getLast hne, by simp⟩
    | cons part rest => exact ⟨part, by simp⟩
  · rintro ⟨part, hprefix⟩
    rw [← List.dropLast_append_getLast hne] at hprefix
    rcases List.prefix_concat_iff.1 hprefix with heq | hshort
    · rw [(List.append_inj' heq rfl).1]
    · exact (List.prefix_append before [part]).trans hshort

theorem forall_mem_above_iff (hne : path.parts ≠ []) {p : Location → Prop} : (∀ l ∈ d.above path, p l) ↔
    ∀ before part, before ++ [part] <+: path.parts → p (before.foldl Path.advance (d.start path.root)) := by
  simp only [above, mem_through_iff, prefix_dropLast_iff hne]
  constructor
  · exact fun h before part hprefix => h _ ⟨before, ⟨part, hprefix⟩, rfl⟩
  · rintro h _ ⟨before, ⟨part, hprefix⟩, rfl⟩
    exact h before part hprefix

theorem locate_eq_ok_iff (hp : ∀ part ∈ path.parts, Path.IsComponent part) (hne : path.parts ≠ []) :
    d.locate path.text = .ok loc ↔
      path.IsPlain ∧ (∀ l ∈ d.above path, d.entryAt? l = some .directory) ∧ loc = d.destination path := by
  have hleads (hplain : path.IsPlain) : d.locate path.text = .ok loc ↔
      (∀ l ∈ d.above path, d.entryAt? l = some .directory) ∧ loc = d.destination path := by
    rw [locate_text hp hne hplain, forall_mem_above_iff hne]
    exact foldlM_step_eq_ok_iff
  exact ⟨fun h => ⟨isPlain_of_locate h, (hleads (isPlain_of_locate h)).1 h⟩, fun h => (hleads h.1).2 h.2⟩

theorem eq_missing_of_locate (hp : ∀ part ∈ path.parts, Path.IsComponent part) (hne : path.parts ≠ [])
    (hplain : path.IsPlain) {deadEnd : DeadEnd} (hopen : ∀ l ∈ d.above path, d.IsOpen l)
    (h : d.locate path.text = .error deadEnd) : deadEnd = .missing := by
  rw [forall_mem_above_iff hne] at hopen
  rw [locate_text hp hne hplain] at h
  exact eq_missing_of_foldlM_step hopen h

theorem locate_eq_missing (hp : ∀ part ∈ path.parts, Path.IsComponent part) (hne : path.parts ≠ [])
    (hplain : path.IsPlain) (hopen : ∀ l ∈ d.above path, d.IsOpen l)
    (habove : ¬∀ l ∈ d.above path, d.entryAt? l = some .directory) : d.locate path.text = .error .missing := by
  cases hloc : d.locate path.text with
  | ok loc => exact absurd ((locate_eq_ok_iff hp hne).1 hloc).2.1 habove
  | error deadEnd => rw [eq_missing_of_locate hp hne hplain hopen hloc]

theorem mem_through_append_iff {root : Path.Root} {parts : List String} {part : String} :
    loc ∈ d.through root (parts ++ [part]) ↔ loc ∈ d.through root parts ∨ loc = d.along root (parts ++ [part]) := by
  simp only [mem_through_iff, List.prefix_concat_iff]
  constructor
  · rintro ⟨before, rfl | hbefore, rfl⟩
    · exact Or.inr rfl
    · exact Or.inl ⟨before, hbefore, rfl⟩
  · rintro (⟨before, hbefore, rfl⟩ | rfl)
    · exact ⟨before, Or.inr hbefore, rfl⟩
    · exact ⟨_, Or.inl rfl, rfl⟩

theorem Grows.through_eq (h : Grows places d d') (root : Path.Root) : d'.through root = d.through root :=
  through_of_cwd h.cwd root

end Disk

namespace Effect
open Disk
variable {d d' : Disk} {loc : Location} {root : Path.Root} {parts : List String} {part : String}

/-- Making a directory changes nothing but its own place, and that only if nothing is there. -/
theorem grows_makeDirectory (d : Disk) (root : Path.Root) (hp : ∀ x ∈ parts ++ [part], Path.IsComponent x) :
    Grows [d.along root (parts ++ [part])] d (runOn (makeDirectory ⟨root, parts ++ [part]⟩) d).2 := by
  rw [makeDirectory, runOn_get_bind]
  split
  · exact .refl _ d
  · rename_i loc hloc
    obtain ⟨-, -, rfl⟩ := (locate_eq_ok_iff hp (by simp)).1 hloc
    split
    · exact .refl _ d
    · exact .refl _ d
    · rename_i hnone
      split_ifs with hloop
      · exact .refl _ d
      · exact grows_put hnone (Bool.eq_false_iff.2 hloop) (by simp [destination])

/-- A directory is made, or is there, where there are directories above it and its place is open. -/
theorem exists_runOn_makeDirectory (hp : ∀ x ∈ parts ++ [part], Path.IsComponent x)
    (hplain : Path.IsPlain ⟨root, parts ++ [part]⟩)
    (habove : ∀ l ∈ d.through root parts, d.entryAt? l = some .directory)
    (hopen : d.IsOpen (d.along root (parts ++ [part]))) :
    ∃ d', runOn (makeDirectory ⟨root, parts ++ [part]⟩) d = (.ok (), d') ∧
      d'.entryAt? (d.along root (parts ++ [part])) = some .directory := by
  have hloc : d.locate (Path.text ⟨root, parts ++ [part]⟩) = .ok (d.along root (parts ++ [part])) := by
    rw [locate_eq_ok_iff hp (by simp)]
    exact ⟨hplain, by simpa [above] using habove, rfl⟩
  rw [makeDirectory, runOn_get_bind]
  simp only [hloc]
  cases hentry : d.entryAt? (d.along root (parts ++ [part])) with
  | none =>
    simp only [hopen.loop]
    refine ⟨_, rfl, ?_⟩
    simp [entryAt?_put, hopen.loop]
  | some entry => cases entry with
    | directory => exact ⟨d, rfl, hentry⟩
    | file bytes t => exact absurd hentry (hopen.file bytes t)

theorem runOn_makeDirectory_of_missing (hloc : d.locate (Path.text ⟨root, parts⟩) = .error .missing) :
    runOn (makeDirectory ⟨root, parts⟩) d = (.error (.fileMissing (Path.text ⟨root, parts⟩)), d) := by
  rw [makeDirectory, runOn_get_bind]
  simp only [hloc]
  rfl

theorem makeDirectories_append (root : Path.Root) (parts : List String) (part : String) :
    makeDirectories root (parts ++ [part]).reverse =
      tryCatch (makeDirectory ⟨root, parts ++ [part]⟩) fun fault => match fault with
        | .fileMissing _ => do
          makeDirectories root parts.reverse
          makeDirectory ⟨root, parts ++ [part]⟩
        | fault => throw fault := by
  have hback : (part :: parts.reverse).reverse = parts ++ [part] := by simp
  rewrite [List.reverse_append, List.reverse_singleton, List.singleton_append, makeDirectories, hback]
  rfl

theorem makeDirectories_keeps {R : Disk → Disk → Prop} (hrefl : ∀ d, R d d)
    (htrans : ∀ {d d' d''}, R d d' → R d' d'' → R d d'') (hmake : ∀ before part, before ++ [part] <+: parts →
      ∀ d, R d (runOn (makeDirectory ⟨root, before ++ [part]⟩) d).2)
    (d : Disk) : R d (runOn (makeDirectories root parts.reverse) d).2 := by
  induction parts using List.reverseRecOn generalizing d with
  | nil => exact hrefl d
  | append_singleton parts part ih =>
    have habove := ih fun before last hbefore => hmake before last (hbefore.trans (List.prefix_append _ _))
    have hlast := hmake parts part List.prefix_rfl
    rw [makeDirectories_append, runOn, run_tryCatch, ← runOn]
    have hfirst := hlast d
    generalize runOn (makeDirectory ⟨root, parts ++ [part]⟩) d = out at hfirst ⊢
    obtain ⟨result, d₁⟩ := out
    cases result with
    | ok => exact hfirst
    | error fault =>
      dsimp only
      split
      · rw [run_bind, ← runOn]
        have hsecond := habove d₁
        generalize runOn (makeDirectories root parts.reverse) d₁ = out at hsecond ⊢
        obtain ⟨result, d₂⟩ := out
        cases result with
        | error fault => exact htrans hfirst hsecond
        | ok => exact htrans (htrans hfirst hsecond) (hlast d₂)
      · exact hfirst

/-- Making directories changes nothing but the places that lead there, and those only if nothing is there. -/
theorem grows_makeDirectories (d : Disk) (root : Path.Root) (hp : ∀ x ∈ parts, Path.IsComponent x) :
    Grows (d.through root parts) d (runOn (makeDirectories root parts.reverse) d).2 := by
  refine makeDirectories_keeps (R := fun d d' => Grows (d.through root parts) d d') (fun d => .refl _ d) ?_ ?_ d
  · intro d d' d'' h h'
    rw [h.through_eq] at h'
    exact h.trans h'
  · intro before part hbefore d
    refine (grows_makeDirectory d root fun x hx => hp x (hbefore.subset hx)).mono fun loc hloc => ?_
    exact mem_through_iff.2 ⟨before ++ [part], hbefore, (List.mem_singleton.1 hloc).symm⟩

theorem runOn_makeDirectories_of_start (d : Disk) (hp : ∀ x ∈ parts, Path.IsComponent x) :
    d.entryAt? (d.start root) ≠ some .directory → (runOn (makeDirectories root parts.reverse) d).2 = d := by
  refine makeDirectories_keeps (R := fun d d' => d.entryAt? (d.start root) ≠ some .directory → d' = d) ?_ ?_ ?_ d
  · exact fun d _ => rfl
  · intro d d' d'' h h' hstart
    obtain rfl := h hstart
    exact h' hstart
  · intro before part hbefore d hstart
    rw [makeDirectory, runOn_get_bind]
    split
    · rfl
    · rename_i loc hloc
      have habove := ((locate_eq_ok_iff (fun x hx => hp x (hbefore.subset hx)) (by simp)).1 hloc).2.1
      exact absurd (habove _ (start_mem_through d root _)) hstart

/-- Once there are directories above it, the last directory is made, or is there. -/
theorem exists_runOn_makeDirectory_of_grows {d₁ : Disk} (hp : ∀ x ∈ parts ++ [part], Path.IsComponent x)
    (hplain : Path.IsPlain ⟨root, parts ++ [part]⟩) (hgrows : Grows (d.through root parts) d d₁)
    (hmade : ∀ l ∈ d.through root parts, d₁.entryAt? l = some .directory)
    (hopen : d.IsOpen (d.along root (parts ++ [part]))) :
    ∃ d₂, runOn (makeDirectory ⟨root, parts ++ [part]⟩) d₁ = (.ok (), d₂) ∧
      ∀ l ∈ d.through root (parts ++ [part]), d₂.entryAt? l = some .directory := by
  have hopen₁ : d₁.IsOpen (d₁.along root (parts ++ [part])) := by
    rw [hgrows.along_eq]
    exact hgrows.isOpen hopen
  rw [← hgrows.through_eq] at hmade ⊢
  obtain ⟨d₂, hrun, hlast⟩ := exists_runOn_makeDirectory hp hplain hmade hopen₁
  have hkeeps := (grows_makeDirectory d₁ root hp).keepsDirectories
  rw [hrun] at hkeeps
  refine ⟨d₂, hrun, fun l hl => ?_⟩
  rcases mem_through_append_iff.1 hl with hl | rfl
  · exact hkeeps.directories l (hmade l hl)
  · exact hlast

theorem exists_runOn_makeDirectories (hp : ∀ x ∈ parts, Path.IsComponent x) (hplain : Path.IsPlain ⟨root, parts⟩)
    (hstart : d.entryAt? (d.start root) = some .directory) (hopen : ∀ l ∈ d.through root parts, d.IsOpen l) :
    ∃ d', runOn (makeDirectories root parts.reverse) d = (.ok (), d') ∧
      ∀ l ∈ d.through root parts, d'.entryAt? l = some .directory := by
  induction parts using List.reverseRecOn with
  | nil =>
    refine ⟨d, rfl, ?_⟩
    simpa [through, along] using hstart
  | append_singleton parts part ih =>
    have hparts : ∀ x ∈ parts, Path.IsComponent x := fun x hx => hp x (List.mem_append_left _ hx)
    have hplainAbove : Path.IsPlain ⟨root, parts⟩ := fun x hx => hplain x (List.mem_append_left _ hx)
    have hopenAbove : ∀ l ∈ d.through root parts, d.IsOpen l :=
      fun l hl => hopen l (mem_through_append_iff.2 (Or.inl hl))
    have hopenLast := hopen (d.along root (parts ++ [part])) (mem_through_append_iff.2 (Or.inr rfl))
    rw [makeDirectories_append, runOn, run_tryCatch, ← runOn]
    by_cases habove : ∀ l ∈ d.through root parts, d.entryAt? l = some .directory
    · obtain ⟨d', hrun, hmade⟩ := exists_runOn_makeDirectory_of_grows hp hplain (.refl _ d) habove hopenLast
      rw [hrun]
      exact ⟨d', rfl, hmade⟩
    · -- the path of the last directory does not lead on yet, so those above are made first
      have hmissing : d.locate (Path.text ⟨root, parts ++ [part]⟩) = .error .missing :=
        locate_eq_missing hp (by simp) hplain (by simpa [above] using hopenAbove) (by simpa [above] using habove)
      obtain ⟨d₁, hrun, hmade⟩ := ih hparts hplainAbove hopenAbove
      have hgrows := grows_makeDirectories d root hparts
      rw [hrun] at hgrows
      obtain ⟨d₂, hrun₂, hmade₂⟩ := exists_runOn_makeDirectory_of_grows hp hplain hgrows hmade hopenLast
      rw [runOn_makeDirectory_of_missing hmissing]
      exact ⟨d₂, runOn_bind_eq_ok.2 ⟨(), d₁, hrun, hrun₂⟩, hmade₂⟩

variable {path : Path} {bytes : List UInt8}

theorem exists_runOn_save (hp : ∀ x ∈ path.parts, Path.IsComponent x) (h : d.Admits path) (bytes : List UInt8) :
    ∃ d₁, Grows (d.above path) d d₁ ∧ runOn (save path bytes) d = (.ok (), d₁.putFile (d.destination path) bytes) ∧
      d₁.IsFree (d.destination path) ∧ d₁.locate path.text = .ok (d.destination path) := by
  have hne : path.parts ≠ [] := h.parts_ne_nil
  have hparent : ∀ x ∈ path.parts.dropLast, Path.IsComponent x := fun x hx => hp x (List.dropLast_subset _ hx)
  have hplain : Path.IsPlain ⟨path.root, path.parts.dropLast⟩ := fun x hx => h.plain x (List.dropLast_subset _ hx)
  obtain ⟨d₁, hrun, hmade⟩ := exists_runOn_makeDirectories hparent hplain h.start h.above
  have hgrows := grows_makeDirectories d path.root hparent
  rw [hrun] at hgrows
  have hdestination : d₁.destination path = d.destination path := destination_of_cwd hgrows.cwd path
  have hfree : d₁.IsFree (d.destination path) := by
    refine ⟨?_, (isLooped_of_loops hgrows.loops _).trans h.place.loop⟩
    rcases hgrows.entries (d.destination path) with hsame | ⟨hplace, -, -⟩
    · rw [hsame]
      exact h.place.directory
    · exact absurd hplace h.apart
  have hloc : d₁.locate path.text = .ok (d.destination path) := by
    rw [locate_eq_ok_iff hp hne, hdestination, above, hgrows.through_eq]
    exact ⟨h.plain, hmade, rfl⟩
  exact ⟨d₁, hgrows, runOn_bind_eq_ok.2 ⟨(), d₁, hrun, runOn_writeFile hloc hfree bytes⟩, hfree, hloc⟩

theorem admits_of_runOn_save (hp : ∀ x ∈ path.parts, Path.IsComponent x)
    (h : runOn (save path bytes) d = (.ok (), d')) : d.Admits path := by
  obtain ⟨_, d₁, hmake, hwrite⟩ := runOn_bind_eq_ok.1 h
  have hparent : ∀ x ∈ path.parts.dropLast, Path.IsComponent x := fun x hx => hp x (List.dropLast_subset _ hx)
  have hgrows := grows_makeDirectories d path.root hparent
  have hunmade : d.entryAt? (d.start path.root) ≠ some .directory →
      (runOn (makeDirectories path.root path.parts.dropLast.reverse) d).2 = d :=
        runOn_makeDirectories_of_start d hparent
  have hmade : runOn (makeDirectories path.root path.parts.dropLast.reverse) d = (.ok (), d₁) := hmake
  rw [hmade] at hgrows hunmade
  obtain ⟨loc, hloc, hfree, -⟩ := exists_of_runOn_writeFile hwrite
  have hne : path.parts ≠ [] := parts_ne_nil_of_locate hloc hfree.directory
  obtain ⟨hplain, habove, rfl⟩ := (locate_eq_ok_iff hp hne).1 hloc
  have hdestination : d₁.destination path = d.destination path := destination_of_cwd hgrows.cwd path
  have hsame : d₁.above path = d.above path := by rw [above, hgrows.through_eq, ← above]
  rw [hsame] at habove
  rw [hdestination] at hfree
  refine ⟨hplain, ?_, fun l hl => ⟨fun bytes t hfile => ?_, ?_⟩, ⟨fun hdirectory => ?_, ?_⟩, fun hmem => ?_⟩
  · by_contra hstart
    obtain rfl : d₁ = d := hunmade hstart
    exact hstart (habove _ (start_mem_through d₁ path.root _))
  · rw [← hgrows.file, habove l hl] at hfile
    cases hfile
  · exact (isLooped_of_loops hgrows.loops l).symm.trans (isLooped_of_entryAt? (habove l hl))
  · exact hfree.directory (hgrows.keepsDirectories.directories _ hdirectory)
  · exact (isLooped_of_loops hgrows.loops _).symm.trans hfree.loop
  · exact hfree.directory (habove _ hmem)

/-- **Where files can be saved.** Saving one succeeds exactly where the disk admits it, whatever it holds. -/
theorem save_succeeds_iff (hp : ∀ x ∈ path.parts, Path.IsComponent x) (d : Disk) (bytes : List UInt8) :
    (∃ d', runOn (save path bytes) d = (.ok (), d')) ↔ d.Admits path := by
  constructor
  · rintro ⟨d', hrun⟩
    exact admits_of_runOn_save hp hrun
  · intro h
    obtain ⟨_, -, hrun, -⟩ := exists_runOn_save hp h bytes
    exact ⟨_, hrun⟩

end Effect
end ReferenceAudit
