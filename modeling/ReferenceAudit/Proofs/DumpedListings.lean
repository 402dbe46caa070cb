import ReferenceAudit.Proofs.SafeSaves
import ReferenceAudit.Proofs.Utf8

/-!
# What dumping the listings changes

A listing is compared up to case and written exactly. Each of the two is dealt with by itself: all that writing
the first one does to the second is to make the directories above it. Main statement: a listing is written
exactly if its file did not show it, nothing else changes, and then both files show theirs, so nothing is left
to write.
-/
namespace ReferenceAudit

namespace Path

/-- Different names that files of one directory can have. -/
structure Apart (a b : String) : Prop where
  left : IsName a
  right : IsName b
  ne : a ≠ b

theorem Apart.symm {a b : String} (h : Apart a b) : Apart b a := ⟨h.right, h.left, h.ne.symm⟩

theorem Apart.child_ne {a b : String} (h : Apart a b) (directory : Path) :
    directory.child a ≠ directory.child b := by
  simpa [child] using h.ne

theorem foldl_advance_of_not_mem {parts : List String} (hp : ∀ part ∈ parts, IsComponent part) (hup : ".." ∉ parts)
    (loc : List String) : parts.foldl advance loc = loc ++ parts := by
  induction parts generalizing loc with
  | nil => simp
  | cons part parts ih =>
    rw [List.mem_cons, not_or] at hup
    rw [List.foldl_cons, advance_of_component (hp part List.mem_cons_self) (Ne.symm hup.1),
      ih (fun q hq => hp q (List.mem_cons_of_mem _ hq)) hup.2, List.append_assoc, List.singleton_append]

end Path

namespace Disk
variable {d d' d'' : Disk} {directory path : Path} {a b text : String} {bytes : List UInt8} {loc : Location}

/-- The file at a place shows a text: read leniently it is this one up to case. -/
def ShowsAt (d : Disk) (loc : Location) (text : String) : Prop :=
  ∃ bytes t, d.entryAt? loc = some (.file bytes t) ∧ Text.fold (Text.Utf8.decodeLenient bytes) = Text.fold text

/-- A path leads to a file that shows a text. -/
def Shows (d : Disk) (path : Path) (text : String) : Prop :=
  ∃ bytes t, d.find? path.text = some (.file bytes t) ∧ Text.fold (Text.Utf8.decodeLenient bytes) = Text.fold text

/-- Nothing has changed but at some places, and directories were made where nothing was at others. -/
structure Spares (places made : List Location) (d d' : Disk) : Prop where
  cwd : d'.cwd = d.cwd
  loops : d'.loops = d.loops
  entries : ∀ loc, loc ∉ places → d'.entryAt? loc = d.entryAt? loc ∨
    (loc ∈ made ∧ d.entryAt? loc = none ∧ d'.entryAt? loc = some .directory)

theorem Spares.refl (places made : List Location) (d : Disk) : Spares places made d d :=
  ⟨rfl, rfl, fun _ _ => Or.inl rfl⟩

theorem Spares.trans {places places' made : List Location} (h : Spares places made d d')
    (h' : Spares places' made d' d'') : Spares (places ++ places') made d d'' := by
  refine ⟨h'.cwd.trans h.cwd, h'.loops.trans h.loops, fun loc hloc => ?_⟩
  rw [List.mem_append, not_or] at hloc
  rcases h.entries loc hloc.1 with hsame | ⟨hplace, hnone, hmade⟩
  · rw [← hsame]
    exact h'.entries loc hloc.2
  · rcases h'.entries loc hloc.2 with hsame' | ⟨-, hnone', -⟩
    · exact Or.inr ⟨hplace, hnone, hsame'.trans hmade⟩
    · rw [hmade] at hnone'
      cases hnone'

theorem find?_eq_some_iff_destination (hp : ∀ part ∈ path.parts, Path.IsComponent part) (hne : path.parts ≠ [])
    (hplain : path.IsPlain) {e : Entry} : d.find? path.text = some e ↔
      (∀ l ∈ d.above path, d.entryAt? l = some .directory) ∧ d.entryAt? (d.destination path) = some e := by
  simp only [find?_eq_some_iff, locate_eq_ok_iff hp hne]
  constructor
  · rintro ⟨_, ⟨-, habove, rfl⟩, hentry⟩
    exact ⟨habove, hentry⟩
  · rintro ⟨habove, hentry⟩
    exact ⟨_, ⟨hplain, habove, rfl⟩, hentry⟩

theorem Admits.find?_eq_some_iff (h : d.Admits path) (hp : ∀ part ∈ path.parts, Path.IsComponent part) {e : Entry} :
    d.find? path.text = some e ↔
      (∀ l ∈ d.above path, d.entryAt? l = some .directory) ∧ d.entryAt? (d.destination path) = some e :=
  find?_eq_some_iff_destination hp h.parts_ne_nil h.plain

theorem shows_of_holds (h : d.Holds path (Text.Utf8.encode text)) : d.Shows path text := by
  obtain ⟨t, hfile⟩ := h
  exact ⟨_, t, hfile, by rw [Text.Utf8.decodeLenient_encode]⟩

/-! ## Files of one directory -/

theorem above_child (d : Disk) (directory : Path) (name : String) :
    d.above (directory.child name) = d.through directory.root directory.parts := by
  simp [above, Path.child]

theorem destination_child (d : Disk) (directory : Path) {name : String} (hname : Path.IsName name) :
    d.destination (directory.child name) = d.along directory.root directory.parts ++ [name] := by
  rw [destination, along, Path.child, List.foldl_append, ← along]
  exact Path.advance_of_component hname.component hname.up _

theorem destination_ne (hab : Path.Apart a b) (d : Disk) (directory : Path) :
    d.destination (directory.child b) ≠ d.destination (directory.child a) := by
  rw [destination_child d directory hab.left, destination_child d directory hab.right]
  simpa using hab.ne.symm

theorem Gains.destination_child (h : d.Gains (directory.child a) bytes d') :
    d'.destination (directory.child b) = d.destination (directory.child b) := destination_of_cwd h.cwd _

theorem Gains.above_child (h : d.Gains (directory.child a) bytes d') :
    d'.above (directory.child b) = d.above (directory.child a) := by
  rw [Disk.above_child, Disk.above_child, through_of_cwd h.cwd]

theorem Gains.entryAt?_beside (h : d.Gains (directory.child a) bytes d') (hab : Path.Apart a b)
    (hb : d.destination (directory.child b) ∉ d.above (directory.child b)) :
    d'.entryAt? (d.destination (directory.child b)) = d.entryAt? (d.destination (directory.child b)) := by
  rcases h.others _ (destination_ne hab d directory) with hsame | ⟨hmade, -, -⟩
  · exact hsame
  · rw [Disk.above_child, ← Disk.above_child d directory b] at hmade
    exact absurd hmade hb

theorem Gains.isFree_beside (h : d.Gains (directory.child a) bytes d') (hab : Path.Apart a b)
    (hb : d.destination (directory.child b) ∉ d.above (directory.child b)) :
    d'.IsFree (d'.destination (directory.child b)) ↔ d.IsFree (d.destination (directory.child b)) := by
  have hentry := h.entryAt?_beside hab hb
  have hloop := isLooped_of_loops h.loops (d.destination (directory.child b))
  rw [h.destination_child]
  exact ⟨fun hfree => ⟨hentry ▸ hfree.directory, hloop ▸ hfree.loop⟩,
    fun hfree => ⟨hentry.symm ▸ hfree.directory, hloop.trans hfree.loop⟩⟩

theorem Gains.admits_iff (h : d.Gains (directory.child a) bytes d') (hab : Path.Apart a b)
    (ha : d.Admits (directory.child a)) : d'.Admits (directory.child b) ↔ d.Admits (directory.child b) := by
  have hstart : d'.start directory.root = d.start directory.root := by simp [Disk.start, h.cwd]
  constructor
  · intro hb
    have hapart := hb.apart
    rw [h.destination_child, h.above_child, Disk.above_child, ← Disk.above_child d directory b] at hapart
    refine ⟨hb.plain, ha.start, ?_, (h.isFree_beside hab hapart).1 hb.place, hapart⟩
    simpa [Disk.above_child] using ha.above
  · intro hb
    refine ⟨hb.plain, ?_, ?_, (h.isFree_beside hab hb.apart).2 hb.place, ?_⟩
    · rw [Path.child, hstart]
      exact h.above _ (start_mem_through d _ _)
    · rw [h.above_child]
      exact fun loc hloc => isOpen_of_directory (h.above loc hloc)
    · rw [h.destination_child, h.above_child, Disk.above_child, ← Disk.above_child d directory b]
      exact hb.apart

theorem Gains.find?_beside (h : d.Gains (directory.child a) bytes d') (hab : Path.Apart a b)
    (hp : ∀ part ∈ directory.parts, Path.IsComponent part) (hb : d.Admits (directory.child b)) {e : Entry} :
    d'.find? (directory.child b).text = some e ↔ d.entryAt? (d.destination (directory.child b)) = some e := by
  rw [find?_eq_some_iff_destination (Path.isComponent_child hp hab.right.component) hb.parts_ne_nil hb.plain,
    h.above_child, h.destination_child, h.entryAt?_beside hab hb.apart]
  exact and_iff_right h.above

theorem Gains.spares (h : d.Gains (directory.child a) bytes d') : d.Spares [d.destination (directory.child a)]
    (d.through directory.root directory.parts) d' := by
  refine ⟨h.cwd, h.loops, fun loc hloc => ?_⟩
  rw [← Disk.above_child d directory a]
  exact h.others loc fun heq => hloc (List.mem_singleton.2 heq)

/-! ## Places that are left again -/

/-- Whatever is there is in a directory. -/
def Grounded (d : Disk) : Prop :=
  ∀ e ∈ d.entries, d.isLooped e.1 = false → d.entryAt? e.1.dropLast = some .directory

/-- No place that a path leads through is left again by `..` if nothing is there. -/
def Straight (d : Disk) (path : Path) : Prop :=
  ∀ loc ∈ d.above path, d.entryAt? loc = none → loc <+: d.destination path

theorem straight_of_not_mem (hp : ∀ part ∈ path.parts, Path.IsComponent part) (hup : ".." ∉ path.parts) (d : Disk) :
    d.Straight path := by
  intro loc hloc _
  obtain ⟨before, hbefore, rfl⟩ := mem_through_iff.1 hloc
  have hshort : before <+: path.parts := hbefore.trans (List.dropLast_prefix _)
  rw [destination, along, along, Path.foldl_advance_of_not_mem hp hup,
    Path.foldl_advance_of_not_mem (fun part hpart => hp part (hshort.subset hpart)) fun hm =>
      hup (hshort.subset hm)]
  exact List.prefix_append_right_inj _ |>.2 hshort

theorem Grounded.entryAt?_dropLast (h : d.Grounded) {e : Entry} (hloc : d.entryAt? loc = some e) :
    d.entryAt? loc.dropLast = some .directory := by
  have hlooped := isLooped_of_entryAt? hloc
  by_cases hroot : loc = []
  · rw [hroot, List.dropLast_nil, entryAt?_root]
  · rw [entryAt?, if_neg hroot, hlooped, if_neg Bool.false_ne_true] at hloc
    obtain ⟨_, _, heq, -⟩ := List.lookup_eq_some_iff.1 hloc
    exact h (loc, e) (by simp [heq]) hlooped

theorem Grounded.entryAt?_of_isPrefix (h : d.Grounded) {e : Entry} {l : Location} (hloc : d.entryAt? loc = some e)
    (hl : l <+: loc) (hne : l ≠ loc) : d.entryAt? l = some .directory := by
  induction loc using List.reverseRecOn generalizing e with
  | nil => exact absurd (List.prefix_nil.1 hl) hne
  | append_singleton loc name ih =>
    have habove := h.entryAt?_dropLast hloc
    rw [List.dropLast_concat] at habove
    rcases List.prefix_concat_iff.1 hl with heq | hshort
    · exact absurd heq hne
    · by_cases hlast : l = loc
      · rw [hlast, habove]
      · exact ih habove hshort hlast

theorem Admits.find?_iff_of_straight (h : d.Admits path) (hp : ∀ part ∈ path.parts, Path.IsComponent part)
    (hgrounded : d.Grounded) (hstraight : d.Straight path) {e : Entry} :
    d.find? path.text = some e ↔ d.entryAt? (d.destination path) = some e := by
  rw [h.find?_eq_some_iff hp, and_iff_right_iff_imp]
  intro hplace l hl
  cases hentry : d.entryAt? l with
  | none =>
    have hne : l ≠ d.destination path := fun heq => h.apart (heq ▸ hl)
    rw [← hentry, hgrounded.entryAt?_of_isPrefix hplace (hstraight l hl hentry) hne]
  | some entry => cases entry with
    | directory => rfl
    | file bytes t => exact absurd hentry ((h.above l hl).file bytes t)

end Disk

namespace Store
open Disk
variable {d d' d₁ d₂ : Disk} {directory path : Path} {modules : List String} {a b text : String}

theorem apart_fileNames : Path.Apart usedFileName unusedFileName :=
  ⟨isName_usedFileName, isName_unusedFileName, by decide⟩

theorem isUnchanged_iff_shows : isUnchanged d path true text = .ok true ↔ d.Shows path text := by
  simp [isUnchanged_eq_true_iff, Shows, holds]

/-- What comes of one listing: its file shows it already, or is written. -/
inductive Listed (path : Path) (text : String) (d : Disk) : List Path → Disk → Prop
  | kept (hshows : d.Shows path text) : Listed path text d [] d
  | written {d' : Disk} (hnot : ¬ d.Shows path text) (hgains : d.Gains path (Text.Utf8.encode text) d') :
    Listed path text d [path] d'

theorem exists_runOn_writeListing_of_admits (hp : ∀ part ∈ path.parts, Path.IsComponent part) (h : d.Admits path)
    (modules : List String) : ∃ written d', Effect.runOn (writeListing path modules) d = (.ok written, d') ∧
      Listed path (listingText modules) d written d' := by
  rcases runOn_writeIfChanged_of_admits hp h true (listingText modules) with
    ⟨hunchanged, hrun⟩ | ⟨hchanged, d', hrun, hgains⟩
  · exact ⟨[], d, Effect.runOn_bind_eq_ok.2 ⟨false, d, hrun, rfl⟩, .kept (isUnchanged_iff_shows.1 hunchanged)⟩
  · have hnot : ¬ d.Shows path (listingText modules) := by
      rw [← isUnchanged_iff_shows, hchanged]
      simp
    exact ⟨[path], d', Effect.runOn_bind_eq_ok.2 ⟨true, d', hrun, rfl⟩, .written hnot hgains⟩

theorem runOn_writeListing_of_shows (h : d.Shows path (listingText modules)) :
    Effect.runOn (writeListing path modules) d = (.ok [], d) :=
  Effect.runOn_bind_eq_ok.2 ⟨false, d, runOn_writeIfChanged_of_isUnchanged (isUnchanged_iff_shows.2 h), rfl⟩

theorem exists_refusal_of_writeListing (hp : ∀ part ∈ path.parts, Path.IsComponent part) (h : ¬ d.Admits path)
    (modules : List String) : ∃ fault d', Effect.runOn (writeListing path modules) d = (.error fault, d') ∧
      fault.isRefusal = true := by
  obtain ⟨fault, d', hrun, hrefusal, -⟩ := exists_refusal_of_writeIfChanged hp h true (listingText modules)
  exact ⟨fault, d', run_bind_eq_error.2 (Or.inl hrun), hrefusal⟩

variable {written : List Path}

theorem Listed.mem_iff (h : Listed path text d written d') : path ∈ written ↔ ¬ d.Shows path text := by
  cases h with
  | kept hshows => simpa using hshows
  | written hnot => simpa using hnot

theorem Listed.eq_nil_or (h : Listed path text d written d') : written = [] ∨ written = [path] := by
  cases h <;> simp

theorem Listed.shows (h : Listed path text d written d') (hp : ∀ part ∈ path.parts, Path.IsComponent part)
    (hne : path.parts ≠ []) : d'.Shows path text := by
  cases h with
  | kept hshows => exact hshows
  | written _ hgains => exact shows_of_holds (hgains.holds hp hne)

theorem Listed.holds (h : Listed path text d written d') (hp : ∀ part ∈ path.parts, Path.IsComponent part)
    (hne : path.parts ≠ []) (hwritten : path ∈ written) : d'.Holds path (Text.Utf8.encode text) := by
  cases h with
  | kept => cases hwritten
  | written _ hgains => exact hgains.holds hp hne

theorem Listed.eq_of_nil (h : Listed path text d [] d') : d' = d := by
  cases h
  rfl

theorem Listed.admits_iff (h : Listed (directory.child a) text d written d') (hab : Path.Apart a b)
    (ha : d.Admits (directory.child a)) : d'.Admits (directory.child b) ↔ d.Admits (directory.child b) := by
  cases h with
  | kept => exact Iff.rfl
  | written _ hgains => exact hgains.admits_iff hab ha

theorem Listed.spares (h : Listed (directory.child a) text d written d') :
    d.Spares (written.map d.destination) (d.through directory.root directory.parts) d' := by
  cases h with
  | kept => exact .refl _ _ d
  | written _ hgains => exact hgains.spares

theorem Listed.find?_beside (h : Listed (directory.child a) text d written d') (hab : Path.Apart a b)
    (hp : ∀ part ∈ directory.parts, Path.IsComponent part) (ha : d.Admits (directory.child a))
    (hb : d.Admits (directory.child b)) {e : Entry} :
    d'.find? (directory.child b).text = some e ↔ d.entryAt? (d.destination (directory.child b)) = some e := by
  cases h with
  | kept hshows =>
    obtain ⟨bytes, t, hfile, -⟩ := hshows
    have habove := ((ha.find?_eq_some_iff (Path.isComponent_child hp hab.left.component)).1 hfile).1
    rw [above_child, ← above_child d directory b] at habove
    rw [hb.find?_eq_some_iff (Path.isComponent_child hp hab.right.component)]
    exact and_iff_right habove
  | written _ hgains => exact hgains.find?_beside hab hp hb

theorem Listed.find?_keeps (h : Listed (directory.child a) text d written d') (hab : Path.Apart a b)
    (hp : ∀ part ∈ directory.parts, Path.IsComponent part) (ha : d.Admits (directory.child a))
    (hb : d.Admits (directory.child b)) {e : Entry} (he : d.find? (directory.child b).text = some e) :
    d'.find? (directory.child b).text = some e := by
  rw [h.find?_beside hab hp ha hb]
  exact ((hb.find?_eq_some_iff (Path.isComponent_child hp hab.right.component)).1 he).2

/-! ## Both listings -/

variable {used offered : List String}

/-- A disk, and what it is after both listings were dumped and some of their paths given back. The second listing is
compared with what is at its place, for by then the directories above are there. -/
structure Dumps (directory : Path) (used offered : List String) (d : Disk) (written : List Path) (d' : Disk) :
    Prop where
  used_shows : d'.Shows (directory.child usedFileName) (listingText (usedListing used))
  unused_shows : d'.Shows (directory.child unusedFileName) (listingText (unusedListing used offered))
  sublist : written.Sublist [directory.child usedFileName, directory.child unusedFileName]
  used_mem_iff : directory.child usedFileName ∈ written ↔
    ¬ d.Shows (directory.child usedFileName) (listingText (usedListing used))
  unused_mem_iff : directory.child unusedFileName ∈ written ↔
    ¬ d.ShowsAt (d.destination (directory.child unusedFileName)) (listingText (unusedListing used offered))
  used_exact : directory.child usedFileName ∈ written →
    d'.Holds (directory.child usedFileName) (Text.Utf8.encode (listingText (usedListing used)))
  unused_exact : directory.child unusedFileName ∈ written →
    d'.Holds (directory.child unusedFileName) (Text.Utf8.encode (listingText (unusedListing used offered)))
  spares : d.Spares (written.map d.destination) (d.through directory.root directory.parts) d'
  kept : written = [] → d' = d

theorem runOn_dump_of_shows (hused : d.Shows (directory.child usedFileName) (listingText (usedListing used)))
    (hunused : d.Shows (directory.child unusedFileName) (listingText (unusedListing used offered))) :
    Effect.runOn (dump directory used offered) d = (.ok [], d) :=
  Effect.runOn_bind_eq_ok.2 ⟨[], d, runOn_writeListing_of_shows hused,
    Effect.runOn_bind_eq_ok.2 ⟨[], d, runOn_writeListing_of_shows hunused, rfl⟩⟩

theorem dumps_of_listed {first second : List Path} (hp : ∀ part ∈ directory.parts, Path.IsComponent part)
    (hused : d.Admits (directory.child usedFileName)) (hunused : d.Admits (directory.child unusedFileName))
    (hfirst : Listed (directory.child usedFileName) (listingText (usedListing used)) d first d₁)
    (hsecond : Listed (directory.child unusedFileName) (listingText (unusedListing used offered)) d₁ second d₂) :
    Dumps directory used offered d (first ++ second) d₂ := by
  have hab := apart_fileNames
  have hpUsed := Path.isComponent_child hp hab.left.component
  have hpUnused := Path.isComponent_child hp hab.right.component
  have hne : directory.child usedFileName ≠ directory.child unusedFileName := hab.child_ne directory
  have hunused₁ := (hfirst.admits_iff hab hused).2 hunused
  obtain ⟨bytes, t, hfile, hfold⟩ := hfirst.shows hpUsed hused.parts_ne_nil
  have hused₁ := admits_of_find? hpUsed hfile
  have hnotUsed : directory.child usedFileName ∉ second := by
    rcases hsecond.eq_nil_or with rfl | rfl <;> simp [hne]
  have hnotUnused : directory.child unusedFileName ∉ first := by
    rcases hfirst.eq_nil_or with rfl | rfl <;> simp [hne.symm]
  have hkeeps {e : Entry} (he : d₁.find? (directory.child usedFileName).text = some e) :=
    hsecond.find?_keeps hab.symm hp hunused₁ hused₁ he
  have hcwd := hfirst.spares.cwd
  refine ⟨⟨bytes, t, hkeeps hfile, hfold⟩, hsecond.shows hpUnused hunused₁.parts_ne_nil, ?_, ?_, ?_, ?_, ?_, ?_, ?_⟩
  · rcases hfirst.eq_nil_or with rfl | rfl <;> rcases hsecond.eq_nil_or with rfl | rfl <;> simp
  · rw [List.mem_append, or_iff_left hnotUsed, hfirst.mem_iff]
  · rw [List.mem_append, or_iff_right hnotUnused, hsecond.mem_iff]
    simp only [Shows, ShowsAt, hfirst.find?_beside hab hp hused hunused]
  · intro hwritten
    obtain ⟨t, hfile⟩ := hfirst.holds hpUsed hused.parts_ne_nil
      ((List.mem_append.1 hwritten).resolve_right hnotUsed)
    exact ⟨t, hkeeps hfile⟩
  · intro hwritten
    exact hsecond.holds hpUnused hunused.parts_ne_nil ((List.mem_append.1 hwritten).resolve_left hnotUnused)
  · have hspares := hsecond.spares
    rw [through_of_cwd hcwd, funext (destination_of_cwd hcwd)] at hspares
    rw [List.map_append]
    exact hfirst.spares.trans hspares
  · intro hnil
    obtain ⟨rfl, rfl⟩ := List.append_eq_nil_iff.1 hnil
    rw [hsecond.eq_of_nil, hfirst.eq_of_nil]

theorem exists_runOn_dump_of_admits (hp : ∀ part ∈ directory.parts, Path.IsComponent part)
    (hused : d.Admits (directory.child usedFileName)) (hunused : d.Admits (directory.child unusedFileName))
    (used offered : List String) : ∃ written d', Effect.runOn (dump directory used offered) d = (.ok written, d') ∧
      Dumps directory used offered d written d' := by
  have hab := apart_fileNames
  obtain ⟨first, d₁, hrun, hfirst⟩ := exists_runOn_writeListing_of_admits
    (Path.isComponent_child hp hab.left.component) hused (usedListing used)
  obtain ⟨second, d₂, hrun', hsecond⟩ := exists_runOn_writeListing_of_admits
    (Path.isComponent_child hp hab.right.component) ((hfirst.admits_iff hab hused).2 hunused)
      (unusedListing used offered)
  exact ⟨first ++ second, d₂,
    Effect.runOn_bind_eq_ok.2 ⟨first, d₁, hrun, Effect.runOn_bind_eq_ok.2 ⟨second, d₂, hrun', rfl⟩⟩,
    dumps_of_listed hp hused hunused hfirst hsecond⟩

theorem exists_refusal_of_dump (hp : ∀ part ∈ directory.parts, Path.IsComponent part)
    (h : ¬ (d.Admits (directory.child usedFileName) ∧ d.Admits (directory.child unusedFileName)))
    (used offered : List String) : ∃ fault d', Effect.runOn (dump directory used offered) d = (.error fault, d') ∧
      fault.isRefusal = true := by
  have hab := apart_fileNames
  have hpUsed := Path.isComponent_child hp hab.left.component
  by_cases hused : d.Admits (directory.child usedFileName)
  · obtain ⟨first, d₁, hrun, hfirst⟩ := exists_runOn_writeListing_of_admits hpUsed hused (usedListing used)
    have hunused₁ : ¬ d₁.Admits (directory.child unusedFileName) :=
      fun hadmits => h ⟨hused, (hfirst.admits_iff hab hused).1 hadmits⟩
    obtain ⟨fault, d₂, hrun', hrefusal⟩ := exists_refusal_of_writeListing
      (Path.isComponent_child hp hab.right.component)
      hunused₁ (unusedListing used offered)
    exact ⟨fault, d₂, run_bind_eq_error.2 (Or.inr ⟨first, d₁, hrun, run_bind_eq_error.2 (Or.inl hrun')⟩), hrefusal⟩
  · obtain ⟨fault, d₁, hrun, hrefusal⟩ := exists_refusal_of_writeListing hpUsed hused (usedListing used)
    exact ⟨fault, d₁, run_bind_eq_error.2 (Or.inl hrun), hrefusal⟩

theorem dumps_of_runOn (hp : ∀ part ∈ directory.parts, Path.IsComponent part)
    (h : Effect.runOn (dump directory used offered) d = (.ok written, d')) :
    Dumps directory used offered d written d' := by
  by_cases hadmits : d.Admits (directory.child usedFileName) ∧ d.Admits (directory.child unusedFileName)
  · obtain ⟨_, _, hrun, hdumps⟩ := exists_runOn_dump_of_admits hp hadmits.1 hadmits.2 used offered
    rw [h] at hrun
    cases hrun
    exact hdumps
  · obtain ⟨_, _, hrun, -⟩ := exists_refusal_of_dump hp hadmits used offered
    rw [h] at hrun
    cases hrun

/-- Where both files show listings, others are written exactly if they differ from them by more than case. -/
theorem exists_runOn_dump_of_shows (hp : ∀ part ∈ directory.parts, Path.IsComponent part) {first second : String}
    (hfirst : d.Shows (directory.child usedFileName) first)
    (hsecond : d.Shows (directory.child unusedFileName) second)
    (used offered : List String) : ∃ written d', Effect.runOn (dump directory used offered) d = (.ok written, d') ∧
      Dumps directory used offered d written d' ∧
      (directory.child usedFileName ∈ written ↔ Text.fold (listingText (usedListing used)) ≠ Text.fold first) ∧
      (directory.child unusedFileName ∈ written ↔
        Text.fold (listingText (unusedListing used offered)) ≠ Text.fold second) := by
  have hpUsed := Path.isComponent_child hp isName_usedFileName.component
  have hpUnused := Path.isComponent_child hp isName_unusedFileName.component
  obtain ⟨bytes, t, hfile, hfold⟩ := hfirst
  obtain ⟨bytes', t', hfile', hfold'⟩ := hsecond
  have hunused := admits_of_find? hpUnused hfile'
  obtain ⟨written, d', hrun, hdumps⟩ :=
    exists_runOn_dump_of_admits hp (admits_of_find? hpUsed hfile) hunused used offered
  have hplace := ((hunused.find?_eq_some_iff hpUnused).1 hfile').2
  refine ⟨written, d', hrun, hdumps, ?_, ?_⟩
  · rw [hdumps.used_mem_iff]
    simp [Shows, hfile, hfold, eq_comm]
  · rw [hdumps.unused_mem_iff]
    simp [ShowsAt, hplace, hfold', eq_comm]

/-! ## What is listed -/

/-- Modules in the order of their code points, each once: these and no others. -/
structure IsListing (modules : List String) (p : String → Prop) : Prop where
  ordered : modules.Pairwise (· < ·)
  mem_iff : ∀ m, m ∈ modules ↔ p m

theorem isListing_usedListing (used : List String) : IsListing (usedListing used) (· ∈ used) :=
  ⟨Text.pairwise_lt_sortedSet used, fun _ => Text.mem_sortedSet⟩

theorem isListing_unusedListing (used offered : List String) : IsListing (unusedListing used offered)
    fun m => m ∈ offered ∧ ∀ u ∈ used, Text.fold u ≠ Text.fold m := by
  refine ⟨Text.pairwise_lt_sortedSet _, fun m => ?_⟩
  simp [unusedListing, moduleKey]

theorem IsListing.unique {modules modules' : List String} {p : String → Prop} (h : IsListing modules p)
    (h' : IsListing modules' p) : modules = modules' :=
  (Text.eq_sortedSet h.ordered fun m => (h.mem_iff m).trans (h'.mem_iff m).symm).trans
    (Text.eq_sortedSet h'.ordered fun _ => Iff.rfl).symm

theorem dump_congr {used' offered' : List String} (hused : ∀ m, m ∈ used' ↔ m ∈ used)
    (hoffered : ∀ m, m ∈ offered' ↔ m ∈ offered) (directory : Path) :
    dump directory used' offered' = dump directory used offered := by
  have hfirst : usedListing used' = usedListing used :=
    (isListing_usedListing used').unique ⟨(isListing_usedListing used).ordered, fun m => by
      simp [usedListing, hused]⟩
  have hsecond : unusedListing used' offered' = unusedListing used offered := by
    refine (isListing_unusedListing used' offered').unique
      ⟨(isListing_unusedListing used offered).ordered, fun m => ?_⟩
    simp [(isListing_unusedListing used offered).mem_iff, hused, hoffered]
  rw [dump, dump, hfirst, hsecond]

/-- A directory with a listing that differs in case and one that is no text. -/
def staleDisk : Disk :=
  ((Disk.empty ["w"]).addFile ["w", usedFileName] (Text.Utf8.encode "b\nA")).addFile ["w", unusedFileName] [0xFF]

def workPath : Path := Path.ofString "."

def listedDisk : Disk := ((Disk.empty ["w"]).addFile ["w", usedFileName] []).addFile ["w", unusedFileName] []

def loopPath : Path := Path.ofString "x/.."

/-- The paths that dumping gives back are those of files that did not show their
listings, as one looks at a disk. -/
def GivesBack (shows : Disk → Path → String → Prop) : Prop :=
  ∀ (d : Disk) (directory : Path), d.Grounded → (∀ part ∈ directory.parts, Path.IsComponent part) →
    ∀ used offered written d', Effect.runOn (dump directory used offered) d = (.ok written, d') →
      (directory.child usedFileName ∈ written ↔
        ¬ shows d (directory.child usedFileName) (listingText (usedListing used))) ∧
      (directory.child unusedFileName ∈ written ↔
        ¬ shows d (directory.child unusedFileName) (listingText (unusedListing used offered)))

end Store
end ReferenceAudit
