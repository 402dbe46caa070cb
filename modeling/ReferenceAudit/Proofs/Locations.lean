import ReferenceAudit.Disk
import ReferenceAudit.Proofs.Lists

/-!
# Where paths lead

A path that leads anywhere on a disk leads to its normal form, so two paths with one normal form lead to the
same place wherever both lead. Splitting a text and joining its pieces undo each other.
-/
namespace ReferenceAudit

namespace Text

theorem pieces_eq_splitOnP {α : Type} (p : α → Bool) (xs : List α) : pieces p xs = xs.splitOnP p := by
  induction xs with
  | nil => rw [pieces, List.splitOnP_nil]
  | cons x xs ih =>
    rw [pieces, List.splitOnP_cons_eq_if_modifyHead, ih]
    split
    · rfl
    · cases hq : xs.splitOnP p with
      | nil => exact absurd hq (List.splitOnP_ne_nil p xs)
      | cons q qs => rfl

theorem splitOn_eq (sep : Char) (s : String) : splitOn sep s = (s.toList.splitOn sep).map String.ofList := by
  rw [splitOn, pieces_eq_splitOnP, List.splitOn]

theorem splitOn_join {sep : Char} {parts : List String} (hn : parts ≠ []) (hs : ∀ p ∈ parts, sep ∉ p.toList) :
    splitOn sep (join (String.singleton sep) parts) = parts := by
  have hs' : ∀ cs ∈ parts.map String.toList, sep ∉ cs := by simpa using hs
  rw [splitOn_eq, join, String.toList_intercalate, String.toList_singleton,
    List.splitOn_intercalate sep hs' (by simpa using hn)]
  simp [Function.comp_def]

theorem not_mem_of_mem_splitOn {sep : Char} {s p : String} (h : p ∈ splitOn sep s) : sep ∉ p.toList := by
  obtain ⟨cs, hcs, rfl⟩ := List.mem_map.1 h
  intro hm
  have := not_mem_of_mem_pieces hcs sep (by simpa using hm)
  simp at this

theorem splitOn_cons_sep (sep : Char) (s : String) :
    splitOn sep (String.singleton sep ++ s) = "" :: splitOn sep s := by
  simp [splitOn, pieces]

theorem splitOn_append (sep : Char) (s t : String) :
    splitOn sep (s ++ String.singleton sep ++ t) = splitOn sep s ++ splitOn sep t := by
  have hchars : (s ++ String.singleton sep ++ t).toList = s.toList ++ sep :: t.toList := by simp
  rw [splitOn_eq, splitOn_eq, splitOn_eq, hchars, List.splitOn_append_cons_self, List.map_append]

end Text

namespace Path

/-- What a component is that a path keeps when it is read. -/
def IsComponent (part : String) : Prop := isProper part = true ∧ '/' ∉ part.toList

instance (part : String) : Decidable (IsComponent part) :=
  inferInstanceAs (Decidable (isProper part = true ∧ '/' ∉ part.toList))

theorem isComponent_of_mem_ofString {s part : String} (h : part ∈ (ofString s).parts) : IsComponent part := by
  obtain ⟨hs, hp⟩ := List.mem_filter.1 h
  exact ⟨hp, Text.not_mem_of_mem_splitOn hs⟩

/-- One component further by the text alone. -/
def advance (loc : List String) (component : String) : List String :=
  if component = "" ∨ component = "." then loc
  else if component = ".." then loc.dropLast
  else loc ++ [component]

theorem isComponent_child {directory : Path} (hp : ∀ part ∈ directory.parts, IsComponent part) {name : String}
    (hname : IsComponent name) : ∀ part ∈ (directory.child name).parts, IsComponent part := by
  intro part hpart
  rcases List.mem_append.1 hpart with hpart | hpart
  · exact hp part hpart
  · exact List.mem_singleton.1 hpart ▸ hname

theorem advance_of_component {name : String} (hname : IsComponent name) (hup : name ≠ "..") (loc : List String) :
    advance loc name = loc ++ [name] := by
  have hproper := hname.1
  simp only [isProper, Bool.and_eq_true, bne_iff_ne] at hproper
  simp [advance, hproper, hup]

theorem foldl_advance_filter (cs loc : List String) :
    (cs.filter isProper).foldl advance loc = cs.foldl advance loc := by
  induction cs generalizing loc with
  | nil => rfl
  | cons c cs ih =>
    by_cases hc : isProper c = true
    · rw [List.filter_cons_of_pos hc, List.foldl_cons, List.foldl_cons, ih]
    · have hstay : advance loc c = loc := by
        simp only [isProper, Bool.and_eq_true, bne_iff_ne, not_and_or, not_not] at hc
        simp [advance, hc]
      rw [List.filter_cons_of_neg hc, List.foldl_cons, hstay, ih]

theorem up_not_mem_advance {loc : List String} (h : ".." ∉ loc) (part : String) : ".." ∉ advance loc part := by
  rw [advance]
  split_ifs with hstay hup
  · exact h
  · exact fun hm => h (List.dropLast_subset _ hm)
  · rw [List.mem_append, List.mem_singleton]
    exact not_or.2 ⟨h, Ne.symm hup⟩

theorem push_eq_advance {root : Root} (hr : root ≠ .relative) {done : List String} (hd : ".." ∉ done)
    {part : String} (hp : isProper part = true) : push root done part = advance done part := by
  simp only [isProper, Bool.and_eq_true, bne_iff_ne] at hp
  have hlast : done.getLast? ≠ some ".." := fun h => hd (List.mem_of_getLast? h)
  by_cases hdots : part = ".."
  · simp [push, advance, hdots, hlast, hr]
  · simp [push, advance, hp, hdots]

theorem foldl_push_eq_advance {root : Root} (hr : root ≠ .relative) {parts done : List String} (hd : ".." ∉ done)
    (hp : ∀ part ∈ parts, isProper part = true) : parts.foldl (push root) done = parts.foldl advance done := by
  induction parts generalizing done with
  | nil => rfl
  | cons part parts ih =>
    rw [List.foldl_cons, List.foldl_cons, push_eq_advance hr hd (hp part List.mem_cons_self),
      ih (up_not_mem_advance hd part) fun q hq => hp q (List.mem_cons_of_mem _ hq)]

theorem up_not_mem_foldl_push {root : Root} (hr : root ≠ .relative) {parts done : List String} (hd : ".." ∉ done)
    (hp : ∀ part ∈ parts, isProper part = true) : ".." ∉ parts.foldl (push root) done := by
  rw [foldl_push_eq_advance hr hd hp]
  exact List.foldlRecOn (motive := fun loc => ".." ∉ loc) parts advance hd fun _ hloc part _ =>
    up_not_mem_advance hloc part

theorem foldl_push_of_not_mem {root : Root} {parts : List String} (h : ".." ∉ parts) (done : List String) :
    parts.foldl (push root) done = done ++ parts := by
  induction parts generalizing done with
  | nil => simp
  | cons part parts ih =>
    rw [List.mem_cons, not_or] at h
    have hpush : push root done part = done ++ [part] := by simp [push, Ne.symm h.1]
    rw [List.foldl_cons, hpush, ih h.2, List.append_assoc, List.singleton_append]

theorem mem_foldl_push {root : Root} {parts done : List String} {x : String}
    (h : x ∈ parts.foldl (push root) done) :
    x ∈ done ∨ x ∈ parts := by
  induction parts generalizing done with
  | nil => exact Or.inl h
  | cons part parts ih =>
    rcases ih h with hpushed | hm
    · rw [push] at hpushed
      split at hpushed
      · rcases List.mem_append.1 hpushed with hdone | hpart
        · exact Or.inl hdone
        · exact Or.inr (List.mem_singleton.1 hpart ▸ List.mem_cons_self)
      · exact Or.inl (List.dropLast_subset _ hpushed)
    · exact Or.inr (List.mem_cons_of_mem _ hm)

theorem isAbsolute_append {p : Path} (h : p.isAbsolute = true) (q : Path) : (p.append q).isAbsolute = true := by
  rw [append]
  split
  · assumption
  · exact h

theorem isComponent_of_mem_append {p q : Path} (hp : ∀ part ∈ p.parts, IsComponent part)
    (hq : ∀ part ∈ q.parts, IsComponent part) : ∀ part ∈ (p.append q).parts, IsComponent part := by
  intro part hm
  rw [append] at hm
  split at hm
  · exact hq part hm
  · exact (List.mem_append.1 hm).elim (hp part) (hq part)

theorem text_ne_empty {p : Path} (h : p.root ≠ .relative) : p.text ≠ "" := by
  rw [text, if_neg fun hr => h hr.1]
  cases hr : p.root with
  | relative => exact absurd hr h
  | single => simp [Root.text]
  | double => simp [Root.text]

/-- A path's text has its components between slashes, and a slash in front only if it starts from the root. -/
theorem filter_splitOn_text {p : Path} (hp : ∀ part ∈ p.parts, IsComponent part) :
    (Text.splitOn '/' p.text).filter isProper = p.parts := by
  have hjoin : (Text.splitOn '/' (Text.join "/" p.parts)).filter isProper = p.parts := by
    by_cases hn : p.parts = []
    · rw [hn]
      decide +kernel
    · have hsplit : Text.splitOn '/' (Text.join "/" p.parts) = p.parts :=
        Text.splitOn_join hn fun part hm => (hp part hm).2
      rw [hsplit, List.filter_eq_self]
      exact fun part hm => (hp part hm).1
  have hslash (s : String) : (Text.splitOn '/' ("/" ++ s)).filter isProper =
      (Text.splitOn '/' s).filter isProper := by
    have hcons : Text.splitOn '/' ("/" ++ s) = "" :: Text.splitOn '/' s := Text.splitOn_cons_sep '/' s
    rw [hcons, List.filter_cons_of_neg (by decide)]
  obtain ⟨root, parts⟩ := p
  cases root with
  | relative =>
    by_cases hn : parts = []
    · subst hn
      decide +kernel
    · simpa [text, hn, Root.text] using hjoin
  | single => simpa [text, Root.text, hslash] using hjoin
  | double =>
    have hdouble (s : String) : "//" ++ s = "/" ++ ("/" ++ s) := by rw [← String.append_assoc]; rfl
    simpa [text, Root.text, hdouble, hslash] using hjoin

theorem eq_of_text_eq {parts parts' : List String} (hp : ∀ part ∈ parts, IsComponent part)
    (hp' : ∀ part ∈ parts', IsComponent part) (h : text ⟨.single, parts⟩ = text ⟨.single, parts'⟩) :
    parts = parts' := by
  have hparts : (Text.splitOn '/' (text ⟨.single, parts⟩)).filter isProper = parts := filter_splitOn_text hp
  rw [← hparts, h]
  exact filter_splitOn_text hp'

/-- No NUL is in a path, so the system takes it for one. -/
def IsPlain (p : Path) : Prop := ∀ part ∈ p.parts, null ∉ part.toList

/-- A name that a file of a directory can have. -/
structure IsName (name : String) : Prop where
  component : IsComponent name
  plain : null ∉ name.toList
  up : name ≠ ".."

theorem IsPlain.child {p : Path} (h : p.IsPlain) {name : String} (hname : IsName name) :
    (p.child name).IsPlain := by
  intro part hm
  rcases List.mem_append.1 hm with hm | hm
  · exact h part hm
  · exact List.mem_singleton.1 hm ▸ hname.plain

theorem null_mem_text_iff {p : Path} : null ∈ p.text.toList ↔ ∃ part ∈ p.parts, null ∈ part.toList := by
  have hjoin : null ∈ (Text.join "/" p.parts).toList ↔ ∃ part ∈ p.parts, null ∈ part.toList := by
    have hslash : null ≠ '/' := by decide
    rw [Text.join, String.toList_intercalate]
    exact (Lists.mem_intercalate_iff hslash).trans (by simp)
  have hroot : null ∉ p.root.text.toList := by cases p.root <;> decide
  rw [text]
  split
  · rename_i hbare
    have hdot : null ≠ '.' := by decide
    simp [hbare.2, hdot]
  · rw [String.toList_append, List.mem_append, or_iff_right hroot, hjoin]

theorem isPlain_iff_text {p : Path} : p.IsPlain ↔ null ∉ p.text.toList := by
  simp only [null_mem_text_iff, IsPlain, not_exists, not_and]

theorem head?_text {p : Path} (hp : ∀ part ∈ p.parts, IsComponent part) :
    p.text.toList.head? = some '/' ↔ p.root ≠ .relative := by
  obtain ⟨root, parts⟩ := p
  cases root with
  | relative =>
    have hhead : (text ⟨.relative, parts⟩).toList.head? ≠ some '/' := by
      cases parts with
      | nil => decide +kernel
      | cons part more =>
        obtain ⟨hproper, hslash⟩ := hp part List.mem_cons_self
        obtain ⟨c, cs, hc⟩ : ∃ c cs, part.toList = c :: cs := by
          apply List.exists_cons_of_ne_nil
          intro hnil
          rw [String.toList_eq_nil_iff.1 hnil] at hproper
          exact absurd hproper (by decide)
        have hne : c ≠ '/' := fun he => hslash (hc ▸ he ▸ List.mem_cons_self)
        cases more <;> simp [text, Root.text, Text.join, String.toList_intercalate, hc, hne]
    simpa using hhead
  | single => simp [text, Root.text]
  | double => simp [text, Root.text]

end Path

namespace Disk

theorem advance_of_step {d : Disk} {loc next : Location} {component : String}
    (h : d.step loc component = .ok next) :
    next = Path.advance loc component := by
  rw [step] at h
  split at h
  · rw [Path.advance]
    split at h
    · rename_i hc
      rw [if_pos hc]
      exact (Except.ok.inj h).symm
    · rename_i hc
      rw [if_neg hc]
      split at h
      · rename_i hdots
        rw [if_pos hdots]
        exact (Except.ok.inj h).symm
      · rename_i hdots
        rw [if_neg hdots]
        exact (Except.ok.inj h).symm
  · cases h
  · cases h

theorem foldl_advance_of_foldlM_step {d : Disk} {cs : List String} {loc next : Location}
    (h : cs.foldlM d.step loc = .ok next) : next = cs.foldl Path.advance loc := by
  induction cs generalizing loc with
  | nil => exact (Except.ok.inj h).symm
  | cons c cs ih =>
    rw [List.foldlM_cons] at h
    cases hs : d.step loc c with
    | error deadEnd => rw [hs] at h; cases h
    | ok mid =>
      rw [hs] at h
      rw [List.foldl_cons, ← advance_of_step hs]
      exact ih h

theorem locate_eq_ok_iff_foldlM {d : Disk} {path : String} {loc : Location} :
    d.locate path = .ok loc ↔ path ≠ "" ∧ Path.null ∉ path.toList ∧
      (Text.splitOn '/' path).foldlM d.step (if path.toList.head? = some '/' then [] else d.cwd) = .ok loc := by
  rw [locate]
  by_cases hempty : path = ""
  · simp [hempty]
  · by_cases hnull : Path.null ∈ path.toList <;> simp [hempty, hnull]

theorem isPlain_of_locate {d : Disk} {path : Path} {loc : Location} (h : d.locate path.text = .ok loc) :
    path.IsPlain :=
  Path.isPlain_iff_text.2 (locate_eq_ok_iff_foldlM.1 h).2.1

/-- The place of a path's normal form, seen from the working directory. -/
def placeOf (d : Disk) (path : Path) : Location := (d.here.append path).normal.parts

theorem placeOf_congr {d d' : Disk} (h : d'.cwd = d.cwd) (path : Path) : d'.placeOf path = d.placeOf path := by
  rw [placeOf, placeOf, here, here, h]

/-- Relative paths start at a place whose names are components, none of them `..`. -/
structure Rooted (d : Disk) : Prop where
  here : ∀ part ∈ d.cwd, Path.IsComponent part
  upward : ".." ∉ d.cwd

instance (d : Disk) : Decidable d.Rooted :=
  decidable_of_iff ((∀ part ∈ d.cwd, Path.IsComponent part) ∧ ".." ∉ d.cwd)
    ⟨fun h => ⟨h.1, h.2⟩, fun h => ⟨h.here, h.upward⟩⟩

theorem Rooted.of_cwd_eq {d d' : Disk} (hd : d.Rooted) (h : d'.cwd = d.cwd) : d'.Rooted :=
  ⟨h ▸ hd.here, h ▸ hd.upward⟩

theorem placeOf_of_locate {d : Disk} (hd : ".." ∉ d.cwd) {path : Path}
    (hp : ∀ part ∈ path.parts, Path.IsComponent part) {loc : Location} (h : d.locate path.text = .ok loc) :
    loc = d.placeOf path := by
  have hloc := foldl_advance_of_foldlM_step (locate_eq_ok_iff_foldlM.1 h).2.2
  have hproper : ∀ part ∈ path.parts, Path.isProper part = true := fun part hm => (hp part hm).1
  rw [← Path.foldl_advance_filter, Path.filter_splitOn_text hp] at hloc
  rw [placeOf, Path.append, Path.normal, here, Path.isAbsolute]
  by_cases hr : path.root = .relative
  · have hhead : path.text.toList.head? ≠ some '/' := fun hs => (Path.head?_text hp).1 hs hr
    rw [if_neg hhead] at hloc
    simp only [hr, bne_self_eq_false, Bool.false_eq_true, if_false, List.foldl_append]
    rw [Path.foldl_push_of_not_mem hd, List.nil_append, Path.foldl_push_eq_advance (by decide) hd hproper]
    exact hloc
  · have hhead : path.text.toList.head? = some '/' := (Path.head?_text hp).2 hr
    rw [if_pos hhead] at hloc
    have habs : (path.root != .relative) = true := bne_iff_ne.2 hr
    rw [if_pos habs, Path.foldl_push_eq_advance hr List.not_mem_nil hproper]
    exact hloc

theorem find?_eq_some_iff {d : Disk} {path : String} {e : Entry} :
    d.find? path = some e ↔ ∃ loc, d.locate path = .ok loc ∧ d.entryAt? loc = some e := by
  rw [find?]
  cases d.locate path with
  | error deadEnd => simp [Except.toOption]
  | ok loc => simp [Except.toOption]

theorem isThere_of_find? {d : Disk} {path : String} {e : Entry} (h : d.find? path = some e) :
    d.isThere path = true := by
  rw [isThere, h]
  rfl

theorem read_of_find? {d : Disk} {path : Path} {bytes : List UInt8} {t : Nat}
    (h : d.find? path.text = some (.file bytes t)) : d.read path = .ok bytes := by
  obtain ⟨loc, hloc, hfile⟩ := find?_eq_some_iff.1 h
  simp [read, hloc, hfile, Except.mapError, bind, Except.bind]

end Disk
end ReferenceAudit
