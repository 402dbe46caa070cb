import ReferenceAudit.PackageGraph.Build
import ReferenceAudit.Proofs.PathsBelow

/-!
# Absolute paths

A text is made absolute by joining it to a directory and working out what leads up or nowhere. Texts that are joined
are read as the joined paths, and what a path starts with can be worked out first. Main statement: the absolute form
of a text is canonical, it is its own absolute form, and a directory can be made absolute before something is joined
to it; so a package's modules have one name however its directory is spelt.
-/
namespace ReferenceAudit.Path

/-! ## Joined texts -/

theorem rootOf_eq (cs : List Char) : rootOf cs =
    if cs.head? = some '/' then
      if cs.tail.head? = some '/' ∧ cs.tail.tail.head? ≠ some '/' then .double else .single
    else .relative := by
  have hhead {rest : List Char} (h : ∀ tail, rest = '/' :: tail → False) : rest.head? ≠ some '/' := by
    intro hslash
    obtain ⟨tail, hrest⟩ := List.head?_eq_some_iff.1 hslash
    exact h tail hrest
  unfold rootOf
  split
  · simp
  · rename_i rest hthird
    simp [hhead hthird]
  · rename_i rest hsecond
    simp [hhead hsecond]
  · rename_i hfirst
    simp [hhead hfirst]

theorem rootOf_append {cs ds : List Char} (hne : cs ≠ []) (h : cs.getLast? = some '/' → ds.head? ≠ some '/') :
    rootOf (cs ++ ds) = rootOf cs := by
  rw [rootOf_eq, rootOf_eq]
  match cs, hne with
  | [a], _ => cases ds <;> simp_all
  | [a, b], _ => by_cases hb : b = '/' <;> cases ds <;> simp_all
  | a :: b :: c :: rest, _ => simp

theorem isAbsolute_ofString_iff {s : String} : (ofString s).isAbsolute = true ↔ s.toList.head? = some '/' := by
  rw [isAbsolute, bne_iff_ne, ofString, rootOf_eq]
  split
  · rename_i h
    simp only [h, iff_true]
    split <;> decide
  · rename_i h
    simp [h]

theorem parts_ofString_append (s t : String) :
    (ofString (s ++ "/" ++ t)).parts = (ofString s).parts ++ (ofString t).parts := by
  have hpieces : Text.splitOn '/' (s ++ "/" ++ t) = Text.splitOn '/' s ++ Text.splitOn '/' t :=
    Text.splitOn_append '/' s t
  rw [ofString, hpieces, List.filter_append]
  rfl

theorem parts_ofString_append_of_getLast? {s : String} (h : s.toList.getLast? = some '/') (t : String) :
    (ofString (s ++ t)).parts = (ofString s).parts ++ (ofString t).parts := by
  obtain ⟨before, hbefore⟩ := List.getLast?_eq_some_iff.1 h
  obtain rfl : s = String.ofList before ++ "/" := String.toList_injective (by simpa using hbefore)
  have hempty : (ofString "").parts = [] := by decide +kernel
  have hs : (ofString (String.ofList before ++ "/" ++ "")).parts = (ofString (String.ofList before)).parts := by
    rw [parts_ofString_append, hempty, List.append_nil]
  rw [String.append_empty] at hs
  rw [parts_ofString_append, hs]

theorem ofString_joinText (s t : String) : ofString (joinText s t) = (ofString s).append (ofString t) := by
  rw [joinText, append]
  by_cases ht : t.toList.head? = some '/'
  · rw [if_pos ht, if_pos (isAbsolute_ofString_iff.2 ht)]
  rw [if_neg ht, if_neg (mt isAbsolute_ofString_iff.1 ht)]
  by_cases hs : s = ""
  · have hroot : (ofString t).root = .relative := by
      rw [ofString, rootOf_eq, if_neg ht]
    rw [if_pos (Or.inl hs), hs, String.empty_append]
    exact congrArg (Path.mk · (ofString t).parts) hroot
  have hne : s.toList ≠ [] := by simpa using hs
  by_cases hend : s.toList.getLast? = some '/'
  · have hroot : (ofString (s ++ t)).root = (ofString s).root := by
      rw [ofString, ofString, String.toList_append]
      exact rootOf_append hne fun _ => ht
    rw [if_pos (Or.inr hend)]
    exact congrArg₂ Path.mk hroot (parts_ofString_append_of_getLast? hend t)
  · have hroot : (ofString (s ++ "/" ++ t)).root = (ofString s).root := by
      rw [ofString, ofString, String.append_assoc, String.toList_append]
      exact rootOf_append hne fun h => absurd h hend
    rw [if_neg (not_or.2 ⟨hs, hend⟩)]
    exact congrArg₂ Path.mk hroot (parts_ofString_append s t)

/-! ## Normal forms -/

theorem append_assoc (p q r : Path) : p.append (q.append r) = (p.append q).append r := by
  by_cases hr : r.isAbsolute = true
  · simp [append, hr]
  · by_cases hq : q.isAbsolute = true
    · have hqr : isAbsolute ⟨q.root, q.parts ++ r.parts⟩ = true := hq
      simp [append, hr, hq, hqr]
    · have hqr : ¬isAbsolute ⟨q.root, q.parts ++ r.parts⟩ = true := hq
      simp [append, hr, hq, hqr]

theorem append_of_isAbsolute {q : Path} (h : q.isAbsolute = true) (p : Path) : p.append q = q := if_pos h

/-- A path that leads from the root by names alone. -/
structure IsNormal (p : Path) : Prop where
  isAbsolute : p.isAbsolute = true
  names : ∀ part ∈ p.parts, IsComponent part ∧ part ≠ ".."

variable {p q : Path}

theorem isNormal_normal (h : p.isAbsolute = true) (hp : ∀ part ∈ p.parts, IsComponent part) :
    p.normal.IsNormal := by
  have hup : ".." ∉ p.normal.parts :=
    up_not_mem_foldl_push (bne_iff_ne.1 h) List.not_mem_nil fun part hm => (hp part hm).1
  refine ⟨h, fun part hm => ⟨?_, fun he => hup (he ▸ hm)⟩⟩
  exact hp part ((mem_foldl_push hm).resolve_left List.not_mem_nil)

theorem IsNormal.up_not_mem (h : p.IsNormal) : ".." ∉ p.parts := fun hm => (h.names _ hm).2 rfl

theorem IsNormal.normal_eq (h : p.IsNormal) : p.normal = p :=
  congrArg (Path.mk p.root) (foldl_push_of_not_mem h.up_not_mem [])

theorem normal_append (h : p.isAbsolute = true) (hp : ∀ part ∈ p.parts, IsComponent part) (q : Path) :
    (p.normal.append q).normal = (p.append q).normal := by
  rw [append, append]
  split
  · rfl
  · have hstart : p.normal.parts.foldl (push p.root) [] = p.normal.parts :=
      foldl_push_of_not_mem (isNormal_normal h hp).up_not_mem []
    simp only [normal] at hstart ⊢
    rw [List.foldl_append, List.foldl_append, hstart]

theorem head?_join_ne_slash {parts : List String} (hp : ∀ part ∈ parts, IsComponent part) :
    (Text.join "/" parts).toList.head? ≠ some '/' := by
  intro h
  have hne : parts ≠ [] := by
    rintro rfl
    simp [Text.join] at h
  have hhead := (head?_text (p := ⟨.relative, parts⟩) hp).not.2 (by simp)
  rw [text, if_neg (by simp [hne])] at hhead
  exact hhead (by simpa [Root.text] using h)

theorem ofString_text (h : p.isAbsolute = true) (hp : ∀ part ∈ p.parts, IsComponent part) :
    ofString p.text = p := by
  have hroot : rootOf p.text.toList = p.root := by
    obtain ⟨root, parts⟩ := p
    have hne : root ≠ .relative := bne_iff_ne.1 h
    have happend : ∀ cs : List Char, cs ≠ [] → rootOf (cs ++ (Text.join "/" parts).toList) = rootOf cs :=
      fun cs hcs => rootOf_append hcs fun _ => head?_join_ne_slash hp
    rw [text, if_neg (by simp [hne]), String.toList_append]
    cases root with
    | relative => exact absurd rfl hne
    | single => exact happend "/".toList (by decide)
    | double => exact happend "//".toList (by decide)
  exact congrArg₂ Path.mk hroot (filter_splitOn_text hp)

/-! ## Absolute texts -/

/-- A text in canonical form: one slash or exactly two, and then names with a single
slash between any two of them. -/
structure IsCanonical (s : String) : Prop where
  nonempty : s ≠ ""
  names : ∃ root parts, root ≠ Root.relative ∧ s = root.text ++ Text.join "/" parts ∧
    ∀ part ∈ parts, part ≠ "" ∧ part ≠ "." ∧ part ≠ ".." ∧ '/' ∉ part.toList
  ending : s.toList.getLast? = some '/' → s = "/" ∨ s = "//"

theorem IsNormal.isCanonical (h : p.IsNormal) : IsCanonical p.text := by
  have hroot : p.root ≠ .relative := bne_iff_ne.1 h.isAbsolute
  have htext : p.text = p.root.text ++ Text.join "/" p.parts := if_neg fun hr => hroot hr.1
  have hslash : p.root.text = "/" ∨ p.root.text = "//" := by
    cases hr : p.root with
    | relative => exact absurd hr hroot
    | single => exact Or.inl rfl
    | double => exact Or.inr rfl
  refine ⟨text_ne_empty hroot, ⟨p.root, p.parts, hroot, htext, ?_⟩, ?_⟩
  · intro part hm
    obtain ⟨⟨hproper, hplain⟩, hup⟩ := h.names part hm
    rw [isProper, Bool.and_eq_true, bne_iff_ne, bne_iff_ne] at hproper
    exact ⟨hproper.1, hproper.2, hup, hplain⟩
  · intro hend
    by_cases hn : p.parts = []
    · rwa [htext, hn, Text.join, String.intercalate_nil, String.append_empty]
    · obtain ⟨c, hc, hne⟩ := exists_getLast?_join hn fun part hm => (h.names part hm).1
      rw [htext, String.toList_append, List.getLast?_append, hc] at hend
      exact absurd (Option.some.inj hend) hne

theorem IsNormal.absolute_text (h : p.IsNormal) (here : Path) : absolute here p.text = p.text := by
  rw [absolute, ofString_text h.isAbsolute fun part hm => (h.names part hm).1, append_of_isAbsolute h.isAbsolute,
    h.normal_eq]

section
variable {here : Path} (hroot : here.isAbsolute = true) (hparts : ∀ part ∈ here.parts, IsComponent part)
include hroot hparts

theorem isNormal_append (s : String) : (here.append (ofString s)).normal.IsNormal :=
  isNormal_normal (isAbsolute_append hroot _)
    (isComponent_of_mem_append hparts fun _ hm => isComponent_of_mem_ofString hm)

theorem absolute_joinText (d s : String) : absolute here (joinText d s) =
    absolute here (joinText (absolute here d) s) := by
  have hd := isNormal_append hroot hparts d
  have hread : ofString (absolute here d) = (here.append (ofString d)).normal :=
    ofString_text hd.isAbsolute fun part hm => (hd.names part hm).1
  have hworked : ((here.append (ofString d)).normal.append (ofString s)).normal =
      ((here.append (ofString d)).append (ofString s)).normal :=
    normal_append (isAbsolute_append hroot _)
      (isComponent_of_mem_append hparts fun _ hm => isComponent_of_mem_ofString hm) _
  rw [absolute, absolute, ofString_joinText, ofString_joinText, hread, append_assoc, append_assoc,
    append_of_isAbsolute hd.isAbsolute, hworked]

end

/-- **Absolute forms are canonical.** From a directory that is itself absolute, every text
gets a form that starts with one slash, or with exactly two if the joined text does, and
has names with single slashes between them and nothing else; the form is its own absolute
form. What is joined to a directory gets the form that it gets if the directory's form is
taken first, so two spellings of a package's directory give its modules the same names. -/
theorem absolute_canonical {cwd : String} (hcwd : cwd.toList.head? = some '/') :
    (∀ s, IsCanonical (absolute (ofString cwd) s) ∧
        rootOf (absolute (ofString cwd) s).toList = rootOf (joinText cwd s).toList ∧
        absolute (ofString cwd) (absolute (ofString cwd) s) = absolute (ofString cwd) s) ∧
      (∀ d s, absolute (ofString cwd) (joinText d s) =
        absolute (ofString cwd) (joinText (absolute (ofString cwd) d) s)) ∧
      ∀ d d', absolute (ofString cwd) d = absolute (ofString cwd) d' →
        ∀ l, PackageGraph.compileModules (.absolute (ofString cwd)) d l =
          PackageGraph.compileModules (.absolute (ofString cwd)) d' l := by
  have hroot : (ofString cwd).isAbsolute = true := isAbsolute_ofString_iff.2 hcwd
  have hparts : ∀ part ∈ (ofString cwd).parts, IsComponent part := fun _ hm => isComponent_of_mem_ofString hm
  refine ⟨fun s => ?_, absolute_joinText hroot hparts, fun d d' h l => ?_⟩
  · have hs := isNormal_append hroot hparts s
    refine ⟨hs.isCanonical, ?_, hs.absolute_text _⟩
    have hread : ofString (absolute (ofString cwd) s) = (ofString (joinText cwd s)).normal := by
      rw [ofString_joinText]
      exact ofString_text hs.isAbsolute fun part hm => (hs.names part hm).1
    exact congrArg root hread
  · have hnames : (fun s => ModuleNaming.absolute (ofString cwd) (joinText d s)) =
        fun s => ModuleNaming.absolute (ofString cwd) (joinText d' s) := by
      funext s
      have hsame : absolute (ofString cwd) (joinText d s) = absolute (ofString cwd) (joinText d' s) := by
        rw [absolute_joinText hroot hparts d, h, ← absolute_joinText hroot hparts d']
      exact congrArg Except.ok hsame
    rw [PackageGraph.compileModules, PackageGraph.compileModules, hnames]

/-- Two slashes stay, and what leads up from the root goes; a directory that is spelt in two ways has its
modules under one name. -/
theorem absolute_canonical_strange : "//w/./x".toList.head? = some '/' ∧
    absolute (ofString "//w/./x") "../../..//a/./b/.." = "//a" ∧ IsCanonical "//a" ∧
    absolute (ofString "//w/./x") "///a/" = "/a" ∧
    PackageGraph.compileModules (.absolute (ofString "//w/./x")) "../p//q"
      ⟨"package", none, .empty, ["c.dll"], []⟩ =
      PackageGraph.compileModules (.absolute (ofString "//w/./x")) "//w/p/./q/"
        ⟨"package", none, .empty, ["c.dll"], []⟩ := by
  have hcwd : "//w/./x".toList.head? = some '/' := by decide
  obtain ⟨hcanonical, -, hspelt⟩ := absolute_canonical hcwd
  have hup : absolute (ofString "//w/./x") "../../..//a/./b/.." = "//a" := by decide +kernel
  exact ⟨hcwd, hup, hup ▸ (hcanonical _).1, by decide +kernel, hspelt _ _ (by decide +kernel) _⟩

end ReferenceAudit.Path
